/-!
# TOML documents

A reader for TOML 1.0 documents, enough to decide whether a text is a valid document and to
read its tables, strings, integers and booleans. Floats and date-times are checked for their
syntax only, since nothing here reads their values.

Besides the grammar, a document must respect the rules on defining tables. A `[header]`
defines a table once; its parent tables are created *implicitly* and may be defined by their
own header later. A dotted key `a.b = v` creates *dotted* tables, which a header may extend
with sub-tables but never define, and which dotted keys may only reach through other dotted
tables. An inline table `{...}` is a value: nothing may add to it afterwards. `[[name]]`
appends a table to an array of tables. A key may be given only once in a table.
-/

namespace SceneScript

namespace Toml

/-- How a table came to be, which decides how it may be extended. -/
inductive TableKind where
  | explicit
  | implicit
  | dotted
  deriving DecidableEq, Repr

inductive Node where
  | string (s : String)
  | integer (i : Int)
  | float
  | boolean (b : Bool)
  | datetime
  | array (items : List Node)
  | table (items : List (String × Node)) (kind : TableKind) (inline : Bool)
  | tableArray (tables : List (List (String × Node)))
  deriving Repr

abbrev Items := List (String × Node)

def find? (k : String) (items : Items) : Option Node :=
  (items.find? fun kv => kv.1 = k).map (·.2)

def setItem (k : String) (v : Node) : Items → Items
  | [] => [(k, v)]
  | (k', v') :: rest => if k' = k then (k, v) :: rest else (k', v') :: setItem k v rest

def removeItem (k : String) (items : Items) : Items :=
  items.filter fun kv => kv.1 ≠ k

/-- Descends `path` from a table of kind `kind`, creating missing tables (dotted ones when
`dotted`, implicit ones otherwise), and applies `f` to the table reached. Only tables of the
same inline-ness are entered; through an array of tables its last table is entered. A dotted
descent may not enter an explicitly defined table. -/
def modifyAt {α : Type} (inline dotted : Bool) (f : Items → TableKind → Option (Items × α)) :
    List String → Items → TableKind → Option (Items × α)
  | [], items, kind => f items kind
  | k :: rest, items, _ =>
      match find? k items with
      | none =>
          let fresh := if dotted then TableKind.dotted else TableKind.implicit
          match modifyAt inline dotted f rest [] fresh with
          | some (child, a) => some (setItem k (.table child fresh inline) items, a)
          | none => none
      | some (.table child kind inl) =>
          if inl != inline then none
          else if dotted && kind == .explicit then none
          else
            match modifyAt inline dotted f rest child kind with
            | some (child', a) => some (setItem k (.table child' kind inl) items, a)
            | none => none
      | some (.tableArray tables) =>
          if inline then none
          else match tables.getLast? with
            | none => none
            | some last =>
                match modifyAt inline dotted f rest last .explicit with
                | some (last', a) =>
                    some (setItem k (.tableArray (tables.dropLast ++ [last'])) items, a)
                | none => none
      | some _ => none

/-- Adds `prefix.key = v` to a table: the table reached through a non-empty prefix must be a
dotted one, and the key must be new there. -/
def insertKeyval (inline : Bool) (pathPrefix : List String) (key : String) (v : Node)
    (items : Items) : Option Items :=
  let step := fun (target : Items) (kind : TableKind) =>
    if (kind == .dotted) == pathPrefix.isEmpty then none
    else if (find? key target).isSome then none
    else some (target ++ [(key, v)], ())
  (modifyAt inline true step pathPrefix items .explicit).map (·.1)

/-- A document being read: the tables finished so far, the table whose keys are being read,
its path, and whether it is an element of an array of tables. -/
structure Builder where
  root : Items
  current : Items
  path : List String
  isArray : Bool

namespace Builder

def start : Builder := ⟨[], [], [], false⟩

def finalize (b : Builder) : Option Items :=
  match b.path.getLast? with
  | none => some b.current
  | some key =>
      let place := fun (items : Items) (_ : TableKind) =>
        if b.isArray then
          match find? key items with
          | none => some (setItem key (.tableArray [b.current]) items, ())
          | some (.tableArray ts) => some (setItem key (.tableArray (ts ++ [b.current])) items, ())
          | some _ => none
        else
          match find? key items with
          | none => some (items ++ [(key, .table b.current .explicit false)], ())
          | some (.table _ kind false) =>
              if kind == .explicit then none
              else some (setItem key (.table b.current .explicit false) items, ())
          | some _ => none
      (modifyAt false false place b.path.dropLast b.root .explicit).map (·.1)

def startTable (b : Builder) (path : List String) : Option Builder := do
  let root ← b.finalize
  let key ← path.getLast?
  let take := fun (items : Items) (_ : TableKind) =>
    match find? key items with
    | none => some (items, ([] : Items))
    | some (.table t .implicit false) => some (removeItem key items, t)
    | some _ => none
  let (root, taken) ← modifyAt false false take path.dropLast root .explicit
  pure ⟨root, taken, path, false⟩

def startArrayTable (b : Builder) (path : List String) : Option Builder := do
  let root ← b.finalize
  let key ← path.getLast?
  let check := fun (items : Items) (_ : TableKind) =>
    match find? key items with
    | none => some (items, ())
    | some (.tableArray _) => some (items, ())
    | some _ => none
  let (root, _) ← modifyAt false false check path.dropLast root .explicit
  pure ⟨root, [], path, true⟩

def keyval (b : Builder) (path : List String) (v : Node) : Option Builder := do
  let key ← path.getLast?
  let current ← insertKeyval false path.dropLast key v b.current
  pure { b with current := current }

end Builder

/-! ## Characters and lines -/

def isBlank (c : Char) : Bool := c = ' ' || c = '\t'

def skipBlanks (cs : List Char) : List Char := cs.dropWhile isBlank

def isControl (c : Char) : Bool :=
  (c.toNat < 0x20 && c != '\t') || c.toNat = 0x7F

def isBareKeyChar (c : Char) : Bool := c.isAlphanum || c = '_' || c = '-'

def skipComment : List Char → Option (List Char)
  | '#' :: rest =>
      let (body, r) := rest.span fun c => c != '\n' && c != '\r'
      if body.any isControl then none else some r
  | cs => some cs

def lineEnd (cs : List Char) : Option (List Char) := do
  match ← skipComment (skipBlanks cs) with
  | [] => some []
  | '\n' :: r => some r
  | '\r' :: '\n' :: r => some r
  | _ => none

def skipSpaceAndComments : Nat → List Char → Option (List Char)
  | 0, cs => some cs
  | fuel + 1, cs =>
      match skipBlanks cs with
      | '\n' :: r => skipSpaceAndComments fuel r
      | '\r' :: '\n' :: r => skipSpaceAndComments fuel r
      | '#' :: r =>
          match skipComment ('#' :: r) with
          | some ('\n' :: r') => skipSpaceAndComments fuel r'
          | some ('\r' :: '\n' :: r') => skipSpaceAndComments fuel r'
          | some [] => some []
          | _ => none
      | r => some r

/-! ## Strings -/

def hexValue? (c : Char) : Option Nat :=
  if '0' ≤ c ∧ c ≤ '9' then some (c.toNat - 48)
  else if 'a' ≤ c ∧ c ≤ 'f' then some (c.toNat - 87)
  else if 'A' ≤ c ∧ c ≤ 'F' then some (c.toNat - 55)
  else none

def hexDigits? (cs : List Char) : Option Nat :=
  cs.foldlM (fun acc c => (hexValue? c).map (acc * 16 + ·)) 0

def scalar? (n : Nat) : Option Char :=
  if n < 0xD800 ∨ (0xE000 ≤ n ∧ n ≤ 0x10FFFF) then some (Char.ofNat n) else none

def escapeLetter? (c : Char) : Option Char :=
  if c = 'b' then some (Char.ofNat 8)
  else if c = 't' then some '\t'
  else if c = 'n' then some '\n'
  else if c = 'f' then some (Char.ofNat 12)
  else if c = 'r' then some '\r'
  else if c = '"' then some '"'
  else if c = '\\' then some '\\'
  else none

def readEscape : List Char → Option (Char × List Char)
  | 'u' :: a :: b :: c :: d :: rest => do
      let n ← hexDigits? [a, b, c, d]
      let ch ← scalar? n
      pure (ch, rest)
  | 'U' :: a :: b :: c :: d :: e :: f :: g :: h :: rest => do
      let n ← hexDigits? [a, b, c, d, e, f, g, h]
      let ch ← scalar? n
      pure (ch, rest)
  | e :: rest => (escapeLetter? e).map fun ch => (ch, rest)
  | [] => none

def readBasic : Nat → List Char → List Char → Option (String × List Char)
  | 0, _, _ => none
  | _ + 1, [], _ => none
  | _ + 1, '"' :: rest, acc => some (String.ofList acc.reverse, rest)
  | fuel + 1, '\\' :: rest, acc =>
      match readEscape rest with
      | some (ch, r) => readBasic fuel r (ch :: acc)
      | none => none
  | fuel + 1, c :: rest, acc => if isControl c then none else readBasic fuel rest (c :: acc)

def readLiteral (cs : List Char) : Option (String × List Char) :=
  let (body, rest) := cs.span fun c => c != '\''
  match rest with
  | '\'' :: r => if body.any isControl then none else some (String.ofList body, r)
  | _ => none

def dropFirstBreak : List Char → List Char
  | '\n' :: r => r
  | '\r' :: '\n' :: r => r
  | cs => cs

def skipContinuation : List Char → List Char
  | ' ' :: r => skipContinuation r
  | '\t' :: r => skipContinuation r
  | '\n' :: r => skipContinuation r
  | '\r' :: '\n' :: r => skipContinuation r
  | cs => cs

def isContinuation (cs : List Char) : Bool :=
  match skipBlanks cs with
  | '\n' :: _ => true
  | '\r' :: '\n' :: _ => true
  | _ => false

/-- Reads the body of a multi-line string delimited by three `q`s. A run of three to five
delimiters closes it, the extra ones belonging to the body; with `escapes`, backslash escapes
and line-ending backslashes apply. -/
def readMulti (q : Char) (escapes : Bool) :
    Nat → List Char → List Char → Option (String × List Char)
  | 0, _, _ => none
  | fuel + 1, cs, acc =>
      match cs with
      | [] => none
      | c :: rest =>
          if c = q then
            let (run, after) := cs.span (· = q)
            if run.length < 3 then readMulti q escapes fuel after (run ++ acc)
            else if run.length ≤ 5 then
              some (String.ofList (acc.reverse ++ run.drop 3), after)
            else none
          else if escapes && c = '\\' then
            if isContinuation rest then readMulti q escapes fuel (skipContinuation rest) acc
            else match readEscape rest with
              | some (ch, r) => readMulti q escapes fuel r (ch :: acc)
              | none => none
          else if c = '\n' then readMulti q escapes fuel rest ('\n' :: acc)
          else if c = '\r' then
            match rest with
            | '\n' :: r => readMulti q escapes fuel r ('\n' :: acc)
            | _ => none
          else if isControl c then none
          else readMulti q escapes fuel rest (c :: acc)

/-! ## Keys -/

def readSimpleKey (cs : List Char) : Option (String × List Char) :=
  match cs with
  | '"' :: rest => readBasic (rest.length + 1) rest []
  | '\'' :: rest => readLiteral rest
  | _ =>
      let (k, r) := cs.span isBareKeyChar
      if k.isEmpty then none else some (String.ofList k, r)

def readKeyPath : Nat → List Char → Option (List String × List Char)
  | 0, _ => none
  | fuel + 1, cs => do
      let (k, r) ← readSimpleKey cs
      match skipBlanks r with
      | '.' :: r' =>
          let (ks, r'') ← readKeyPath fuel (skipBlanks r')
          pure (k :: ks, r'')
      | _ => pure ([k], r)

/-! ## Numbers and date-times -/

def underscoredValue? (isDigit : Char → Bool) (base : Nat) (cs : List Char) : Option Nat :=
  match cs, cs.getLast? with
  | c :: _, some l =>
      if !isDigit c || !isDigit l then none
      else if (cs.zip cs.tail).any (fun p => p.1 = '_' && p.2 = '_') then none
      else if !cs.all (fun c => isDigit c || c = '_') then none
      else (cs.filter (· != '_')).foldlM (fun acc c => (hexValue? c).map (acc * base + ·)) 0
  | _, _ => none

def decimalPart? (cs : List Char) : Option Nat :=
  match cs with
  | ['0'] => some 0
  | '0' :: _ => none
  | _ => underscoredValue? Char.isDigit 10 cs

def splitSign : List Char → Option Bool × List Char
  | '+' :: r => (some false, r)
  | '-' :: r => (some true, r)
  | r => (none, r)

def signedWordBound : Int := 9223372036854775808

/-- The integer of a token: decimal with optional sign, or unsigned hexadecimal, octal or
binary with prefix; it must fit a signed 64-bit word. -/
def integer? (cs : List Char) : Option Int :=
  let inRange := fun (i : Int) =>
    if -signedWordBound ≤ i ∧ i < signedWordBound then some i else none
  match cs with
  | '0' :: 'x' :: r => (underscoredValue? (fun c => (hexValue? c).isSome) 16 r).bind (inRange ·)
  | '0' :: 'o' :: r => (underscoredValue? (fun c => '0' ≤ c ∧ c ≤ '7') 8 r).bind (inRange ·)
  | '0' :: 'b' :: r => (underscoredValue? (fun c => c = '0' ∨ c = '1') 2 r).bind (inRange ·)
  | _ =>
      let (neg, body) := splitSign cs
      (decimalPart? body).bind fun n => inRange (if neg == some true then -(n : Int) else n)

def isFloat (cs : List Char) : Bool :=
  let (_, body) := splitSign cs
  if body = ['i', 'n', 'f'] ∨ body = ['n', 'a', 'n'] then true
  else
    let (whole, rest) := body.span fun c => c.isDigit || c = '_'
    let (frac, rest) := match rest with
      | '.' :: r => let (f, r') := r.span fun c => c.isDigit || c = '_'; (some f, r')
      | r => (none, r)
    -- 0: no exponent, 1: a well-formed exponent, 2: anything else
    let expState : Nat := match rest with
      | [] => 0
      | e :: r =>
          if (e = 'e' ∨ e = 'E') ∧ (underscoredValue? Char.isDigit 10 (splitSign r).2).isSome then
            1
          else 2
    (decimalPart? whole).isSome &&
      (match frac with
        | some f => (underscoredValue? Char.isDigit 10 f).isSome
        | none => true) &&
      (expState = 1 || (expState = 0 && frac.isSome))

def fixedDigits? (n : Nat) (cs : List Char) : Option Nat :=
  if cs.length = n ∧ cs.all Char.isDigit then
    some (cs.foldl (fun acc c => acc * 10 + (c.toNat - 48)) 0)
  else none

def daysInMonth (year month : Nat) : Nat :=
  if month = 2 then
    (if year % 4 = 0 ∧ (year % 100 ≠ 0 ∨ year % 400 = 0) then 29 else 28)
  else if month = 4 ∨ month = 6 ∨ month = 9 ∨ month = 11 then 30
  else 31

def isDate (cs : List Char) : Bool :=
  match cs with
  | [y1, y2, y3, y4, '-', m1, m2, '-', d1, d2] =>
      match fixedDigits? 4 [y1, y2, y3, y4], fixedDigits? 2 [m1, m2], fixedDigits? 2 [d1, d2] with
      | some y, some m, some d => 1 ≤ m && m ≤ 12 && 1 ≤ d && d ≤ daysInMonth y m
      | _, _, _ => false
  | _ => false

def isTime (cs : List Char) : Bool :=
  match cs with
  | h1 :: h2 :: ':' :: m1 :: m2 :: ':' :: s1 :: s2 :: frac =>
      let fracOk := match frac with
        | [] => true
        | '.' :: ds => !ds.isEmpty && ds.all Char.isDigit
        | _ => false
      match fixedDigits? 2 [h1, h2], fixedDigits? 2 [m1, m2], fixedDigits? 2 [s1, s2] with
      | some h, some m, some s => h ≤ 23 && m ≤ 59 && s ≤ 60 && fracOk
      | _, _, _ => false
  | _ => false

def isTimeWithOffset (cs : List Char) : Bool :=
  isTime cs ||
  (match cs.getLast? with
    | some 'Z' => isTime cs.dropLast
    | some 'z' => isTime cs.dropLast
    | _ =>
        let n := cs.length
        if n < 6 then false
        else
          let off := cs.drop (n - 6)
          match off with
          | [s, h1, h2, ':', m1, m2] =>
              (s = '+' || s = '-') && isTime (cs.take (n - 6)) &&
                (match fixedDigits? 2 [h1, h2], fixedDigits? 2 [m1, m2] with
                  | some h, some m => h ≤ 23 && m ≤ 59
                  | _, _ => false)
          | _ => false)

def isDatetime (cs : List Char) : Bool :=
  isDate cs || isTime cs ||
  (cs.length > 11 &&
    isDate (cs.take 10) &&
    (match cs.drop 10 with
      | c :: rest => (c = 'T' || c = 't' || c = ' ') && isTimeWithOffset rest
      | [] => false))

def isTokenChar (c : Char) : Bool :=
  c.isAlphanum || c = '_' || c = '.' || c = ':' || c = '+' || c = '-'

def readScalar (cs : List Char) : Option (Node × List Char) :=
  let (tok, rest) := cs.span isTokenChar
  let (tok, rest) :=
    match rest with
    | ' ' :: r =>
        let (t2, r2) := r.span isTokenChar
        let joined := tok ++ [' '] ++ t2
        if isDate tok && isDatetime joined then (joined, r2) else (tok, rest)
    | _ => (tok, rest)
  if tok.isEmpty then none
  else if isDatetime tok then some (.datetime, rest)
  else match integer? tok with
    | some i => some (.integer i, rest)
    | none => if isFloat tok then some (.float, rest) else none

/-! ## Values -/

mutual
def readValue : Nat → List Char → Option (Node × List Char)
  | 0, _ => none
  | fuel + 1, cs =>
      match cs with
      | '"' :: '"' :: '"' :: rest =>
          (readMulti '"' true (rest.length + 1) (dropFirstBreak rest) []).map
            fun r => (.string r.1, r.2)
      | '"' :: rest => (readBasic (rest.length + 1) rest []).map fun r => (.string r.1, r.2)
      | '\'' :: '\'' :: '\'' :: rest =>
          (readMulti '\'' false (rest.length + 1) (dropFirstBreak rest) []).map
            fun r => (.string r.1, r.2)
      | '\'' :: rest => (readLiteral rest).map fun r => (.string r.1, r.2)
      | 't' :: 'r' :: 'u' :: 'e' :: rest => some (.boolean true, rest)
      | 'f' :: 'a' :: 'l' :: 's' :: 'e' :: rest => some (.boolean false, rest)
      | '[' :: rest => readArray fuel rest []
      | '\x7b' :: rest =>
          match skipBlanks rest with
          | '\x7d' :: r => some (.table [] .explicit true, r)
          | r => readInline fuel r []
      | _ => readScalar cs

def readArray : Nat → List Char → List Node → Option (Node × List Char)
  | 0, _, _ => none
  | fuel + 1, cs, acc =>
      match skipSpaceAndComments (cs.length + 1) cs with
      | some (']' :: r) => some (.array acc.reverse, r)
      | some r =>
          match readValue fuel r with
          | none => none
          | some (v, r') =>
              match skipSpaceAndComments (r'.length + 1) r' with
              | some (',' :: r'') => readArray fuel r'' (v :: acc)
              | some (']' :: r'') => some (.array (v :: acc).reverse, r'')
              | _ => none
      | none => none

/-- Reads the key/value pairs of an inline table after its opening brace or a comma, building
the table as it goes. -/
def readInline : Nat → List Char → Items → Option (Node × List Char)
  | 0, _, _ => none
  | fuel + 1, cs, items =>
      match readKeyPath (cs.length + 1) (skipBlanks cs) with
      | none => none
      | some (path, r) =>
          match skipBlanks r with
          | '=' :: r' =>
              match readValue fuel (skipBlanks r') with
              | none => none
              | some (v, r'') =>
                  let inserted := insertKeyval true path.dropLast (path.getLastD "") v items
                  match path.getLast?, inserted with
                  | some _, some items' =>
                      match skipBlanks r'' with
                      | ',' :: r3 => readInline fuel r3 items'
                      | '\x7d' :: r3 => some (.table items' .explicit true, r3)
                      | _ => none
                  | _, _ => none
          | _ => none
end

/-! ## Documents -/

def readLines (valueFuel : Nat) : Nat → List Char → Builder → Option Builder
  | 0, _, _ => none
  | fuel + 1, cs, b =>
      match skipBlanks cs with
      | [] => some b
      | '\n' :: r => readLines valueFuel fuel r b
      | '\r' :: '\n' :: r => readLines valueFuel fuel r b
      | '#' :: r => do
          let r ← lineEnd ('#' :: r)
          readLines valueFuel fuel r b
      | '[' :: '[' :: r => do
          let (path, r) ← readKeyPath (r.length + 1) (skipBlanks r)
          match skipBlanks r with
          | ']' :: ']' :: r' =>
              let r'' ← lineEnd r'
              let b ← b.startArrayTable path
              readLines valueFuel fuel r'' b
          | _ => none
      | '[' :: r => do
          let (path, r) ← readKeyPath (r.length + 1) (skipBlanks r)
          match skipBlanks r with
          | ']' :: r' =>
              let r'' ← lineEnd r'
              let b ← b.startTable path
              readLines valueFuel fuel r'' b
          | _ => none
      | line => do
          let (path, r) ← readKeyPath (line.length + 1) line
          match skipBlanks r with
          | '=' :: r' =>
              let (v, r'') ← readValue valueFuel (skipBlanks r')
              let r3 ← lineEnd r''
              let b ← b.keyval path v
              readLines valueFuel fuel r3 b
          | _ => none

def dropByteOrderMark : List Char → List Char
  | c :: rest => if c.toNat = 0xFEFF then rest else c :: rest
  | [] => []

/-- Reads a document into its top-level table; `none` when the text is not a valid document. -/
def parse (s : String) : Option Items := do
  let cs := dropByteOrderMark s.toList
  let b ← readLines (2 * cs.length + 2) (cs.length + 1) cs Builder.start
  b.finalize

end Toml

end SceneScript
