import SceneScript.Text.Blank

/-!
# Writing scripts line by line

A `ScriptWriter` holds the script written so far, the current nesting depth and whether
comments are written. Each step appends whole lines:

* `line t` writes every line of `t` indented by four spaces per level of depth; a line of blanks
  only is written as an empty line, and an empty `t` as one empty line. Lines of `t` end at a
  line feed, and a carriage return right before a line feed belongs to the line ending.
* `comment t` writes `// t` on one line, each carriage return, line feed, line separator and
  paragraph separator of `t` turned into a space; without comments it writes nothing.
* `openBlock t` writes `t` and goes one level deeper; `closeBlock t` goes one level up (never
  below zero) and writes `t`.
-/

namespace SceneScript

/-- A script being written: the text so far, the nesting depth and whether comments are on. -/
structure ScriptWriter where
  out : String
  depth : Nat
  comments : Bool

namespace ScriptWriter

def start (comments : Bool) : ScriptWriter :=
  { out := "", depth := 0, comments := comments }

def plain : ScriptWriter :=
  start false

def indentUnit : String := "    "

def indentation (depth : Nat) : String :=
  String.join (List.replicate depth indentUnit)

def dropReturn : List Char → List Char
  | '\r' :: rest => rest
  | cs => cs

/-- The lines of a text: pieces ended by a line feed (a carriage return before it dropped),
then the rest if not empty. `cur` holds the current line reversed. -/
def splitLinesAux : List Char → List Char → List (List Char)
  | cur, [] => if cur.isEmpty then [] else [cur.reverse]
  | cur, '\n' :: rest => (dropReturn cur).reverse :: splitLinesAux [] rest
  | cur, c :: rest => splitLinesAux (c :: cur) rest

def splitLines (s : String) : List String :=
  (splitLinesAux [] s.toList).map String.ofList

def renderLine (depth : Nat) (l : String) : String :=
  if Text.isBlankText l then "\n" else indentation depth ++ l ++ "\n"

def lineText (depth : Nat) (t : String) : String :=
  if t.isEmpty then "\n" else String.join ((splitLines t).map (renderLine depth))

def emit (w : ScriptWriter) (s : String) : ScriptWriter :=
  { w with out := w.out ++ s }

def line (w : ScriptWriter) (t : String) : ScriptWriter :=
  w.emit (lineText w.depth t)

def isLineBreak (c : Char) : Bool :=
  c = '\r' || c = '\n' || c.toNat = 0x2028 || c.toNat = 0x2029

def flatten (t : String) : String :=
  String.ofList (t.toList.map fun c => if isLineBreak c then ' ' else c)

/-- Writes `// t` on one line when comments are on. -/
def comment (w : ScriptWriter) (t : String) : ScriptWriter :=
  if w.comments then w.line ("// " ++ flatten t) else w

def openBlock (w : ScriptWriter) (t : String) : ScriptWriter :=
  let w := w.line t
  { w with depth := w.depth + 1 }

/-- Goes one level up, never below zero, then writes `t`. -/
def closeBlock (w : ScriptWriter) (t : String) : ScriptWriter :=
  { w with depth := w.depth - 1 }.line t

end ScriptWriter

end SceneScript
