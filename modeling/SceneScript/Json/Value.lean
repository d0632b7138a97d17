import SceneScript.Number.Binary64

/-!
# JSON values

A `Json` value is the data that flows, scenes and configurations are made of. A number keeps
its kind: an integer literal that fits a 64-bit word stays an integer, every other number is a
binary64 datum, so `3` and `3.0` are different values.

Objects hold their members as a list. The reader keeps members in document order, duplicates
included; a *canonical* object has strictly increasing keys (code point order) and is what
every other operation works on. `Json.canonical` sorts the members of every object, the last
of several members with one key winning.
-/

namespace SceneScript

/-- A JSON number: an integer of a 64-bit word (unsigned, or signed when negative) or a
binary64 datum. -/
inductive JsonNumber where
  | int (i : Int)
  | float (x : Binary64)
  deriving DecidableEq, Repr

inductive Json where
  | null
  | bool (b : Bool)
  | num (n : JsonNumber)
  | str (s : String)
  | arr (items : List Json)
  | obj (fields : List (String × Json))
  deriving Repr

namespace JsonNumber

def toBinary64 : JsonNumber → Binary64
  | int i => Binary64.ofInt i
  | float x => x

end JsonNumber

namespace Json

def float (x : Binary64) : Json := num (.float x)

def int (i : Int) : Json := num (.int i)

/-- Inserts a member into a list of members with strictly increasing keys, replacing a member
with the same key. -/
def insertField (k : String) (v : Json) : List (String × Json) → List (String × Json)
  | [] => [(k, v)]
  | (k', v') :: rest =>
      if k < k' then (k, v) :: (k', v') :: rest
      else if k = k' then (k, v) :: rest
      else (k', v') :: insertField k v rest

/-- The members in strictly increasing key order, a later member replacing an earlier one with
the same key. -/
def sortFields (fields : List (String × Json)) : List (String × Json) :=
  fields.foldl (fun acc kv => insertField kv.1 kv.2 acc) []

def object (fields : List (String × Json)) : Json :=
  obj (sortFields fields)

mutual
/-- The canonical form: every object sorted by key, the last of equal keys winning. -/
def canonical : Json → Json
  | arr items => arr (canonicalItems items)
  | obj fields => obj (sortFields (canonicalFields fields))
  | v => v

def canonicalItems : List Json → List Json
  | [] => []
  | v :: rest => canonical v :: canonicalItems rest

def canonicalFields : List (String × Json) → List (String × Json)
  | [] => []
  | (k, v) :: rest => (k, canonical v) :: canonicalFields rest
end

def get? (v : Json) (k : String) : Option Json :=
  match v with
  | obj fields => (fields.find? fun kv => kv.1 = k).map (·.2)
  | _ => none

def fields? : Json → Option (List (String × Json))
  | obj fields => some fields
  | _ => none

def items? : Json → Option (List Json)
  | arr items => some items
  | _ => none

def str? : Json → Option String
  | str s => some s
  | _ => none

def isNull : Json → Bool
  | null => true
  | _ => false

def nonNull? (v : Json) : Option Json :=
  if v.isNull then none else some v

end Json

end SceneScript
