import SceneScript.Number.Binary64

/-!
# Faults

A run of the compiler either gives its result or stops early with a fault. A compile error is
a value the compilers return to their caller; a build names the category whose compilation
failed around it, so that its message reads `entities compilation failed: ...`. A panic ends
the whole program and passes through every caller unchanged.

Three operations of the standard library that the compilers use can panic:

* clamping a number to `[lo, hi]` asserts `lo ≤ hi`, so crossed bounds and a NaN bound panic;
* cutting a text at byte offsets panics unless both offsets lie on character boundaries of the
  text, the first no later than the second;
* arithmetic on bytes panics when its result does not fit in eight bits.
-/

namespace SceneScript

inductive CompileError where
  | serialize (detail : String)
  | category (name : String) (source : CompileError)
  deriving DecidableEq, Repr

namespace CompileError

def message : CompileError → String
  | serialize detail => "failed to serialize node data: " ++ detail
  | category name source => name ++ " compilation failed: " ++ source.message

end CompileError

/-- Why a run stops without a result. -/
inductive Fault where
  | panic (msg : String)
  | compile (e : CompileError)
  deriving DecidableEq, Repr

namespace Fault

/-- Names the category a compile error arose in; a panic passes unchanged. -/
def inCategory (name : String) : Fault → Fault
  | compile e => compile (.category name e)
  | f => f

/-- A result of byte arithmetic: it panics when the value does not fit in eight bits. -/
def byte (n : Nat) : Except Fault Nat :=
  if n < 256 then .ok n else .error (panic "attempt to add or multiply with overflow")

end Fault

namespace Binary64

/-- The clamp of the standard library: it asserts `lo ≤ hi` (false when either is NaN) and
then clamps as `clamp` does. -/
def clampAssert (x lo hi : Binary64) : Except Fault Binary64 :=
  if lo.le hi then .ok (x.clamp lo hi) else .error (.panic "min > max, or either was NaN")

end Binary64

namespace Text

def byteLength (cs : List Char) : Nat :=
  cs.foldr (fun c n => c.utf8Size + n) 0

/-- Drops the characters that take exactly the first `n` bytes; `none` when the offset `n`
falls inside a character or past the end. -/
def dropBytes? : List Char → Nat → Option (List Char)
  | cs, 0 => some cs
  | [], _ + 1 => none
  | c :: rest, n + 1 =>
      if c.utf8Size ≤ n + 1 then dropBytes? rest (n + 1 - c.utf8Size) else none

def takeBytes? : List Char → Nat → Option (List Char)
  | _, 0 => some []
  | [], _ + 1 => none
  | c :: rest, n + 1 =>
      if c.utf8Size ≤ n + 1 then (takeBytes? rest (n + 1 - c.utf8Size)).map (c :: ·) else none

/-- The text between the byte offsets `i` and `j`. It panics when `i` is past `j` or either
offset is not a character boundary of the text. -/
def sliceBytes (cs : List Char) (i j : Nat) : Except Fault (List Char) :=
  match dropBytes? cs i with
  | none => .error (.panic "byte index is not a char boundary or out of bounds")
  | some rest =>
      if i ≤ j then
        match takeBytes? rest (j - i) with
        | some piece => .ok piece
        | none => .error (.panic "byte index is not a char boundary or out of bounds")
      else .error (.panic "slice index starts after it ends")

end Text

end SceneScript
