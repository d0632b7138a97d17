import SceneScript.Json.Writer
import SceneScript.Run.Fault

/-!
# Literals in generated scripts

Every value that a script embeds passes through one of these writers, so no text from a scene
can end a string or a line early.

* `Script.str`: a quoted JSON string; the line and paragraph separators, which JSON leaves raw,
  become the escapes `\u2028` and `\u2029`.
* `Script.json`: pretty JSON text with the same two escapes. Its result carries the
  serialization error of the signature, which writing a JSON value never raises.
* `Script.ident`: an identifier made of ASCII letters, digits and underscores, every other
  character becoming an underscore, with a leading underscore when it would be empty or start
  with a digit.
* `Script.number`: the script layout of a number after adding positive zero (so negative zero
  is `0`); a non-finite number is `0`.
-/

namespace SceneScript

namespace Script

def lineSeparator : Char := Char.ofNat 0x2028

def paragraphSeparator : Char := Char.ofNat 0x2029

/-- Replaces each line or paragraph separator of the text by its six-character escape. -/
def escapeSeparators (s : String) : String :=
  String.ofList (s.toList.flatMap fun c =>
    if c = lineSeparator then "\\u2028".toList
    else if c = paragraphSeparator then "\\u2029".toList
    else [c])

def str (s : String) : String :=
  escapeSeparators (Json.quote s)

def json (v : Json) : Except Fault String :=
  .ok (escapeSeparators (Json.renderPretty v))

def isIdentChar (c : Char) : Bool :=
  c.isAlphanum || c = '_'

/-- An identifier from any text. -/
def ident (s : String) : String :=
  let cs := s.toList.map fun c => if isIdentChar c then c else '_'
  match cs with
  | [] => "_"
  | c :: _ => if c.isDigit then String.ofList ('_' :: cs) else String.ofList cs

def block (lines : List String) : String :=
  "\n".intercalate lines

def bool (b : Bool) : String :=
  if b then "true" else "false"

def number (x : Binary64) : String :=
  if x.isFinite then NumberLayout.script.render (x + Binary64.zero) else "0"

end Script

end SceneScript
