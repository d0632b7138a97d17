import SceneScript.Json.Value
import SceneScript.Number.Layout

/-!
# Writing JSON text

A string is quoted with the escapes `\"`, `\\`, `\n`, `\r`, `\t`, `\b`, `\f`, and `\u00xx`
(lowercase hexadecimal) for the other characters below `U+0020`; every other character,
`/` and `DEL` included, stands for itself. An integer is written in plain decimal and a float
in the JSON number layout (`NumberLayout.json`), a non-finite float as `null`.

`Json.render` writes the compact form, with no blank between tokens. `Json.renderPretty`
writes one member or item per line, indented by two spaces per level, with `": "` after a key
and `[]`, `{}` for empty containers.
-/

namespace SceneScript

namespace Json

def hexDigit (n : Nat) : Char :=
  if n < 10 then Char.ofNat (48 + n) else Char.ofNat (87 + n)

def escapeChar (c : Char) : List Char :=
  if c = '"' then ['\\', '"']
  else if c = '\\' then ['\\', '\\']
  else if c = '\n' then ['\\', 'n']
  else if c = '\r' then ['\\', 'r']
  else if c = '\t' then ['\\', 't']
  else if c.toNat = 8 then ['\\', 'b']
  else if c.toNat = 12 then ['\\', 'f']
  else if c.toNat < 32 then ['\\', 'u', '0', '0', hexDigit (c.toNat / 16), hexDigit (c.toNat % 16)]
  else [c]

def quoteChars (cs : List Char) : List Char :=
  '"' :: cs.flatMap escapeChar ++ ['"']

def quote (s : String) : String :=
  String.ofList (quoteChars s.toList)

def numberText : JsonNumber → String
  | .int i => toString i
  | .float x => NumberLayout.json.render x

mutual
def render : Json → String
  | null => "null"
  | bool true => "true"
  | bool false => "false"
  | num n => numberText n
  | str s => quote s
  | arr items => "[" ++ renderItems items ++ "]"
  | obj fields => "\x7b" ++ renderFields fields ++ "\x7d"

def renderItems : List Json → String
  | [] => ""
  | [v] => render v
  | v :: rest => render v ++ "," ++ renderItems rest

def renderFields : List (String × Json) → String
  | [] => ""
  | [(k, v)] => quote k ++ ":" ++ render v
  | (k, v) :: rest => quote k ++ ":" ++ render v ++ "," ++ renderFields rest
end

def newline (level : Nat) : String :=
  "\n" ++ String.ofList (List.replicate (2 * level) ' ')

mutual
def renderPrettyAt (level : Nat) : Json → String
  | arr [] => "[]"
  | obj [] => "\x7b\x7d"
  | arr items => "[" ++ prettyItems (level + 1) items ++ newline level ++ "]"
  | obj fields => "\x7b" ++ prettyFields (level + 1) fields ++ newline level ++ "\x7d"
  | v => render v

def prettyItems (level : Nat) : List Json → String
  | [] => ""
  | [v] => newline level ++ renderPrettyAt level v
  | v :: rest => newline level ++ renderPrettyAt level v ++ "," ++ prettyItems level rest

def prettyFields (level : Nat) : List (String × Json) → String
  | [] => ""
  | [(k, v)] => newline level ++ quote k ++ ": " ++ renderPrettyAt level v
  | (k, v) :: rest =>
      newline level ++ quote k ++ ": " ++ renderPrettyAt level v ++ "," ++ prettyFields level rest
end

def renderPretty (v : Json) : String :=
  renderPrettyAt 0 v

end Json

end SceneScript
