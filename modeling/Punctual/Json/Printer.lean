import Punctual.Binary64.Shortest
import Punctual.Json

/-!
Writing JSON: on one line without spaces, or spread over lines with two blanks for each level.
-/
namespace Punctual.Json

/-- A digit below 16, in lower case. -/
def hexDigit (n : Nat) : Char := if n < 10 then Char.ofNat (48 + n) else Char.ofNat (87 + n)

/-- A character as it stands in a string. -/
def escape (c : Char) : List Char :=
  if c = '"' then ['\\', '"']
  else if c = '\\' then ['\\', '\\']
  else if c = '\n' then ['\\', 'n']
  else if c = '\r' then ['\\', 'r']
  else if c = '\t' then ['\\', 't']
  else if c = '\x08' then ['\\', 'b']
  else if c = '\x0c' then ['\\', 'f']
  else if c.toNat < 0x20 then ['\\', 'u', '0', '0', hexDigit (c.toNat / 16), hexDigit (c.toNat % 16)]
  else [c]

/-- A text between quotes. -/
def quoted (s : String) : List Char := '"' :: s.toList.flatMap escape ++ ['"']

/-- A number that is no number is written as null. -/
def realText (x : Binary64) : List Char := if x.isFinite then x.jsonText else "null".toList

mutual

/-- On one line. -/
def render : Json → List Char
  | .null => "null".toList
  | .bool true => "true".toList
  | .bool false => "false".toList
  | .int n => Numeral.ofInt n
  | .real x => realText x
  | .str s => quoted s
  | .arr items => '[' :: renderItems items ++ [']']
  | .obj fields => '\x7b' :: renderFields fields ++ ['\x7d']

/-- Items with commas between them. -/
def renderItems : List Json → List Char
  | [] => []
  | [item] => render item
  | item :: rest => render item ++ ',' :: renderItems rest

/-- Fields with commas between them. -/
def renderFields : List (String × Json) → List Char
  | [] => []
  | [(name, value)] => quoted name ++ ':' :: render value
  | (name, value) :: rest => quoted name ++ ':' :: (render value ++ ',' :: renderFields rest)

end

/-- A line break and the blanks of a level. -/
def breakLine (level : Nat) : List Char := '\n' :: List.replicate (2 * level) ' '

mutual

/-- Over several lines, from a level of nesting on. -/
def renderLines (level : Nat) : Json → List Char
  | .arr (item :: items) =>
    '[' :: renderItemLines (level + 1) (item :: items) ++ breakLine level ++ [']']
  | .obj (field :: fields) =>
    '\x7b' :: renderFieldLines (level + 1) (field :: fields) ++ breakLine level ++ ['\x7d']
  | .null => "null".toList
  | .bool true => "true".toList
  | .bool false => "false".toList
  | .int n => Numeral.ofInt n
  | .real x => realText x
  | .str s => quoted s
  | .arr [] => ['[', ']']
  | .obj [] => ['\x7b', '\x7d']

/-- Items on lines of their own. -/
def renderItemLines (level : Nat) : List Json → List Char
  | [] => []
  | [item] => breakLine level ++ renderLines level item
  | item :: rest =>
    breakLine level ++ renderLines level item ++ ',' :: renderItemLines level rest

/-- Fields on lines of their own. -/
def renderFieldLines (level : Nat) : List (String × Json) → List Char
  | [] => []
  | [(name, value)] => breakLine level ++ quoted name ++ ':' :: ' ' :: renderLines level value
  | (name, value) :: rest =>
    breakLine level ++ quoted name ++
      ':' :: ' ' :: (renderLines level value ++ ',' :: renderFieldLines level rest)

end

end Punctual.Json
