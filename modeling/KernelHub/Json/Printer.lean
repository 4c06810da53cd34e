import KernelHub.Double.Shortest
import KernelHub.Hex
import KernelHub.Json

/-
The compact text of a JSON value: no blanks, members in the order they stand,
and no escape where none is needed.
-/

namespace KernelHub.Json

/-- The escape of a character inside a string. Only the quote, the backslash and
the controls below the blank have one. -/
def escape (c : Char) : List Char :=
  if c = '"' then ['\\', '"']
  else if c = '\\' then ['\\', '\\']
  else if c = '\x08' then ['\\', 'b']
  else if c = '\x0c' then ['\\', 'f']
  else if c = '\n' then ['\\', 'n']
  else if c = '\r' then ['\\', 'r']
  else if c = '\t' then ['\\', 't']
  else if c.toNat < 0x20 then '\\' :: 'u' :: Hex.text 4 c.toNat
  else [c]

/-- A string between quotes. -/
def quoted (s : String) : List Char := '"' :: s.toList.flatMap escape ++ ['"']

mutual

/-- The compact text. -/
def chars : Json → List Char
  | .null => "null".toList
  | .bool true => "true".toList
  | .bool false => "false".toList
  | .int n => (toString n).toList
  | .double x => x.chars
  | .string s => quoted s
  | .array [] => ['[', ']']
  | .array (v :: vs) => '[' :: v.chars ++ charsItems vs
  | .object [] => ['{', '}']
  | .object ((k, v) :: ms) => '{' :: quoted k ++ ':' :: v.chars ++ charsMembers ms

/-- The further items of an array and its end. -/
def charsItems : List Json → List Char
  | [] => [']']
  | v :: vs => ',' :: v.chars ++ charsItems vs

/-- The further members of an object and its end. -/
def charsMembers : List (String × Json) → List Char
  | [] => ['}']
  | (k, v) :: ms => ',' :: quoted k ++ ':' :: v.chars ++ charsMembers ms

end

def text (v : Json) : String := String.ofList v.chars

end KernelHub.Json
