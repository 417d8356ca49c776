/-
Module: TypedQuery.Text.Json
Purpose: JSON texts: quoted strings and objects.
Main exports: Json.quote, Json.object
-/

namespace TypedQuery.Json

/-- Lower-case hexadecimal digit. -/
def hexDigit (digit : Nat) : Char := Nat.digitChar digit

/-- How one character stands inside quotes: the quote, the backslash and the
control characters below the blank are escaped, all others stand for
themselves. -/
def escape (character : Char) : List Char :=
  if character = '"' then ['\\', '"']
  else if character = '\\' then ['\\', '\\']
  else if character = '\x08' then ['\\', 'b']
  else if character = '\x0c' then ['\\', 'f']
  else if character = '\n' then ['\\', 'n']
  else if character = '\r' then ['\\', 'r']
  else if character = '\t' then ['\\', 't']
  else if character.toNat < 0x20 then
    ['\\', 'u', '0', '0', hexDigit (character.toNat / 16), hexDigit (character.toNat % 16)]
  else [character]

/-- A JSON string. -/
def quote (text : String) : String :=
  String.ofList ('"' :: text.toList.flatMap escape ++ ['"'])

/-- A compact JSON object from its keys and the texts of its values, in order. -/
def object (entries : List (String × String)) : String :=
  let members := entries.map fun (key, value) => quote key ++ ":" ++ value
  "\x7b" ++ String.intercalate "," members ++ "\x7d"

end TypedQuery.Json
