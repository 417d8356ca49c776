/-
Module: TypedQuery.Toml.Writer
Purpose: Writing TOML strings and entries. The form of a string is the first in a
  fixed order that needs no escapes; escapes are the last resort.
Trusted boundary: the order of the forms, the escapes and the layout of an entry stand for
  behaviour assumed of the TOML library that writes conventions. No code of the query library
  decides them.
Main exports: Toml.writeString, Toml.writeEntry
-/
import TypedQuery.Toml.Text

namespace TypedQuery.Toml

/-- Length of the longest row of a character. -/
def longestRow (character : Char) : List Char → Nat
  | [] => 0
  | first :: rest =>
    max ((first :: rest).takeWhile (· == character)).length (longestRow character rest)

/-- A character that no form without escapes can hold. -/
def isControl (character : Char) : Bool :=
  !isPrintable character && character != '\n'

/-- The forms of a string. -/
inductive Form
  | basic
  | literal
  | multiBasic
  | multiLiteral
deriving Repr, DecidableEq

/-- Form in which a text is written. -/
def Form.of (text : List Char) : Form :=
  let control := text.any isControl
  let newline := text.contains '\n'
  if !control && !newline && !text.contains '"' && !text.contains '\\' then .basic
  else if !control && !newline && !text.contains '\'' then .literal
  else if !control && !text.contains '\\' && longestRow '"' text ≤ 2 then .multiBasic
  else if !control && longestRow '\'' text ≤ 2 then .multiLiteral
  else if newline then .multiBasic
  else .basic

/-- Upper-case hexadecimal digit. -/
def upperHexDigit (digit : Nat) : Char :=
  if digit < 10 then Char.ofNat ('0'.toNat + digit) else Char.ofNat ('A'.toNat + digit - 10)

/-- A character other than a quote or a line end between quotes. -/
def escaped (character : Char) : List Char :=
  if character = '\x08' then ['\\', 'b']
  else if character = '\t' then ['\\', 't']
  else if character = '\x0c' then ['\\', 'f']
  else if character = '\r' then ['\\', 'r']
  else if character = '\\' then ['\\', '\\']
  else if isControl character then
    ['\\', 'u', '0', '0', upperHexDigit (character.toNat / 16),
      upperHexDigit (character.toNat % 16)]
  else [character]

/-- A character between quotes in one line. -/
def basicEscaped (character : Char) : List Char :=
  if character = '"' then ['\\', '"']
  else if character = '\n' then ['\\', 'n']
  else escaped character

/-- Text between quotes over several lines: of quotes in a row each third is
escaped. `row` counts the quotes just written. -/
def multiEscaped (row : Nat) : List Char → List Char
  | [] => []
  | character :: rest =>
    if character = '"' then
      if row = 2 then '\\' :: '"' :: multiEscaped 0 rest else '"' :: multiEscaped (row + 1) rest
    else if character = '\n' then '\n' :: multiEscaped 0 rest
    else escaped character ++ multiEscaped 0 rest

/-- Three quotes around a text that holds a line end open with a line end. -/
def opening (text : List Char) : List Char := if text.contains '\n' then ['\n'] else []

/-- The characters of a written string. -/
def stringChars (text : List Char) : List Char :=
  match Form.of text with
  | .basic => '"' :: text.flatMap basicEscaped ++ ['"']
  | .literal => '\'' :: text ++ ['\'']
  | .multiBasic => "\"\"\"".toList ++ opening text ++ multiEscaped 0 text ++ "\"\"\"".toList
  | .multiLiteral => "'''".toList ++ opening text ++ text ++ "'''".toList

/-- Write a string. -/
def writeString (text : String) : String := String.ofList (stringChars text.toList)

/-- Write an entry with a bare key and a string. -/
def writeEntry (key value : String) : String := key ++ " = " ++ writeString value ++ "\n"

end TypedQuery.Toml
