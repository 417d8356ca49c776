/-
Module: TypedQuery.Naming.LetterCase
Purpose: The letter case of resolved names.
Main exports: LetterCase, LetterCase.apply, snakeCase
-/
import TypedQuery.Text.Casing

namespace TypedQuery

/-! ### Snake case -/

/-- Does a word start at an uppercase character between these neighbours? It does
behind a lowercase character or digit, and at the last capital of a run of
capitals that lowercase characters follow. -/
def startsWord (previous next : Option Char) : Bool :=
  match previous with
  | none => false
  | some character =>
    if character = '_' then false
    else if Casing.isLowercase character || character.isDigit then true
    else if Casing.isUppercase character then next.any Casing.isLowercase
    else false

/-- Snake case of the characters behind `previous`. -/
def snakeFrom (previous : Option Char) : List Char → List Char
  | [] => []
  | character :: rest =>
    if Casing.isUppercase character then
      (if startsWord previous rest.head? then ['_'] else []) ++
        Casing.lowerChar character ++ snakeFrom (some character) rest
    else character :: snakeFrom (some character) rest

/-- Words in lower case with underscores between them. -/
def snakeCase (name : String) : String := String.ofList (snakeFrom none name.toList)

/-! ### Letter cases -/

/-- What happens to the letters of a name. -/
inductive LetterCase
  | preserve
  | lower
  | upper
  | snake
deriving Repr, DecidableEq, Inhabited

namespace LetterCase

/-- Put a name into the letter case. -/
def apply : LetterCase → String → String
  | .preserve, name => name
  | .lower, name => Casing.lower name
  | .upper, name => Casing.upper name
  | .snake, name => snakeCase name

/-- Word for the letter case in a configuration. -/
def keyword : LetterCase → String
  | .preserve => "preserve"
  | .lower => "lower"
  | .upper => "upper"
  | .snake => "snake"

/-- The letter case that a word stands for. -/
def ofKeyword? (word : String) : Option LetterCase :=
  [preserve, lower, upper, snake].find? (·.keyword == word)

end LetterCase

end TypedQuery
