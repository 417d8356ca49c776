/-
Module: TypedQuery.Text.Casing
Purpose: Upper and lower case for all of Unicode.
Main exports: Casing.isUppercase, Casing.isLowercase, Casing.lowerChar,
  Casing.upperChar, Casing.lower, Casing.upper
-/
import TypedQuery.Text.CaseTable

namespace TypedQuery.Casing

open CaseTable (Run Shift)

/-- Is the character in one of the runs? -/
def inRuns (runs : List Run) (character : Char) : Bool :=
  runs.any (·.covers character.toNat)

def isUppercase (character : Char) : Bool := inRuns CaseTable.uppercase character

def isLowercase (character : Char) : Bool := inRuns CaseTable.lowercase character

/-- Uppercase, lowercase or titlecase. -/
def isCased (character : Char) : Bool :=
  isUppercase character || isLowercase character || inRuns CaseTable.titlecase character

/-- Skipped when a word is searched for cased characters. -/
def isIgnorable (character : Char) : Bool := inRuns CaseTable.ignorable character

/-- Move a character by the shift of its run; a character outside all runs stays. -/
def shifted (shifts : List Shift) (character : Char) : Char :=
  match shifts.find? (·.run.covers character.toNat) with
  | some shift => Char.ofNat (character.toNat + shift.distance).toNat
  | none => character

/-- Capital I with a dot above, the only character whose lowercase is longer. -/
def dottedCapitalI : Char := '\u0130'

/-- Lowercase of a single character, without regard to its neighbours. -/
def lowerChar (character : Char) : List Char :=
  if character = dottedCapitalI then ['i', '\u0307']
  else [shifted CaseTable.toLower character]

/-- Uppercase of a single character. -/
def upperChar (character : Char) : List Char :=
  match CaseTable.expansions.find? (·.1 == character.toNat) with
  | some (_, codes) => codes.map Char.ofNat
  | none => [shifted CaseTable.toUpper character]

/-- Is the first character that is not ignorable a cased one? -/
def meetsCased (characters : List Char) : Bool :=
  match characters.dropWhile isIgnorable with
  | character :: _ => isCased character
  | [] => false

/-- Capital sigma, whose lowercase depends on its place in the word. -/
def capitalSigma : Char := 'Σ'

/-- Lowercase of a sigma between what precedes it, nearest first, and what follows:
the final form at the end of a word. -/
def lowerSigma (before after : List Char) : Char :=
  if meetsCased before && !meetsCased after then 'ς' else 'σ'

/-- Lowercase of the characters behind `before`, which is given nearest first. -/
def lowerFrom (before : List Char) : List Char → List Char
  | [] => []
  | character :: after =>
    let here :=
      if character = capitalSigma then [lowerSigma before after] else lowerChar character
    here ++ lowerFrom (character :: before) after

/-- Lowercase of a text. -/
def lower (text : String) : String := String.ofList (lowerFrom [] text.toList)

/-- Uppercase of a text. -/
def upper (text : String) : String := String.ofList (text.toList.flatMap upperChar)

end TypedQuery.Casing
