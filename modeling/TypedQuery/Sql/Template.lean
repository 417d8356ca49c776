/-
Module: TypedQuery.Sql.Template
Purpose: SQL texts with numbered slots.
Main exports: Template, Template.parse, Template.fill
-/

namespace TypedQuery.Sql

/-- A character that stands for itself, or a slot. -/
inductive Piece
  | char (character : Char)
  | slot (index : Nat)
deriving Repr, DecidableEq, Inhabited

/-- A text with slots, each to be replaced by the argument of its number. -/
structure Template where
  pieces : List Piece
deriving Repr, DecidableEq, Inhabited

namespace Template

/-- Slot numbers are below this bound. -/
def slotBound : Nat := 18446744073709551616

/-- Value of a list of decimal digits. -/
def digitsValue (digits : List Char) : Nat :=
  digits.foldl (fun value digit => 10 * value + (digit.toNat - '0'.toNat)) 0

/-- The slot number that stands between two braces: decimal digits, at least one,
behind an optional plus sign. -/
def slotNumber? (inside : List Char) : Option Nat :=
  let digits :=
    match inside with
    | '+' :: digits => digits
    | digits => digits
  if digits.isEmpty || !digits.all Char.isDigit then none
  else if digitsValue digits < slotBound then some (digitsValue digits)
  else none

/-- May `character` follow `inside` between the braces of a slot? -/
def continuesSlot (inside : List Char) (character : Char) : Bool :=
  character.isDigit || (character == '+' && inside.isEmpty)

/-- Characters as pieces that stand for themselves. -/
def literally (characters : List Char) : List Piece := characters.map .char

/-- Read pieces from left to right. `pending` holds what was read since an opening
brace that may still turn out to open a slot; a brace that does not is a
character like any other. -/
def scan : Option (List Char) → List Char → List Piece
  | none, [] => []
  | some inside, [] => literally ('\x7b' :: inside)
  | none, character :: rest =>
    if character = '\x7b' then scan (some []) rest
    else .char character :: scan none rest
  | some inside, character :: rest =>
    if character = '\x7d' then
      match slotNumber? inside with
      | some index => .slot index :: scan none rest
      | none => literally ('\x7b' :: inside ++ ['\x7d']) ++ scan none rest
    else if continuesSlot inside character then scan (some (inside ++ [character])) rest
    else if character = '\x7b' then literally ('\x7b' :: inside) ++ scan (some []) rest
    else literally ('\x7b' :: inside ++ [character]) ++ scan none rest

/-- Read a template from its text, where a number between braces is a slot. -/
def parse (text : String) : Template := ⟨scan none text.toList⟩

/-- What a piece is replaced by; a slot without an argument is left out. -/
def fillPiece (args : List String) : Piece → List Char
  | .char character => [character]
  | .slot index =>
    match args[index]? with
    | some arg => arg.toList
    | none => []

/-- Replace each slot by its argument, in one pass: the arguments are copied as
they are. -/
def fill (template : Template) (args : List String) : String :=
  String.ofList (template.pieces.flatMap (fillPiece args))

end Template

end TypedQuery.Sql
