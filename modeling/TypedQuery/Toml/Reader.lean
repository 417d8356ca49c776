/-
Module: TypedQuery.Toml.Reader
Purpose: Reading TOML documents.
Trusted boundary: the grammar that is read, and what it refuses, stand for behaviour assumed of
  the TOML library that reads conventions. No code of the query library decides them.
Main exports: Toml.readKey, Toml.readValue, Toml.readDocument
-/
import TypedQuery.Toml.Scalar
import TypedQuery.Toml.Text

namespace TypedQuery.Toml

/-! ### Blanks and comments -/

/-- Leave out blanks at the front. -/
def skipBlanks (input : List Char) : List Char := input.dropWhile isBlank

/-- Leave out a comment at the front, up to the end of its line. -/
def skipComment : List Char → List Char
  | '#' :: rest => rest.dropWhile isPrintable
  | rest => rest

/-- The end of a line, or of the input. -/
def readLineEnd : List Char → Option (List Char)
  | [] => some []
  | '\n' :: rest => some rest
  | '\r' :: '\n' :: rest => some rest
  | _ => none

/-- What may follow an entry or a header on its line. -/
def readTrailing (input : List Char) : Option (List Char) :=
  readLineEnd (skipComment (skipBlanks input))

/-- Leave out blanks, line ends and comments between the values of an array; a
comment must end with its line. -/
def skipSpace : Nat → List Char → Option (List Char)
  | 0, _ => none
  | fuel + 1, input =>
    match skipBlanks input with
    | '\n' :: rest => skipSpace fuel rest
    | '\r' :: '\n' :: rest => skipSpace fuel rest
    | '#' :: rest =>
      let rest := rest.dropWhile isPrintable
      if startsNewline rest then skipSpace fuel (dropNewline rest) else none
    | '\r' :: _ => none
    | rest => some rest

/-! ### Keys -/

/-- May stand in a key without quotes. -/
def isBare (character : Char) : Bool :=
  character.isAlphanum || character == '_' || character == '-'

/-- One part of a key: quoted, or bare and not empty. -/
def readSimpleKey : List Char → Option (String × List Char)
  | '"' :: rest => (readBasic .plain rest).map fun (text, rest) => (String.ofList text, rest)
  | '\'' :: rest => (readLiteral rest).map fun (text, rest) => (String.ofList text, rest)
  | input =>
    let bare := input.takeWhile isBare
    if bare.isEmpty then none else some (String.ofList bare, input.dropWhile isBare)

/-- Parts of a key divided by dots, with blanks around them. -/
def readKeyParts : Nat → List Char → Option (List String × List Char)
  | 0, _ => none
  | fuel + 1, input => do
    let (part, rest) ← readSimpleKey (skipBlanks input)
    match skipBlanks rest with
    | '.' :: rest =>
      let (parts, rest) ← readKeyParts fuel rest
      return (part :: parts, rest)
    | rest => return ([part], rest)

/-- Keys and values may not be nested as deep as this. -/
def depthLimit : Nat := 80

/-- A key: the parts in front and the last one. -/
def readKey (input : List Char) : Option (List String × String × List Char) := do
  let (parts, rest) ← readKeyParts (input.length + 1) input
  let key ← parts.getLast?
  if depthLimit ≤ parts.length then none else some (parts.dropLast, key, rest)

/-! ### Values -/

mutual

/-- Read a value; `depth` arrays and inline tables are open around it. -/
def readValueAt : Nat → Nat → List Char → Option (Item × List Char)
  | 0, _, _ => none
  | _, _, [] => none
  | fuel + 1, depth, character :: rest =>
    if character = '"' ∨ character = '\'' then
      (readString (character :: rest)).map fun (text, rest) => (.string text, rest)
    else if character = '[' then
      if depthLimit ≤ depth + 1 then none
      else (readArray fuel (depth + 1) rest).map fun (items, rest) => (.array items, rest)
    else if character = '\x7b' then
      if depthLimit ≤ depth + 1 then none
      else do
        let (entries, rest) ← readInline fuel (depth + 1) rest
        let table ← Table.empty.defineAll entries
        return (.inline table, rest)
    else if character = 't' ∨ character = 'f' then readBoolean (character :: rest)
    else readNumber (character :: rest)

/-- Read the values of an array up to its closing bracket. -/
def readArray : Nat → Nat → List Char → Option (List Item × List Char)
  | 0, _, _ => none
  | fuel + 1, depth, input => do
    match ← skipSpace (input.length + 1) input with
    | ']' :: rest => return ([], rest)
    | input =>
      let (item, rest) ← readValueAt fuel depth input
      match ← skipSpace (rest.length + 1) rest with
      | ',' :: rest =>
        let (items, rest) ← readArray fuel depth rest
        return (item :: items, rest)
      | ']' :: rest => return ([item], rest)
      | _ => none

/-- Read the entries of an inline table up to its closing brace. -/
def readInline : Nat → Nat → List Char →
    Option (List (List String × String × Item) × List Char)
  | 0, _, _ => none
  | fuel + 1, depth, input =>
    match skipBlanks input with
    | '\x7d' :: rest => some ([], rest)
    | input => readInlineEntries fuel depth input

/-- Read one or more entries of an inline table; there is no comma behind the last
one. -/
def readInlineEntries : Nat → Nat → List Char →
    Option (List (List String × String × Item) × List Char)
  | 0, _, _ => none
  | fuel + 1, depth, input => do
    let (path, key, rest) ← readKey input
    let rest ← expect ['='] rest
    let (item, rest) ← readValueAt fuel depth (skipBlanks rest)
    match skipBlanks rest with
    | ',' :: rest =>
      let (entries, rest) ← readInlineEntries fuel depth rest
      return ((path, key, item) :: entries, rest)
    | '\x7d' :: rest => return ([(path, key, item)], rest)
    | _ => none

end

/-- Read a value. Every other call of its readers consumes a character, so the
fuel suffices. -/
def readValue (input : List Char) : Option (Item × List Char) :=
  readValueAt (2 * input.length + 2) 0 input

/-! ### Documents -/

/-- Read a key, an equals sign and a value up to the end of the line. -/
def readEntry (input : List Char) : Option (List String × String × Item × List Char) := do
  let (path, key, rest) ← readKey input
  let rest ← expect ['='] rest
  let (item, rest) ← readValue (skipBlanks rest)
  let rest ← readTrailing rest
  return (path, key, item, rest)

/-- Read the path of a header up to the end of the line. -/
def readHeader (close : List Char) (input : List Char) : Option (List String × List Char) := do
  let (path, key, rest) ← readKey input
  let rest ← expect close rest
  let rest ← readTrailing rest
  return (path ++ [key], rest)

/-- Read line by line. -/
def readLines : Nat → Draft → List Char → Option Table
  | 0, _, _ => none
  | fuel + 1, draft, input =>
    match skipBlanks input with
    | [] => draft.finish
    | '#' :: rest => do
      let rest ← readLineEnd (skipComment ('#' :: rest))
      readLines fuel draft rest
    | '\n' :: rest => readLines fuel draft rest
    | '\r' :: '\n' :: rest => readLines fuel draft rest
    | '[' :: '[' :: rest => do
      let (path, rest) ← readHeader [']', ']'] rest
      let draft ← draft.onArrayHeader path
      readLines fuel draft rest
    | '[' :: rest => do
      let (path, rest) ← readHeader [']'] rest
      let draft ← draft.onHeader path
      readLines fuel draft rest
    | input => do
      let (path, key, item, rest) ← readEntry input
      let draft ← draft.onEntry path key item
      readLines fuel draft rest

/-- The mark that may stand in front of a text to tell its byte order. -/
def byteOrderMark : Char := '\ufeff'

/-- Leave out a byte order mark at the front. -/
def dropMark : List Char → List Char
  | character :: rest => if character = byteOrderMark then rest else character :: rest
  | [] => []

/-- Read a document. -/
def readDocument (text : String) : Option Table :=
  let input := dropMark text.toList
  readLines (input.length + 1) .start input

end TypedQuery.Toml
