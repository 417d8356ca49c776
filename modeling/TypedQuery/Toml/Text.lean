/-
Module: TypedQuery.Toml.Text
Purpose: Reading the four forms of TOML strings.
Trusted boundary: their grammar is assumed of the TOML library, as that of Toml.Reader is.
Main exports: Toml.readBasic, Toml.readLiteral, Toml.readMultiBasic,
  Toml.readMultiLiteral, Toml.readString
-/

namespace TypedQuery.Toml

/-- A blank inside a line. -/
def isBlank (character : Char) : Bool := character == ' ' || character == '\t'

/-- The character deleted by convention; it is a control character. -/
def delete : Char := '\x7f'

/-- May stand in a line of text: no control character, a tab apart. -/
def isPrintable (character : Char) : Bool :=
  character == '\t' || (0x20 ≤ character.toNat && character != delete)

/-- Does a line end here? -/
def startsNewline : List Char → Bool
  | '\n' :: _ => true
  | '\r' :: '\n' :: _ => true
  | _ => false

/-- Leave out a line end at the front. -/
def dropNewline : List Char → List Char
  | '\n' :: rest => rest
  | '\r' :: '\n' :: rest => rest
  | rest => rest

/-! ### Escapes -/

/-- Value of a hexadecimal digit. -/
def hexValue? (character : Char) : Option Nat :=
  if character.isDigit then some (character.toNat - '0'.toNat)
  else if 'a' ≤ character ∧ character ≤ 'f' then some (character.toNat - 'a'.toNat + 10)
  else if 'A' ≤ character ∧ character ≤ 'F' then some (character.toNat - 'A'.toNat + 10)
  else none

/-- What a single character behind a backslash stands for. -/
def simpleEscape? (character : Char) : Option Char :=
  match character with
  | 'b' => some '\x08'
  | 't' => some '\t'
  | 'n' => some '\n'
  | 'f' => some '\x0c'
  | 'r' => some '\r'
  | '"' => some '"'
  | '\\' => some '\\'
  | _ => none

/-- The character of a code point; surrogates and numbers beyond the last code
point are none. -/
def scalar? (code : Nat) : Option Char :=
  if code.isValidChar then some (Char.ofNat code) else none

/-- Where a reader of escaped text stands. -/
inductive Mode
  | plain
  /-- Behind a backslash. -/
  | escape
  /-- Within the digits of a code point: digits to come, value so far. -/
  | code (digits value : Nat)
  /-- Behind a backslash at the end of a line: blanks and line ends are skipped. -/
  | trimming
deriving Repr, DecidableEq

/-- One step of reading text: go on in a mode after giving out characters, or end
the text. -/
inductive Step
  | go (mode : Mode) (given : List Char)
  | close (given : List Char) (rest : List Char)

/-- A step behind a backslash. -/
def escapeStep (character : Char) : Option Step :=
  match simpleEscape? character with
  | some given => some (.go .plain [given])
  | none =>
    if character = 'u' then some (.go (.code 4 0) [])
    else if character = 'U' then some (.go (.code 8 0) [])
    else none

/-- A step within the digits of a code point. -/
def codeStep (digits value : Nat) (character : Char) : Option Step := do
  let digit ← hexValue? character
  let value := 16 * value + digit
  if digits ≤ 1 then
    let given ← scalar? value
    return .go .plain [given]
  else return .go (.code (digits - 1) value) []

/-! ### Strings in one line -/

/-- Read text up to the closing quote. -/
def readBasic : Mode → List Char → Option (List Char × List Char)
  | _, [] => none
  | mode, character :: rest =>
    let step : Option Step :=
      match mode with
      | .escape => escapeStep character
      | .code digits value => codeStep digits value character
      | _ =>
        if character = '"' then some (.close [] rest)
        else if character = '\\' then some (.go .escape [])
        else if isPrintable character then some (.go .plain [character])
        else none
    match step with
    | none => none
    | some (.close given rest) => some (given, rest)
    | some (.go mode given) => (readBasic mode rest).map fun (text, rest) => (given ++ text, rest)

/-- Read text without escapes up to the closing apostrophe. -/
def readLiteral : List Char → Option (List Char × List Char)
  | [] => none
  | character :: rest =>
    if character = '\'' then some ([], rest)
    else if isPrintable character then
      (readLiteral rest).map fun (text, rest) => (character :: text, rest)
    else none

/-! ### Strings over several lines -/

/-- A step at the delimiter character, which closes the text when it comes three
times; up to two more of them before the end belong to the text. -/
def quoteStep (quote : Char) : List Char → Step
  | first :: second :: third :: fourth :: rest =>
    if first = quote ∧ second = quote then
      if third = quote then
        if fourth = quote then .close [quote, quote] rest else .close [quote] (fourth :: rest)
      else .close [] (third :: fourth :: rest)
    else .go .plain [quote]
  | [first, second, third] =>
    if first = quote ∧ second = quote then
      if third = quote then .close [quote] [] else .close [] [third]
    else .go .plain [quote]
  | [first, second] =>
    if first = quote ∧ second = quote then .close [] [] else .go .plain [quote]
  | _ => .go .plain [quote]

/-- A step at a character that is not escaped. The carriage return of a line end is
left out. -/
def lineStep (quote : Char) (character : Char) (rest : List Char) : Option Step :=
  if character = quote then some (quoteStep quote rest)
  else if isPrintable character || character == '\n' then some (.go .plain [character])
  else if character = '\r' ∧ rest.head? = some '\n' then some (.go .plain [])
  else none

/-- A step at a character of escaped text: a backslash before the end of a line
takes the line end and the blanks behind it away. -/
def multiStep (character : Char) (rest : List Char) : Option Step :=
  if character = '\\' then
    if startsNewline (rest.dropWhile isBlank) then some (.go .trimming [])
    else some (.go .escape [])
  else lineStep '"' character rest

/-- Is the character skipped behind a backslash at the end of a line? -/
def isTrimmed (character : Char) (rest : List Char) : Bool :=
  isBlank character || startsNewline (character :: rest)

/-- Read text over several lines up to the closing quotes. -/
def readMultiBasic : Mode → List Char → Option (List Char × List Char)
  | _, [] => none
  | mode, character :: rest =>
    let step : Option Step :=
      match mode with
      | .escape => escapeStep character
      | .code digits value => codeStep digits value character
      | .trimming =>
        if isTrimmed character rest then some (.go .trimming []) else multiStep character rest
      | .plain => multiStep character rest
    match step with
    | none => none
    | some (.close given rest) => some (given, rest)
    | some (.go mode given) =>
      (readMultiBasic mode rest).map fun (text, rest) => (given ++ text, rest)

/-- Read text without escapes over several lines up to the closing apostrophes. -/
def readMultiLiteral : List Char → Option (List Char × List Char)
  | [] => none
  | character :: rest =>
    match lineStep '\'' character rest with
    | none => none
    | some (.close given rest) => some (given, rest)
    | some (.go _ given) => (readMultiLiteral rest).map fun (text, rest) => (given ++ text, rest)

/-- Read a string of any form. A line end behind an opening delimiter of three
characters does not belong to the text. -/
def readString : List Char → Option (String × List Char)
  | '"' :: '"' :: '"' :: rest =>
    (readMultiBasic .plain (dropNewline rest)).map fun (text, rest) => (String.ofList text, rest)
  | '\'' :: '\'' :: '\'' :: rest =>
    (readMultiLiteral (dropNewline rest)).map fun (text, rest) => (String.ofList text, rest)
  | '"' :: rest => (readBasic .plain rest).map fun (text, rest) => (String.ofList text, rest)
  | '\'' :: rest => (readLiteral rest).map fun (text, rest) => (String.ofList text, rest)
  | _ => none

end TypedQuery.Toml
