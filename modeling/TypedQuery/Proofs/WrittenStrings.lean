/-
Module: TypedQuery.Proofs.WrittenStrings
Purpose: Every text that is written as a string is read back, in whichever of the forms it is
  written: with or without escapes, in one line or over several. Between three quotes the reader
  stops at the end of the first row of three, so a row inside must be broken up and a row at the end
  must be told from the closing quotes.
Main exports: Toml.ReadsEscapes, Toml.readBasic_written, Toml.readLiteral_written,
  Toml.readMultiBasic_written, Toml.readMultiLiteral_written, Toml.readString_written
-/
import Mathlib.Data.List.Basic
import Mathlib.Tactic.IntervalCases
import TypedQuery.Toml.Writer

namespace TypedQuery.Toml

/-- What is read behind a character, with the character in front. -/
def putFront (character : Char) (read : List Char × List Char) : List Char × List Char :=
  (character :: read.1, read.2)

/-! ### Escapes -/

theorem hexValue?_upperHexDigit : ∀ digit < 16, hexValue? (upperHexDigit digit) = some digit := by
  decide

/-- What may stand behind a backslash for a character. -/
inductive EscapeOf (character : Char) : List Char → Prop
  | simple {letter : Char} (stands : simpleEscape? letter = some character) :
      EscapeOf character [letter]
  | code (small : character.toNat < 256) :
      EscapeOf character ['u', '0', '0', upperHexDigit (character.toNat / 16),
        upperHexDigit (character.toNat % 16)]

/-- What a step makes of the characters behind it. -/
def follow (read : Mode → List Char → Option (List Char × List Char)) (rest : List Char) :
    Option Step → Option (List Char × List Char)
  | none => none
  | some (.close given rest) => some (given, rest)
  | some (.go mode given) => (read mode rest).map fun (text, rest) => (given ++ text, rest)

/-- A reader that knows escapes. -/
structure ReadsEscapes (read : Mode → List Char → Option (List Char × List Char)) : Prop where
  escape : ∀ character rest,
    read .escape (character :: rest) = follow read rest (escapeStep character)
  code : ∀ digits value character rest,
    read (.code digits value) (character :: rest) =
      follow read rest (codeStep digits value character)

theorem readsEscapes_readBasic : ReadsEscapes readBasic where
  escape _ _ := by
    rw [readBasic]
    rfl
  code _ _ _ _ := by
    rw [readBasic]
    rfl

theorem readsEscapes_readMultiBasic : ReadsEscapes readMultiBasic where
  escape _ _ := by
    rw [readMultiBasic]
    rfl
  code _ _ _ _ := by
    rw [readMultiBasic]
    rfl

theorem follow_go (read : Mode → List Char → Option (List Char × List Char)) (mode : Mode)
    (rest : List Char) : follow read rest (some (.go mode [])) = read mode rest := by
  simp [follow]

theorem follow_give (read : Mode → List Char → Option (List Char × List Char)) (mode : Mode)
    (character : Char) (rest : List Char) :
    follow read rest (some (.go mode [character])) = (read mode rest).map (putFront character) :=
  rfl

/-- A digit that is not the last one adds to the value of the code. -/
theorem codeStep_more {digits value digit : Nat} (more : 1 < digits) (small : digit < 16) :
    codeStep digits value (upperHexDigit digit) =
      some (.go (.code (digits - 1) (16 * value + digit)) []) := by
  simp [codeStep, hexValue?_upperHexDigit digit small, Nat.not_le.mpr more]

/-- The last digit completes the code. -/
theorem codeStep_last {value digit : Nat} {character : Char} (small : digit < 16)
    (isCode : 16 * value + digit = character.toNat) :
    codeStep 1 value (upperHexDigit digit) = some (.go .plain [character]) := by
  have valid : character.toNat.isValidChar := character.valid
  simp [codeStep, hexValue?_upperHexDigit digit small, isCode, scalar?, valid, Char.ofNat_toNat]

/-- An escape is read as the character that it stands for. -/
theorem ReadsEscapes.read_escape {read : Mode → List Char → Option (List Char × List Char)}
    (reads : ReadsEscapes read) {character : Char} {code : List Char}
    (isEscape : EscapeOf character code) (rest : List Char) :
    read .escape (code ++ rest) = (read .plain rest).map (putFront character) := by
  cases isEscape with
  | simple stands =>
      rw [List.singleton_append, reads.escape, escapeStep, stands]
      rfl
  | code small =>
      have high : character.toNat / 16 < 16 := by omega
      have low : character.toNat % 16 < 16 := Nat.mod_lt _ (by decide)
      have zero : upperHexDigit 0 = '0' := by decide
      have isCode : 16 * (character.toNat / 16) + character.toNat % 16 = character.toNat :=
        Nat.div_add_mod _ _
      have opened : escapeStep 'u' = some (.go (.code 4 0) []) := rfl
      simp only [List.cons_append, List.nil_append, reads.escape, opened, follow_go, reads.code,
        ← zero]
      rw [codeStep_more (by decide) (by decide), follow_go, reads.code,
        codeStep_more (by decide) (by decide), follow_go, reads.code,
        codeStep_more (by decide) high, follow_go, reads.code,
        codeStep_last low (by simpa using isCode), follow_give]

/-! ### Characters -/

theorem isControl_eq_false_iff {character : Char} :
    isControl character = false ↔ isPrintable character = true ∨ character = '\n' := by
  rw [isControl, Bool.and_eq_false_iff, Bool.not_eq_false', bne_eq_false_iff_eq]

/-- A control character has a small code. -/
theorem toNat_lt_of_isControl {character : Char} (isControl : isControl character = true) :
    character.toNat < 256 := by
  rw [Toml.isControl, Bool.and_eq_true_iff, Bool.not_eq_true'] at isControl
  obtain ⟨notPrintable, -⟩ := isControl
  rw [isPrintable, Bool.or_eq_false_iff, Bool.and_eq_false_iff] at notPrintable
  rcases notPrintable.2 with small | isDelete
  · have below := of_decide_eq_false small
    omega
  · rw [bne_eq_false_iff_eq.mp isDelete]
    decide

/-- A character in text with escapes is escaped, or it is no backslash and no control character. -/
theorem escaped_cases (character : Char) :
    (∃ code, escaped character = '\\' :: code ∧ EscapeOf character code) ∨
      escaped character = [character] ∧ character ≠ '\\' ∧ isControl character = false := by
  unfold escaped
  split_ifs with backspace tab feed carriage backslash control
  · exact .inl ⟨_, rfl, .simple (by rw [backspace]; rfl)⟩
  · exact .inl ⟨_, rfl, .simple (by rw [tab]; rfl)⟩
  · exact .inl ⟨_, rfl, .simple (by rw [feed]; rfl)⟩
  · exact .inl ⟨_, rfl, .simple (by rw [carriage]; rfl)⟩
  · exact .inl ⟨_, rfl, .simple (by rw [backslash]; rfl)⟩
  · exact .inl ⟨_, rfl, .code (toNat_lt_of_isControl control)⟩
  · exact .inr ⟨rfl, backslash, eq_false_of_ne_true control⟩

/-- Between quotes in one line, quotes and line ends are escaped as well. -/
theorem basicEscaped_cases (character : Char) :
    (∃ code, basicEscaped character = '\\' :: code ∧ EscapeOf character code) ∨
      basicEscaped character = [character] ∧ character ≠ '\\' ∧ character ≠ '"' ∧
        isPrintable character = true := by
  unfold basicEscaped
  split_ifs with quote newline
  · exact .inl ⟨_, rfl, .simple (by rw [quote]; rfl)⟩
  · exact .inl ⟨_, rfl, .simple (by rw [newline]; rfl)⟩
  · rcases escaped_cases character with isEscaped | ⟨alone, notBackslash, noControl⟩
    · exact .inl isEscaped
    · have printable := (isControl_eq_false_iff.mp noControl).resolve_right newline
      exact .inr ⟨alone, notBackslash, quote, printable⟩

/-! ### Strings in one line -/

/-- A character that is not escaped. -/
theorem readBasic_plain (character : Char) (rest : List Char) :
    readBasic .plain (character :: rest) = follow readBasic rest
      (if character = '"' then some (.close [] rest)
      else if character = '\\' then some (.go .escape [])
      else if isPrintable character then some (.go .plain [character])
      else none) := rfl

theorem readBasic_written (text rest : List Char) :
    readBasic .plain (text.flatMap basicEscaped ++ '"' :: rest) = some (text, rest) := by
  induction text with
  | nil =>
      rw [List.flatMap_nil, List.nil_append, readBasic_plain, if_pos rfl]
      rfl
  | cons character text ih =>
      rw [List.flatMap_cons, List.append_assoc]
      rcases basicEscaped_cases character with
        ⟨code, written, isEscape⟩ | ⟨written, notBackslash, notQuote, printable⟩
      · rw [written, List.cons_append, readBasic_plain, if_neg (by decide), if_pos rfl, follow_go,
          readsEscapes_readBasic.read_escape isEscape, ih]
        rfl
      · rw [written, List.singleton_append, readBasic_plain, if_neg notQuote, if_neg notBackslash,
          if_pos printable, follow_give, ih]
        rfl

theorem readLiteral_written {text : List Char}
    (plain : ∀ character ∈ text, isPrintable character = true ∧ character ≠ '\'')
    (rest : List Char) : readLiteral (text ++ '\'' :: rest) = some (text, rest) := by
  induction text with
  | nil =>
      rw [List.nil_append, readLiteral]
      rfl
  | cons character text ih =>
      obtain ⟨⟨printable, notQuote⟩, plain⟩ := List.forall_mem_cons.mp plain
      rw [List.cons_append, readLiteral, if_neg notQuote, if_pos printable, ih plain]
      rfl

/-! ### Rows of quotes -/

/-- A quote that no two quotes follow belongs to the text. -/
theorem quoteStep_go {quote : Char} {rest : List Char} (apart : ¬ [quote, quote] <+: rest) :
    quoteStep quote rest = .go .plain [quote] := by
  unfold quoteStep
  split
  all_goals first
    | rfl
    | exact if_neg fun ⟨isFirst, isSecond⟩ => apart ⟨_, by rw [isFirst, isSecond]; rfl⟩

/-- The closing quotes are the last three of a row of up to five; those in front of them belong to
the text. -/
theorem quoteStep_close {quote : Char} {rest : List Char} (apart : rest.head? ≠ some quote)
    {count : Nat} (atMostTwo : count ≤ 2) :
    quoteStep quote (List.replicate count quote ++ quote :: quote :: rest) =
      .close (List.replicate count quote) rest := by
  -- The reader looks at four characters, so that up to two of `rest` tell its cases apart.
  rcases rest with _ | ⟨first, _ | ⟨second, rest⟩⟩
  · interval_cases count <;> simp [quoteStep, List.replicate_succ]
  · have notQuote : first ≠ quote := by simpa using apart
    interval_cases count <;> simp [quoteStep, List.replicate_succ, notQuote]
  · have notQuote : first ≠ quote := by simpa using apart
    interval_cases count <;> simp [quoteStep, List.replicate_succ, notQuote]

/-- Two quotes in front of another character, or of none, are no two quotes. -/
theorem not_two_of_head? {quote : Char} {rest : List Char} (apart : rest.head? ≠ some quote) :
    ¬ [quote, quote] <+: rest := by
  rintro ⟨_, rfl⟩
  exact apart rfl

theorem not_two_of_second {quote first : Char} {rest : List Char}
    (apart : rest.head? ≠ some quote) : ¬ [quote, quote] <+: first :: rest := by
  rintro ⟨_, same⟩
  obtain ⟨-, rfl⟩ := List.cons.inj same
  exact apart rfl

/-! ### Strings over several lines -/

/-- A character that is not escaped, in text with escapes. -/
theorem readMultiBasic_plain (character : Char) (rest : List Char) :
    readMultiBasic .plain (character :: rest) =
      follow readMultiBasic rest (multiStep character rest) := rfl

theorem readMultiLiteral_cons (character : Char) (rest : List Char) :
    readMultiLiteral (character :: rest) =
      follow (fun _ => readMultiLiteral) rest (lineStep '\'' character rest) := by
  rw [readMultiLiteral]
  rfl

/-- A character that is neither a delimiter nor a control character stands for itself. -/
theorem lineStep_plain {quote character : Char} (notQuote : character ≠ quote)
    (noControl : isControl character = false) (rest : List Char) :
    lineStep quote character rest = some (.go .plain [character]) := by
  have inText : (isPrintable character || character == '\n') = true := by
    rw [Bool.or_eq_true, beq_iff_eq]
    exact isControl_eq_false_iff.mp noControl
  rw [lineStep, if_neg notQuote, if_pos inText]

theorem lineStep_quote (quote : Char) (rest : List Char) :
    lineStep quote quote rest = some (quoteStep quote rest) := if_pos rfl

theorem multiStep_of_ne {character : Char} (notBackslash : character ≠ '\\') (rest : List Char) :
    multiStep character rest = lineStep '"' character rest := if_neg notBackslash

/-- What stands behind the backslash of an escape starts neither with a blank nor with a line
end. -/
theorem EscapeOf.no_line_end {character : Char} {code : List Char}
    (isEscape : EscapeOf character code) (rest : List Char) :
    startsNewline ((code ++ rest).dropWhile isBlank) = false := by
  cases isEscape with
  | simple stands =>
      rename_i letter
      unfold simpleEscape? at stands
      split at stands <;> first | rfl | cases stands
  | code small => rfl

/-- An escape in text over several lines. -/
theorem readMultiBasic_escape {character : Char} {code : List Char}
    (isEscape : EscapeOf character code) (rest : List Char) :
    readMultiBasic .plain ('\\' :: (code ++ rest)) =
      (readMultiBasic .plain rest).map (putFront character) := by
  have step : multiStep '\\' (code ++ rest) = some (.go .escape []) := by
    rw [multiStep, if_pos rfl, isEscape.no_line_end rest]
    rfl
  rw [readMultiBasic_plain, step, follow_go, readsEscapes_readMultiBasic.read_escape isEscape]

theorem replicate_append_cons (count : Nat) (quote : Char) (rest : List Char) :
    List.replicate count quote ++ quote :: rest =
      quote :: (List.replicate count quote ++ rest) := by
  rw [List.append_cons, ← List.replicate_succ', List.replicate_succ, List.cons_append]

/-- Up to two quotes at the end of the text, with the closing quotes behind them. -/
theorem readMultiBasic_close {rest : List Char} (apart : rest.head? ≠ some '"') {count : Nat}
    (atMostTwo : count ≤ 2) :
    readMultiBasic .plain (List.replicate count '"' ++ '"' :: '"' :: '"' :: rest) =
      some (List.replicate count '"', rest) := by
  rw [replicate_append_cons, readMultiBasic_plain, multiStep_of_ne (by decide), lineStep_quote,
    quoteStep_close apart atMostTwo]
  rfl

theorem readMultiLiteral_close {rest : List Char} (apart : rest.head? ≠ some '\'') {count : Nat}
    (atMostTwo : count ≤ 2) :
    readMultiLiteral (List.replicate count '\'' ++ '\'' :: '\'' :: '\'' :: rest) =
      some (List.replicate count '\'', rest) := by
  rw [replicate_append_cons, readMultiLiteral_cons, lineStep_quote,
    quoteStep_close apart atMostTwo]
  rfl

/-- A character other than a quote ends a row of quotes. -/
theorem multiEscaped_cases {character : Char} (notQuote : character ≠ '"') (row : Nat)
    (text : List Char) :
    (∃ code, multiEscaped row (character :: text) = '\\' :: (code ++ multiEscaped 0 text) ∧
        EscapeOf character code) ∨
      multiEscaped row (character :: text) = character :: multiEscaped 0 text ∧
        character ≠ '\\' ∧ isControl character = false := by
  rw [multiEscaped, if_neg notQuote]
  split_ifs with newline
  · exact .inr ⟨by rw [newline], by rw [newline]; decide, isControl_eq_false_iff.mpr (.inr newline)⟩
  · rcases escaped_cases character with ⟨code, written, isEscape⟩ | ⟨written, plain⟩
    · exact .inl ⟨code, by rw [written, List.cons_append], isEscape⟩
    · exact .inr ⟨by rw [written, List.singleton_append], plain⟩

/-- Behind two quotes, and in front of all characters but a quote, no quote is written. -/
theorem head?_multiEscaped {row : Nat} {character : Char} (ends : character = '"' → row = 2)
    (text rest : List Char) :
    (multiEscaped row (character :: text) ++ rest).head? ≠ some '"' := by
  by_cases quote : character = '"'
  · rw [quote, ends quote, multiEscaped, if_pos rfl, if_pos rfl]
    exact fun same => absurd (Option.some.inj same) (by decide)
  · rcases multiEscaped_cases quote row text with ⟨code, written, -⟩ | ⟨written, -⟩
    · rw [written]
      exact fun same => absurd (Option.some.inj same) (by decide)
    · rw [written]
      exact fun same => quote (Option.some.inj same)

/-- Behind a quote of the text two further ones are written only at the end. -/
theorem multiEscaped_apart {row : Nat} (atMostOne : row ≤ 1) {text : List Char}
    (notEnd : text ≠ []) (notLast : row = 0 → text ≠ ['"']) (rest : List Char) :
    ¬ ['"', '"'] <+: multiEscaped (row + 1) text ++ rest := by
  obtain ⟨character, text, rfl⟩ := List.exists_cons_of_ne_nil notEnd
  by_cases single : row = 0 ∧ character = '"'
  · obtain ⟨rfl, rfl⟩ := single
    have more : text ≠ [] := fun isNil => notLast rfl (by rw [isNil])
    obtain ⟨next, text, rfl⟩ := List.exists_cons_of_ne_nil more
    have written :
        multiEscaped 1 ('"' :: next :: text) = '"' :: multiEscaped 2 (next :: text) := rfl
    rw [written]
    exact not_two_of_second (head?_multiEscaped (fun _ => rfl) text rest)
  · refine not_two_of_head? (head?_multiEscaped ?_ text rest)
    intro isQuote
    have isOne : row ≠ 0 := fun isZero => single ⟨isZero, isQuote⟩
    omega

/-- Text with escapes is read back whatever stands in it. -/
theorem readMultiBasic_written {rest : List Char} (apart : rest.head? ≠ some '"')
    {row : Nat} (atMostTwo : row ≤ 2) (text : List Char) :
    readMultiBasic .plain (multiEscaped row text ++ '"' :: '"' :: '"' :: rest) =
      some (text, rest) := by
  induction text generalizing row with
  | nil => exact readMultiBasic_close apart (Nat.zero_le 2)
  | cons character text ih =>
      by_cases quote : character = '"'
      -- A quote is the third of its row, and escaped; or one of at most two at the end of the text,
      -- read together with the closing ones; or followed by something that breaks the row.
      · subst quote
        rw [multiEscaped, if_pos rfl]
        split_ifs with isThird
        · have quoted : EscapeOf '"' ['"'] := .simple rfl
          have escape := readMultiBasic_escape quoted
            (multiEscaped 0 text ++ '"' :: '"' :: '"' :: rest)
          rw [List.singleton_append] at escape
          rw [List.cons_append, List.cons_append, escape, ih (Nat.zero_le 2)]
          rfl
        · have atMostOne : row ≤ 1 := by omega
          by_cases isEnd : text = []
          · subst isEnd
            exact readMultiBasic_close apart (show 1 ≤ 2 by decide)
          by_cases isLast : row = 0 ∧ text = ['"']
          · obtain ⟨rfl, rfl⟩ := isLast
            exact readMultiBasic_close apart (show 2 ≤ 2 by decide)
          · have goesOn := multiEscaped_apart atMostOne isEnd
              (fun isZero isSingle => isLast ⟨isZero, isSingle⟩) ('"' :: '"' :: '"' :: rest)
            rw [List.cons_append, readMultiBasic_plain, multiStep_of_ne (by decide), lineStep_quote,
              quoteStep_go goesOn, follow_give, ih (by omega)]
            rfl
      · rcases multiEscaped_cases quote row text with
          ⟨code, written, isEscape⟩ | ⟨written, notBackslash, noControl⟩
        · rw [written, List.cons_append, List.append_assoc, readMultiBasic_escape isEscape,
            ih (Nat.zero_le 2)]
          rfl
        · rw [written, List.cons_append, readMultiBasic_plain, multiStep_of_ne notBackslash,
            lineStep_plain quote noControl, follow_give, ih (Nat.zero_le 2)]
          rfl

/-- Where rows have at most two quotes, a quote is followed by two further ones only at the end. -/
theorem literal_apart {text : List Char} (rows : longestRow '\'' ('\'' :: text) ≤ 2)
    (notEnd : text ≠ []) (notLast : text ≠ ['\'']) (rest : List Char) :
    ¬ ['\'', '\''] <+: text ++ rest := by
  obtain ⟨character, text, rfl⟩ := List.exists_cons_of_ne_nil notEnd
  by_cases quote : character = '\''
  · subst quote
    have more : text ≠ [] := fun isNil => notLast (by rw [isNil])
    obtain ⟨next, text, rfl⟩ := List.exists_cons_of_ne_nil more
    refine not_two_of_second fun same => ?_
    have third : next = '\'' := Option.some.inj same
    have long := (le_max_left _ _).trans rows
    simp [third] at long
  · exact not_two_of_head? fun same => quote (Option.some.inj same)

/-- Text without escapes is read back if no row of quotes in it could close it. -/
theorem readMultiLiteral_written {rest : List Char} (apart : rest.head? ≠ some '\'')
    {text : List Char} (plain : ∀ character ∈ text, isControl character = false)
    (rows : longestRow '\'' text ≤ 2) :
    readMultiLiteral (text ++ '\'' :: '\'' :: '\'' :: rest) = some (text, rest) := by
  induction text with
  | nil => exact readMultiLiteral_close apart (Nat.zero_le 2)
  | cons character text ih =>
      obtain ⟨noControl, plainBehind⟩ := List.forall_mem_cons.mp plain
      have rowsBehind : longestRow '\'' text ≤ 2 := (le_max_right _ _).trans rows
      by_cases quote : character = '\''
      · subst quote
        by_cases isEnd : text = []
        · subst isEnd
          exact readMultiLiteral_close apart (show 1 ≤ 2 by decide)
        by_cases isLast : text = ['\'']
        · subst isLast
          exact readMultiLiteral_close apart (show 2 ≤ 2 by decide)
        · have goesOn := literal_apart rows isEnd isLast ('\'' :: '\'' :: '\'' :: rest)
          rw [List.cons_append, readMultiLiteral_cons, lineStep_quote, quoteStep_go goesOn,
            follow_give, ih plainBehind rowsBehind]
          rfl
      · rw [List.cons_append, readMultiLiteral_cons, lineStep_plain quote noControl, follow_give,
          ih plainBehind rowsBehind]
        rfl

/-! ### All forms -/

theorem startsNewline_of_head? {text : List Char} (noFeed : text.head? ≠ some '\n')
    (noReturn : text.head? ≠ some '\x0d') : startsNewline text = false := by
  unfold startsNewline
  split
  · exact absurd rfl noFeed
  · exact absurd rfl noReturn
  · rfl

theorem dropNewline_of_startsNewline {text : List Char} (notHere : startsNewline text = false) :
    dropNewline text = text := by
  unfold dropNewline
  split <;> first | rfl | cases notHere

/-- The line end behind opening quotes is left out, and nothing else is. -/
theorem dropNewline_opening {text written : List Char}
    (inLine : text.contains '\n' = false → startsNewline written = false) :
    dropNewline (opening text ++ written) = written := by
  unfold opening
  split_ifs with newline
  · rfl
  · exact dropNewline_of_startsNewline (inLine (eq_false_of_ne_true newline))

theorem Form.of_eq_literal {text : List Char} (isForm : Form.of text = .literal) :
    ∀ character ∈ text, isPrintable character = true ∧ character ≠ '\'' := by
  simp only [Form.of] at isForm
  split_ifs at isForm with isBasic isLiteral
  simp only [Bool.and_eq_true, Bool.not_eq_true', List.any_eq_false, List.contains_eq_mem,
    decide_eq_false_iff_not] at isLiteral
  obtain ⟨⟨noControl, noNewline⟩, noQuote⟩ := isLiteral
  intro character present
  have inText := isControl_eq_false_iff.mp (eq_false_of_ne_true (noControl character present))
  refine ⟨inText.resolve_right ?_, ?_⟩
  · rintro rfl
    exact noNewline present
  · rintro rfl
    exact noQuote present

theorem Form.of_eq_multiLiteral {text : List Char} (isForm : Form.of text = .multiLiteral) :
    (∀ character ∈ text, isControl character = false) ∧ longestRow '\'' text ≤ 2 := by
  simp only [Form.of] at isForm
  split_ifs at isForm with isBasic isLiteral isMultiBasic isMultiLiteral
  simp only [Bool.and_eq_true, Bool.not_eq_true', List.any_eq_false, decide_eq_true_eq]
    at isMultiLiteral
  exact ⟨fun character present => eq_false_of_ne_true (isMultiLiteral.1 character present),
    isMultiLiteral.2⟩

/-- A quote that two further ones do not follow opens a string in one line. -/
theorem readString_basic {rest : List Char} (apart : ¬ ['"', '"'] <+: rest) :
    readString ('"' :: rest) =
      (readBasic .plain rest).map fun (text, rest) => (String.ofList text, rest) := by
  unfold readString
  split <;> simp_all [List.cons_prefix_cons]

theorem readString_literal {rest : List Char} (apart : ¬ ['\'', '\''] <+: rest) :
    readString ('\'' :: rest) =
      (readLiteral rest).map fun (text, rest) => (String.ofList text, rest) := by
  unfold readString
  split <;> simp_all [List.cons_prefix_cons]

/-- Behind an opening quote no two quotes are written in one line. -/
theorem basicEscaped_apart {rest : List Char} (apart : rest.head? ≠ some '"') (text : List Char) :
    ¬ ['"', '"'] <+: text.flatMap basicEscaped ++ '"' :: rest := by
  cases text with
  | nil => exact not_two_of_second apart
  | cons character text =>
      refine not_two_of_head? ?_
      rw [List.flatMap_cons]
      rcases basicEscaped_cases character with ⟨code, written, -⟩ | ⟨written, -, notQuote, -⟩
      · rw [written]
        exact fun same => absurd (Option.some.inj same) (by decide)
      · rw [written]
        exact fun same => notQuote (Option.some.inj same)

theorem plain_apart {rest : List Char} (apart : rest.head? ≠ some '\'') {text : List Char}
    (plain : ∀ character ∈ text, isPrintable character = true ∧ character ≠ '\'') :
    ¬ ['\'', '\''] <+: text ++ '\'' :: rest := by
  cases text with
  | nil => exact not_two_of_second apart
  | cons character text =>
      have notQuote := (plain character List.mem_cons_self).2
      exact not_two_of_head? fun same => notQuote (Option.some.inj same)

/-- Text without a line end does not begin with one when it is escaped. -/
theorem startsNewline_multiEscaped {text : List Char} (inLine : text.contains '\n' = false)
    (rest : List Char) : startsNewline (multiEscaped 0 text ++ '"' :: rest) = false := by
  cases text with
  | nil => rfl
  | cons character text =>
      by_cases quote : character = '"'
      · rw [quote]
        rfl
      · rcases multiEscaped_cases quote 0 text with ⟨code, written, -⟩ | ⟨written, -, noControl⟩
        · rw [written]
          rfl
        · rw [written]
          apply startsNewline_of_head?
          · rintro ⟨⟩
            simp at inLine
          · rintro ⟨⟩
            cases noControl

theorem startsNewline_plain {text : List Char} (inLine : text.contains '\n' = false)
    (plain : ∀ character ∈ text, isControl character = false) (rest : List Char) :
    startsNewline (text ++ '\'' :: rest) = false := by
  cases text with
  | nil => rfl
  | cons character text =>
      apply startsNewline_of_head?
      · rintro ⟨⟩
        simp at inLine
      · rintro ⟨⟩
        cases plain _ List.mem_cons_self

/-- Every text is read back from the string that is written for it, whatever form it takes, if no
quote stands behind it. -/
theorem readString_written (text : List Char) {rest : List Char}
    (noQuote : rest.head? ≠ some '"') (noApostrophe : rest.head? ≠ some '\'') :
    readString (stringChars text ++ rest) = some (String.ofList text, rest) := by
  unfold stringChars
  cases form : Form.of text with
  | basic =>
      have apart := basicEscaped_apart noQuote text
      simp only [List.cons_append, List.append_assoc, List.nil_append]
      rw [readString_basic apart, readBasic_written]
      rfl
  | literal =>
      have plain := Form.of_eq_literal form
      simp only [List.cons_append, List.append_assoc, List.nil_append]
      rw [readString_literal (plain_apart noApostrophe plain), readLiteral_written plain]
      rfl
  | multiBasic =>
      have opened : dropNewline
          (opening text ++ (multiEscaped 0 text ++ '"' :: '"' :: '"' :: rest)) = _ :=
        dropNewline_opening fun inLine => startsNewline_multiEscaped inLine _
      have delimiter : "\"\"\"".toList = ['"', '"', '"'] := rfl
      simp only [delimiter, List.cons_append, List.append_assoc, List.nil_append]
      rw [readString, opened, readMultiBasic_written noQuote (Nat.zero_le 2)]
      rfl
  | multiLiteral =>
      obtain ⟨plain, rows⟩ := Form.of_eq_multiLiteral form
      have opened : dropNewline (opening text ++ (text ++ '\'' :: '\'' :: '\'' :: rest)) = _ :=
        dropNewline_opening fun inLine => startsNewline_plain inLine plain _
      have delimiter : "'''".toList = ['\'', '\'', '\''] := rfl
      simp only [delimiter, List.cons_append, List.append_assoc, List.nil_append]
      rw [readString, opened, readMultiLiteral_written noApostrophe plain rows]
      rfl

end TypedQuery.Toml
