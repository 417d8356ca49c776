/-
Module: TypedQuery.Proofs.TemplateFilling
Purpose: What a text becomes when its slots are filled. It is read once from left to right: a brace
  opens a slot just if a slot number and a closing brace follow, and is copied like any other
  character if not. An argument is copied as it is, whatever braces it has.
Main exports: Template.IsSlotNumber, Template.slotNumber?_eq_some_iff, Template.OpensSlot,
  Template.scan_slot, Template.scan_brace, Template.Fills, Template.fills_filling, Template.Form,
  Template.fill_form_and_fills_iff
-/
import TypedQuery.Sql.Template

namespace TypedQuery.Sql.Template

/-! ### Slot numbers -/

/-- A decimal numeral: one digit or more. -/
def IsNumeral (digits : List Char) : Prop := digits ≠ [] ∧ digits.all Char.isDigit = true

instance (digits : List Char) : Decidable (IsNumeral digits) := inferInstanceAs (Decidable (_ ∧ _))

theorem IsNumeral.isDigit {digits : List Char} (numeral : IsNumeral digits) {digit : Char}
    (present : digit ∈ digits) : digit.isDigit = true :=
  List.all_eq_true.mp numeral.2 digit present

/-- The characters are a slot number: a numeral, perhaps behind a plus sign, of an index below the
bound. -/
inductive IsSlotNumber : List Char → Nat → Prop
  | plain {digits : List Char} {index : Nat} (numeral : IsNumeral digits)
      (isIndex : Nat.ofDigitChars 10 digits 0 = index) (bounded : index < slotBound) :
      IsSlotNumber digits index
  | signed {digits : List Char} {index : Nat} (numeral : IsNumeral digits)
      (isIndex : Nat.ofDigitChars 10 digits 0 = index) (bounded : index < slotBound) :
      IsSlotNumber ('+' :: digits) index

theorem not_isNumeral_plus (rest : List Char) : ¬ IsNumeral ('+' :: rest) :=
  fun numeral => absurd (numeral.isDigit (.head _)) (by decide)

/-- The digits behind the sign decide. -/
theorem digits_eq_some_iff (digits : List Char) (index : Nat) :
    (if digits.isEmpty || !digits.all Char.isDigit then none
      else if digitsValue digits < slotBound then some (digitsValue digits) else none) =
        some index ↔
      IsNumeral digits ∧ Nat.ofDigitChars 10 digits 0 = index ∧ index < slotBound := by
  have isValue : Nat.ofDigitChars 10 digits 0 = digitsValue digits := rfl
  have isNumeral : (digits.isEmpty || !digits.all Char.isDigit) = false ↔ IsNumeral digits := by
    simp [IsNumeral]
  rw [isValue]
  by_cases numeral : IsNumeral digits
  · rw [isNumeral.mpr numeral]
    grind
  · have refused : (digits.isEmpty || !digits.all Char.isDigit) = true := by
      rw [← Bool.not_eq_false, isNumeral]
      exact numeral
    simp [refused, numeral]

/-- Between two braces, exactly the slot numbers are read as such. -/
theorem slotNumber?_eq_some_iff {inside : List Char} {index : Nat} :
    slotNumber? inside = some index ↔ IsSlotNumber inside index := by
  unfold slotNumber?
  split
  · rename_i digits
    rw [digits_eq_some_iff]
    constructor
    · rintro ⟨numeral, isIndex, bounded⟩
      exact .signed numeral isIndex bounded
    · intro number
      cases number with
      | plain numeral => exact absurd numeral (not_isNumeral_plus digits)
      | signed numeral isIndex bounded => exact ⟨numeral, isIndex, bounded⟩
  · rename_i unsigned
    rw [digits_eq_some_iff]
    constructor
    · rintro ⟨numeral, isIndex, bounded⟩
      exact .plain numeral isIndex bounded
    · intro number
      cases number with
      | plain numeral isIndex bounded => exact ⟨numeral, isIndex, bounded⟩
      | signed => exact absurd rfl (unsigned _)

/-- No character of a slot number makes the scan give the slot up. -/
theorem IsSlotNumber.continuesSlot {front back : List Char} {character : Char} {index : Nat}
    (number : IsSlotNumber (front ++ character :: back) index) :
    continuesSlot front character = true := by
  generalize isWhole : front ++ character :: back = inside at number
  cases number with
  | plain numeral =>
      subst isWhole
      have isDigit : character.isDigit = true := numeral.isDigit (by simp)
      simp [Template.continuesSlot, isDigit]
  | signed numeral =>
      cases front with
      | nil =>
          cases isWhole
          rfl
      | cons first front =>
          cases isWhole
          have isDigit : character.isDigit = true := numeral.isDigit (by simp)
          simp [Template.continuesSlot, isDigit]

/-! ### The scan -/

/-- A slot number and a closing brace stand in front of the rest. -/
def OpensSlot (rest : List Char) : Prop :=
  ∃ inside index behind, IsSlotNumber inside index ∧ rest = inside ++ '\x7d' :: behind

/-- The rest of a slot number, up to the closing brace, completes the slot. -/
theorem scan_rest_of_slot {pending inside : List Char} {index : Nat}
    (number : IsSlotNumber (pending ++ inside) index) (behind : List Char) :
    scan (some pending) (inside ++ '\x7d' :: behind) = .slot index :: scan none behind := by
  induction inside generalizing pending with
  | nil =>
      rw [List.append_nil] at number
      rw [List.nil_append, scan, if_pos rfl, slotNumber?_eq_some_iff.mpr number]
  | cons character inside ih =>
      have continues := number.continuesSlot
      have notClosing : character ≠ '\x7d' := by
        rintro rfl
        simp [Template.continuesSlot] at continues
      rw [List.append_cons] at number
      rw [List.cons_append, scan, if_neg notClosing, if_pos continues]
      exact ih number

theorem scan_opening (rest : List Char) : scan none ('\x7b' :: rest) = scan (some []) rest := by
  rw [scan, if_pos rfl]

theorem scan_slot {inside : List Char} {index : Nat} (number : IsSlotNumber inside index)
    (behind : List Char) :
    scan none ('\x7b' :: (inside ++ '\x7d' :: behind)) = .slot index :: scan none behind := by
  have whole : IsSlotNumber ([] ++ inside) index := number
  rw [scan_opening, scan_rest_of_slot whole]

theorem scan_cons_of_ne {character : Char} (plain : character ≠ '\x7b') (rest : List Char) :
    scan none (character :: rest) = .char character :: scan none rest := by
  rw [scan, if_neg plain]

theorem literally_concat (front : List Char) (character : Char) (behind : List Piece) :
    literally (front ++ [character]) ++ behind = literally front ++ .char character :: behind := by
  simp [literally]

/-- Where no slot is completed, the brace and what was read since stand for themselves, and the scan
goes on right behind them. -/
theorem scan_pending {pending rest : List Char} (noSlot : ¬ OpensSlot (pending ++ rest)) :
    scan (some pending) rest = literally ('\x7b' :: pending) ++ scan none rest := by
  induction rest generalizing pending with
  | nil => rw [scan, scan, List.append_nil]
  | cons character rest ih =>
      by_cases opening : character = '\x7b'
      · have noDigit : continuesSlot pending '\x7b' = false := rfl
        rw [opening, scan_opening, scan, if_neg (by decide), noDigit, if_neg Bool.false_ne_true,
          if_pos rfl]
      -- Any other character is copied behind those that are pending, now or later.
      · rw [scan_cons_of_ne opening, ← literally_concat, scan]
        by_cases closing : character = '\x7d'
        · have noNumber : slotNumber? pending = none := by
            rw [Option.eq_none_iff_forall_ne_some]
            intro index isNumber
            rw [closing] at noSlot
            exact noSlot ⟨pending, index, rest, slotNumber?_eq_some_iff.mp isNumber, rfl⟩
          rw [if_pos closing, noNumber, closing]
        · rw [if_neg closing]
          by_cases continues : continuesSlot pending character = true
          · rw [List.append_cons] at noSlot
            rw [if_pos continues, ih noSlot, List.cons_append]
          · rw [if_neg continues, if_neg opening]

/-- A brace that opens no slot is a character like any other. -/
theorem scan_brace {rest : List Char} (noSlot : ¬ OpensSlot rest) :
    scan none ('\x7b' :: rest) = .char '\x7b' :: scan none rest := by
  rw [scan_opening]
  exact scan_pending noSlot

/-! ### Filling -/

theorem flatMap_literally (args : List String) (characters : List Char) :
    (literally characters).flatMap (fillPiece args) = characters := by
  induction characters with
  | nil => rfl
  | cons character rest ih =>
      rw [literally, List.map_cons, List.flatMap_cons]
      exact congrArg (character :: ·) ih

/-- The text of a slot: empty without an argument. -/
def slotText (args : List String) (index : Nat) : String := args[index]?.getD ""

theorem fillPiece_slot (args : List String) (index : Nat) :
    fillPiece args (.slot index) = (slotText args index).toList := by
  rw [fillPiece, slotText]
  cases args[index]? <;> rfl

/-- What a text with slots becomes, read from left to right. -/
inductive Fills (args : List String) : List Char → List Char → Prop
  | done : Fills args [] []
  | char {character : Char} {rest filled : List Char} (plain : character ≠ '\x7b')
      (behind : Fills args rest filled) : Fills args (character :: rest) (character :: filled)
  /-- The argument is copied, and reading goes on behind the slot. -/
  | slot {inside rest filled : List Char} {index : Nat} (number : IsSlotNumber inside index)
      (behind : Fills args rest filled) :
      Fills args ('\x7b' :: (inside ++ '\x7d' :: rest)) ((slotText args index).toList ++ filled)
  /-- Only the brace is copied, and reading goes on right behind it. -/
  | brace {rest filled : List Char} (noSlot : ¬ OpensSlot rest)
      (behind : Fills args rest filled) : Fills args ('\x7b' :: rest) ('\x7b' :: filled)

/-- What the pieces of a text become. -/
def filling (args : List String) (text : List Char) : List Char :=
  (scan none text).flatMap (fillPiece args)

section

variable (args : List String)

theorem filling_char {character : Char} (plain : character ≠ '\x7b') (rest : List Char) :
    filling args (character :: rest) = character :: filling args rest := by
  rw [filling, scan_cons_of_ne plain, List.flatMap_cons]
  rfl

theorem filling_slot {inside : List Char} {index : Nat} (number : IsSlotNumber inside index)
    (rest : List Char) :
    filling args ('\x7b' :: (inside ++ '\x7d' :: rest)) =
      (slotText args index).toList ++ filling args rest := by
  rw [filling, scan_slot number, List.flatMap_cons, fillPiece_slot]
  rfl

theorem filling_brace {rest : List Char} (noSlot : ¬ OpensSlot rest) :
    filling args ('\x7b' :: rest) = '\x7b' :: filling args rest := by
  rw [filling, scan_brace noSlot, List.flatMap_cons]
  rfl

/-- The step: whatever a text begins with, one of the rules applies to it and leaves a shorter one.
The run: so every text is filled. -/
theorem fills_filling (text : List Char) : Fills args text (filling args text) := by
  match text with
  | [] => exact .done
  | character :: rest =>
      by_cases opening : character = '\x7b'
      · subst opening
        by_cases opens : OpensSlot rest
        · obtain ⟨inside, index, behind, number, isRest⟩ := opens
          have shorter : behind.length < rest.length := by
            rw [isRest, List.length_append, List.length_cons]
            omega
          rw [isRest, filling_slot args number]
          exact .slot number (fills_filling behind)
        · rw [filling_brace args opens]
          exact .brace opens (fills_filling rest)
      · rw [filling_char args opening]
        exact .char opening (fills_filling rest)
termination_by text.length
decreasing_by all_goals grind

variable {args}

theorem Fills.eq_filling {text filled : List Char} (fills : Fills args text filled) :
    filled = filling args text := by
  induction fills with
  | done => rfl
  | char plain _ ih => rw [filling_char args plain, ih]
  | slot number _ ih => rw [filling_slot args number, ih]
  | brace noSlot _ ih => rw [filling_brace args noSlot, ih]

end

/-! ### Templates as they are written -/

/-- A slot with a decimal numeral, and the literal text up to the next slot. -/
structure Slot where
  numeral : String
  isNumeral : IsNumeral numeral.toList
  behind : String
  plain : '\x7b' ∉ behind.toList

/-- A template as it is written: a literal text, and slots with a literal text behind each. -/
structure Form where
  lead : String
  plain : '\x7b' ∉ lead.toList
  slots : List Slot

/-- The slot in braces and the text behind it. -/
def Slot.text (slot : Slot) : String := "\x7b" ++ slot.numeral ++ "\x7d" ++ slot.behind

def Form.text (form : Form) : String := form.lead ++ String.join (form.slots.map Slot.text)

/-- What is filled in: the argument, or nothing if there is none of that index. A numeral beyond all
indices is no slot number, and its braces are literal text. -/
def Slot.argument (args : List String) (slot : Slot) : String :=
  let index := Nat.ofDigitChars 10 slot.numeral.toList 0
  if index < slotBound then slotText args index else "\x7b" ++ slot.numeral ++ "\x7d"

/-- The literal texts with the arguments between them. -/
def Form.filled (args : List String) (form : Form) : String :=
  form.lead ++ String.join (form.slots.map fun slot => slot.argument args ++ slot.behind)

/-- What stands in front of the first closing brace is determined. -/
theorem takeWhile_closing {inside : List Char} (within : '\x7d' ∉ inside) (behind : List Char) :
    (inside ++ '\x7d' :: behind).takeWhile (· ≠ '\x7d') = inside := by
  have all : ∀ character ∈ inside, decide (character ≠ '\x7d') = true := by
    intro character present
    rw [decide_eq_true_iff]
    rintro rfl
    exact within present
  rw [List.takeWhile_append_of_pos all, List.takeWhile_cons_of_neg (by simp), List.append_nil]

theorem IsNumeral.not_mem {digits : List Char} (numeral : IsNumeral digits) {character : Char}
    (noDigit : character.isDigit = false) : character ∉ digits := by
  intro present
  rw [numeral.isDigit present] at noDigit
  cases noDigit

theorem IsSlotNumber.not_mem_closing {inside : List Char} {index : Nat}
    (number : IsSlotNumber inside index) : '\x7d' ∉ inside := by
  cases number with
  | plain numeral => exact numeral.not_mem rfl
  | signed numeral => simpa using numeral.not_mem rfl

/-- A numeral in braces opens a slot only if it is below the bound. -/
theorem IsNumeral.lt_slotBound {digits rest : List Char} (numeral : IsNumeral digits)
    (opens : OpensSlot (digits ++ '\x7d' :: rest)) :
    Nat.ofDigitChars 10 digits 0 < slotBound := by
  obtain ⟨inside, index, behind, number, isRest⟩ := opens
  have isInside := congrArg (List.takeWhile (· ≠ '\x7d')) isRest
  rw [takeWhile_closing (numeral.not_mem rfl), takeWhile_closing number.not_mem_closing] at isInside
  subst isInside
  cases number with
  | plain _ isIndex bounded => rwa [isIndex]
  | signed => exact absurd numeral (not_isNumeral_plus _)

section

variable (args : List String)

theorem filling_plain {characters : List Char} (plain : '\x7b' ∉ characters) (rest : List Char) :
    filling args (characters ++ rest) = characters ++ filling args rest := by
  induction characters with
  | nil => rfl
  | cons character characters ih =>
      have notOpening := List.ne_of_not_mem_cons plain
      have further := List.not_mem_of_not_mem_cons plain
      rw [List.cons_append, filling_char args notOpening.symm, ih further, List.cons_append]

theorem filling_written (slot : Slot) (rest : List Char) :
    filling args (slot.text.toList ++ rest) =
      (slot.argument args ++ slot.behind).toList ++ filling args rest := by
  have split : slot.text.toList ++ rest =
      '\x7b' :: (slot.numeral.toList ++ '\x7d' :: (slot.behind.toList ++ rest)) := by
    simp [Slot.text]
  rw [split, Slot.argument]
  by_cases bounded : Nat.ofDigitChars 10 slot.numeral.toList 0 < slotBound
  · rw [if_pos bounded, filling_slot args (.plain slot.isNumeral rfl bounded),
      filling_plain args slot.plain, String.toList_append, List.append_assoc]
  · have noSlot : ¬ OpensSlot (slot.numeral.toList ++ '\x7d' :: (slot.behind.toList ++ rest)) :=
      fun opens => bounded (slot.isNumeral.lt_slotBound opens)
    rw [if_neg bounded, filling_brace args noSlot,
      filling_plain args (slot.isNumeral.not_mem rfl), filling_char args (by decide),
      filling_plain args slot.plain]
    simp

theorem filling_join (slots : List Slot) :
    filling args (String.join (slots.map Slot.text)).toList =
      (String.join (slots.map fun slot => slot.argument args ++ slot.behind)).toList := by
  induction slots with
  | nil => rfl
  | cons slot rest ih =>
      rw [List.map_cons, List.map_cons, String.join_cons, String.join_cons, String.toList_append,
        filling_written, ih, ← String.toList_append]

theorem toList_fill_parse (text : String) :
    ((parse text).fill args).toList = filling args text.toList := by
  rw [fill, String.toList_ofList]
  rfl

/-- Filling is a single pass. Between literal texts, each slot is replaced by the argument of its
number, and by nothing where there are not so many arguments; whatever the arguments have in them
stays as it is. And every text at all is read to its end by the rules, in one way: what they make of
it is what filling returns. -/
theorem fill_form_and_fills_iff :
    (∀ form : Form, (parse form.text).fill args = form.filled args) ∧
    ∀ text filled : String, Fills args text.toList filled.toList ↔
      (parse text).fill args = filled := by
  constructor
  · intro form
    rw [← String.toList_inj, toList_fill_parse, Form.text, String.toList_append,
      filling_plain args form.plain, filling_join, Form.filled, String.toList_append]
  · intro text filled
    rw [← String.toList_inj, toList_fill_parse]
    constructor
    · intro fills
      exact fills.eq_filling.symm
    · intro isFilled
      rw [← isFilled]
      exact fills_filling args text.toList

end

/-- A part of a text from a place that is an argument with braces, and of a length that is missing;
what is no number between braces, and a number beyond all indices, stay as they are. -/
theorem substring_filled :
    let args := ["\x7b1\x7d", "@p0"]
    let text := "SUBSTRING(\x7b1\x7d, \x7b0\x7d + 1, \x7b02\x7d)"
    (∃ form : Form, form.text = text ∧
      (parse text).fill args = form.filled args ∧
      form.filled args = "SUBSTRING(@p0, \x7b1\x7d + 1, )") ∧
    Fills args "\x7bx\x7d \x7b\x7b1\x7d \x7b18446744073709551616\x7d".toList
      "\x7bx\x7d \x7b@p0 \x7b18446744073709551616\x7d".toList := by
  intro args text
  let form : Form :=
    { lead := "SUBSTRING("
      plain := by decide
      slots := [⟨"1", by decide, ", ", by decide⟩, ⟨"0", by decide, " + 1, ", by decide⟩,
        ⟨"02", by decide, ")", by decide⟩] }
  have isText : form.text = text := by decide
  obtain ⟨fillsForms, fillsTexts⟩ := fill_form_and_fills_iff args
  refine ⟨⟨form, isText, ?_, by decide⟩, (fillsTexts _ _).mpr (by decide +kernel)⟩
  rw [← isText]
  exact fillsForms form

end TypedQuery.Sql.Template
