/-
Module: TypedQuery.Proofs.TextNesting
Purpose: Brackets of texts. A text is read from left to right with the brackets that are open
  so far. A well-nested one closes what it opens, innermost first, so that it may stand
  anywhere in a well-nested text; it closes no bracket before it is opened, and all of them.
Main exports: Bracket, Mark, nesting, nest, WellNested, WellNested.between, Balanced,
  WellNested.balanced, Unbracketed
-/
import Mathlib.Tactic.SplitIfs
import TypedQuery.Proofs.TextTokens

namespace TypedQuery.Sql

/-! ### Reading brackets -/

/-- The kinds of brackets that SQL texts have. -/
inductive Bracket
  | round
  | square
deriving DecidableEq

namespace Bracket

/-- The character that opens a bracket. -/
def opening : Bracket → Char
  | round => '('
  | square => '['

/-- The character that closes a bracket. -/
def closing : Bracket → Char
  | round => ')'
  | square => ']'

end Bracket

/-- What a character does to the brackets. -/
inductive Mark
  | opens (kind : Bracket)
  | closes (kind : Bracket)
  | neither
deriving DecidableEq

/-- What the character does to the brackets. -/
def Mark.of (character : Char) : Mark :=
  if character = '(' then .opens .round
  else if character = '[' then .opens .square
  else if character = ')' then .closes .round
  else if character = ']' then .closes .square
  else .neither

/-- Read one mark with the open brackets, the innermost first. A mark that closes another
bracket than the innermost is refused. -/
def Mark.step : Mark → List Bracket → Option (List Bracket)
  | .opens kind, opened => some (kind :: opened)
  | .closes kind, innermost :: outer => if innermost = kind then some outer else none
  | .closes _, [] => none
  | .neither, opened => some opened

/-- The brackets that are open once the characters are read, unless one is closed wrongly. -/
def nesting : List Bracket → List Char → Option (List Bracket)
  | opened, [] => some opened
  | opened, character :: rest => ((Mark.of character).step opened).bind (nesting · rest)

/-- The brackets that are open behind a text. -/
def nest (opened : List Bracket) (text : String) : Option (List Bracket) :=
  nesting opened text.toList

/-- Every bracket that the text opens is closed in it by its own kind, innermost first, and
nothing else is closed. -/
def WellNested (text : String) : Prop := nest [] text = some []

instance (text : String) : Decidable (WellNested text) :=
  inferInstanceAs (Decidable (_ = some []))

theorem nesting_append (opened : List Bracket) (first second : List Char) :
    nesting opened (first ++ second) = (nesting opened first).bind (nesting · second) := by
  induction first generalizing opened with
  | nil => rfl
  | cons character rest ih =>
      rw [List.cons_append, nesting, nesting, Option.bind_assoc]
      congr
      funext opened
      exact ih opened

theorem nest_append (opened : List Bracket) (first second : String) :
    nest opened (first ++ second) = (nest opened first).bind (nest · second) := by
  rw [nest, String.toList_append, nesting_append]
  rfl

/-- A mark that closes a bracket takes the innermost one away. -/
theorem Mark.step_closes_eq_some {kind : Bracket} {opened left : List Bracket} :
    (Mark.closes kind).step opened = some left ↔ opened = kind :: left := by
  cases opened with
  | nil => simp [step]
  | cons innermost outer => simp [step]

/-- Brackets further out make no difference to a mark that is read without them. -/
theorem Mark.step_frame {mark : Mark} {opened left : List Bracket}
    (read : mark.step opened = some left) (outer : List Bracket) :
    mark.step (opened ++ outer) = some (left ++ outer) := by
  cases mark with
  | closes kind =>
      rw [step_closes_eq_some] at read ⊢
      rw [read, List.cons_append]
  | _ =>
      cases read
      rfl

theorem nesting_frame {opened left : List Bracket} {characters : List Char}
    (read : nesting opened characters = some left) (outer : List Bracket) :
    nesting (opened ++ outer) characters = some (left ++ outer) := by
  induction characters generalizing opened with
  | nil =>
      cases read
      rfl
  | cons character rest ih =>
      obtain ⟨between, first, ofRest⟩ := Option.bind_eq_some_iff.mp read
      rw [nesting, Mark.step_frame first outer]
      exact ih ofRest

namespace WellNested

variable {first second text : String}

/-- A well-nested text leaves open what is open in front of it. -/
theorem nest_eq (nested : WellNested text) (opened : List Bracket) :
    nest opened text = some opened :=
  nesting_frame nested opened

/-- In front of a text, a well-nested one changes nothing. -/
theorem skip (nested : WellNested first) (opened : List Bracket) (second : String) :
    nest opened (first ++ second) = nest opened second := by
  rw [nest_append, nested.nest_eq]
  rfl

theorem append (nested : WellNested first) (nested' : WellNested second) :
    WellNested (first ++ second) := by
  rw [WellNested, nested.skip]
  exact nested'

/-- A well-nested text may be put anywhere into a well-nested one. -/
theorem between {before after : String} (nested : WellNested text)
    (fixed : WellNested (before ++ after)) : WellNested (before ++ text ++ after) := by
  rw [WellNested, nest_append] at fixed
  obtain ⟨opened, ofBefore, ofAfter⟩ := Option.bind_eq_some_iff.mp fixed
  rw [WellNested, String.append_assoc, nest_append, ofBefore, Option.bind_some, nested.skip]
  exact ofAfter

theorem intercalate {separator : String} {texts : List String} (ofSeparator : WellNested separator)
    (nested : ∀ text ∈ texts, WellNested text) :
    WellNested (String.intercalate separator texts) := by
  induction texts with
  | nil => rfl
  | cons first rest ih =>
      rw [List.forall_mem_cons] at nested
      cases rest with
      | nil =>
          rw [String.intercalate_singleton]
          exact nested.1
      | cons second rest =>
          rw [String.intercalate_cons_cons]
          exact (nested.1.append ofSeparator).append (ih nested.2)

end WellNested

/-! ### Counting brackets -/

/-- No beginning of the text closes more brackets of the kind than it opens, and in the end all
are closed. -/
structure Balanced (kind : Bracket) (text : String) : Prop where
  closes_opened : ∀ before after, text.toList = before ++ after →
    before.count kind.closing ≤ before.count kind.opening
  closes_all : text.toList.count kind.closing = text.toList.count kind.opening

/-- The character is one that makes the mark. -/
def Mark.MadeBy (character : Char) : Mark → Prop
  | .opens kind => character = kind.opening
  | .closes kind => character = kind.closing
  | .neither => ∀ kind : Bracket, character ≠ kind.opening ∧ character ≠ kind.closing

theorem Mark.of_madeBy (character : Char) : (of character).MadeBy character := by
  unfold of
  split_ifs with round square round' square'
  · exact round
  · exact square
  · exact round'
  · exact square'
  · intro kind
    cases kind with
    | round => exact ⟨round, round'⟩
    | square => exact ⟨square, square'⟩

/-- A character opens a bracket, closes the innermost one, or does neither. -/
theorem Mark.count_step {character : Char} {opened left : List Bracket}
    (read : (of character).step opened = some left) (kind : Bracket) :
    [character].count kind.closing + left.count kind =
      [character].count kind.opening + opened.count kind := by
  have madeBy := of_madeBy character
  cases mark : of character with
  | opens held =>
      rw [mark] at read madeBy
      cases read
      rw [madeBy, List.count_cons]
      cases held <;> cases kind <;> simp [Bracket.opening, Bracket.closing, Nat.add_comm]
  | closes held =>
      rw [mark, step_closes_eq_some] at read
      rw [mark] at madeBy
      rw [madeBy, read, List.count_cons]
      cases held <;> cases kind <;> simp [Bracket.opening, Bracket.closing, Nat.add_comm]
  | neither =>
      rw [mark] at read madeBy
      cases read
      obtain ⟨notOpening, notClosing⟩ := madeBy kind
      simp [notOpening, notClosing]

/-- What characters close and leave open is what they open and what was open before. -/
theorem count_nesting {opened left : List Bracket} {characters : List Char}
    (read : nesting opened characters = some left) (kind : Bracket) :
    characters.count kind.closing + left.count kind =
      characters.count kind.opening + opened.count kind := by
  induction characters generalizing opened with
  | nil =>
      cases read
      rfl
  | cons character rest ih =>
      obtain ⟨between, first, ofRest⟩ := Option.bind_eq_some_iff.mp read
      have ofFirst := Mark.count_step first kind
      have ofOthers := ih ofRest
      rw [← List.singleton_append, List.count_append, List.count_append]
      omega

theorem WellNested.balanced {text : String} (nested : WellNested text) (kind : Bracket) :
    Balanced kind text where
  closes_opened := by
    intro before after split
    rw [WellNested, nest, split, nesting_append] at nested
    obtain ⟨left, ofBefore, -⟩ := Option.bind_eq_some_iff.mp nested
    have counted := count_nesting ofBefore kind
    rw [List.count_nil] at counted
    omega
  closes_all := by
    have counted := count_nesting nested kind
    simpa using counted

/-! ### Texts without brackets -/

/-- No character of the text opens or closes a bracket. -/
def Unbracketed (text : String) : Prop :=
  ∀ character ∈ text.toList, Mark.of character = .neither

instance (text : String) : Decidable (Unbracketed text) :=
  List.decidableBAll (Mark.of · = .neither) text.toList

theorem Unbracketed.append {first second : String} (free : Unbracketed first)
    (free' : Unbracketed second) : Unbracketed (first ++ second) := by
  intro character present
  rw [String.toList_append] at present
  rcases List.mem_append.mp present with present | present
  · exact free character present
  · exact free' character present

theorem Unbracketed.wellNested {text : String} (free : Unbracketed text) : WellNested text := by
  unfold Unbracketed at free
  unfold WellNested nest
  generalize text.toList = characters at free
  induction characters with
  | nil => rfl
  | cons character rest ih =>
      rw [List.forall_mem_cons] at free
      rw [nesting, free.1]
      exact ih free.2

theorem IsWord.unbracketed {text : String} (word : IsWord text) : Unbracketed text := by
  intro character present
  have isName := word character present
  unfold Mark.of
  split_ifs with round square round' square'
  · exact absurd isName (by rw [round]; decide)
  · exact absurd isName (by rw [square]; decide)
  · exact absurd isName (by rw [round']; decide)
  · exact absurd isName (by rw [square']; decide)
  · rfl

end TypedQuery.Sql
