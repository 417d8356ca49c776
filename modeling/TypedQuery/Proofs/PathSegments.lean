/-
Module: TypedQuery.Proofs.PathSegments
Purpose: The prefix of a nested command is the prefix of the command around it and one
  segment more. No segment begins another, so a text tells the segments that it
  begins with.
Main exports: Segment, Segment.text_append_inj, segmentsText, StandsApart,
  segmentsText_append_inj
-/
import TypedQuery.Proofs.TextTokens
import TypedQuery.Proofs.TraceGrammar

namespace TypedQuery.Sql

/-- What a prefix is made of: the number of a nested command, or the side of a set
operation. -/
inductive Segment
  | nested (number : Nat)
  | first
  | second
deriving DecidableEq

/-- Text of a segment. -/
def Segment.text : Segment → String
  | .nested number => "sq" ++ toString number ++ "_"
  | .first => "so0_"
  | .second => "so1_"

theorem nestedPath_eq (path : String) (number : Nat) :
    nestedPath path number = path ++ (Segment.nested number).text := by
  simp only [nestedPath, Segment.text, String.append_assoc]

/-! ### Numerals -/

theorem toString_injective {number number' : Nat} (same : toString number = toString number') :
    number = number' := by
  have digits := congrArg (fun text => Nat.ofDigitChars 10 text.toList 0) same
  simpa only [Nat.toString_eq_repr, Nat.toList_repr, Nat.ofDigitChars_ten_toDigits] using digits

/-- A numeral ends where the digits do. -/
theorem toString_append_inj {number number' : Nat} {rest rest' : List Char}
    (same : (toString number).toList ++ '_' :: rest = (toString number').toList ++ '_' :: rest') :
    number = number' ∧ rest = rest' := by
  have digits := congrArg (List.takeWhile Char.isDigit) same
  rw [List.takeWhile_append_of_pos fun _ => isDigit_of_mem_toString,
    List.takeWhile_append_of_pos fun _ => isDigit_of_mem_toString] at digits
  simp only [List.takeWhile_cons, show Char.isDigit '_' = false by decide, Bool.false_eq_true,
    if_false, List.append_nil] at digits
  obtain rfl := toString_injective (String.toList_inj.mp digits)
  simpa using same

/-! ### Segments -/

namespace Segment

/-- Segments are told apart by the text that begins with them. -/
theorem text_append_inj {segment segment' : Segment} {rest rest' : String}
    (same : segment.text ++ rest = segment'.text ++ rest') :
    segment = segment' ∧ rest = rest' := by
  have characters := congrArg String.toList same
  cases segment with
  | nested number =>
      cases segment' with
      | nested number' =>
          simp only [text, String.toList_append, List.append_assoc] at characters
          have numerals := toString_append_inj (List.append_cancel_left characters)
          exact ⟨congrArg nested numerals.1, String.toList_inj.mp numerals.2⟩
      | _ => simp [text] at characters
  | first =>
      cases segment' with
      | first => simpa [text, String.toList_inj] using characters
      | _ => simp [text] at characters
  | second =>
      cases segment' with
      | second => simpa [text, String.toList_inj] using characters
      | _ => simp [text] at characters

/-- No segment begins as a position does. -/
theorem text_append_ne_position (segment : Segment) (rest rest' : String) :
    segment.text ++ rest ≠ "p" ++ rest' := by
  intro same
  have characters := congrArg String.toList same
  cases segment <;> simp [text] at characters

theorem text_append_ne_empty (segment : Segment) (rest : String) : segment.text ++ rest ≠ "" := by
  intro same
  have characters := congrArg String.toList same
  cases segment <;> simp [text] at characters

end Segment

/-! ### Sequences of segments -/

/-- What nested commands put behind the prefix of the command around them. -/
def segmentsText : List Segment → String
  | [] => ""
  | segment :: segments => segment.text ++ segmentsText segments

/-- The name does not begin with a segment. -/
def StandsApart (name : String) : Prop := ∀ segment rest, name ≠ Segment.text segment ++ rest

theorem standsApart_of_head? {name : String} (head : name.toList.head? ≠ some 's') :
    StandsApart name := by
  rintro segment rest rfl
  apply head
  cases segment <;> simp [Segment.text]

/-- Segments are told apart by the text that begins with them, if what follows them does
not begin with a segment itself. -/
theorem segmentsText_append_inj {name name' : String} (apart : StandsApart name)
    (apart' : StandsApart name') {segments segments' : List Segment}
    (same : segmentsText segments ++ name = segmentsText segments' ++ name') :
    segments = segments' ∧ name = name' := by
  induction segments generalizing segments' with
  | nil =>
      cases segments' with
      | nil => simpa [segmentsText] using same
      | cons segment' segments' =>
          rw [segmentsText, segmentsText, String.empty_append, String.append_assoc] at same
          exact absurd same (apart segment' _)
  | cons segment segments ih =>
      cases segments' with
      | nil =>
          rw [segmentsText, segmentsText, String.empty_append, String.append_assoc] at same
          exact absurd same.symm (apart' segment _)
      | cons segment' segments' =>
          rw [segmentsText, segmentsText, String.append_assoc, String.append_assoc] at same
          obtain ⟨rfl, following⟩ := Segment.text_append_inj same
          obtain ⟨rfl, sameName⟩ := ih following
          exact ⟨rfl, sameName⟩

end TypedQuery.Sql
