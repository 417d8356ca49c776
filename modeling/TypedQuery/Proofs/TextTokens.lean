/-
Module: TypedQuery.Proofs.TextTokens
Purpose: The placeholders that a text shows: each at sign with the letters, digits and
  underscores behind it. They can be read off the parts of a text as long as a part
  is not followed by a character that could belong to its last placeholder.
Main exports: tokens, mem_tokens, Plain, IsWord, Stops, Divides, tokens_plain_append,
  tokens_append, tokens_between, tokens_intercalate, tokens_of_word
-/

namespace TypedQuery.Sql

/-- A character that may belong to a placeholder's name. -/
def isWord (character : Char) : Bool := character.isAlphanum || character == '_'

/-- The placeholders among characters. -/
def scanTokens : List Char → List String
  | [] => []
  | character :: rest =>
    if character = '@' then String.ofList ('@' :: rest.takeWhile isWord) :: scanTokens rest
    else scanTokens rest

/-- The placeholders of a text, from left to right. -/
def tokens (text : String) : List String := scanTokens text.toList

/-- A text shows what stands behind one of its at signs, as far as it can be read. -/
theorem mem_tokens {text token : String} :
    token ∈ tokens text ↔ ∃ before after, text.toList = before ++ '@' :: after ∧
      token = String.ofList ('@' :: after.takeWhile isWord) := by
  unfold tokens
  generalize text.toList = characters
  induction characters with
  | nil => simp [scanTokens]
  | cons character rest ih =>
      constructor
      · intro shown
        rw [scanTokens] at shown
        split at shown
        · rename_i sign
          rcases List.mem_cons.mp shown with rfl | shown
          · exact ⟨[], rest, by rw [sign, List.nil_append], rfl⟩
          · obtain ⟨before, after, rfl, same⟩ := ih.mp shown
            exact ⟨character :: before, after, rfl, same⟩
        · obtain ⟨before, after, rfl, same⟩ := ih.mp shown
          exact ⟨character :: before, after, rfl, same⟩
      · rintro ⟨before, after, split, rfl⟩
        rw [scanTokens]
        cases before with
        | nil =>
            cases split
            simp
        | cons first before =>
            cases split
            have shown := ih.mpr ⟨before, after, rfl, rfl⟩
            by_cases sign : character = '@'
            · rw [if_pos sign]
              exact List.mem_cons_of_mem _ shown
            · rw [if_neg sign]
              exact shown

/-! ### Texts without placeholders -/

/-- No at sign occurs. -/
def Plain (text : String) : Prop := '@' ∉ text.toList

instance (text : String) : Decidable (Plain text) := inferInstanceAs (Decidable (_ ∉ _))

theorem Plain.append {first second : String} (plain : Plain first) (plain' : Plain second) :
    Plain (first ++ second) := by
  unfold Plain at plain plain' ⊢
  rw [String.toList_append, List.mem_append]
  rintro (sign | sign)
  · exact plain sign
  · exact plain' sign

/-- In front of a text, a plain one changes nothing. -/
theorem tokens_plain_append {first : String} (plain : Plain first) (second : String) :
    tokens (first ++ second) = tokens second := by
  unfold Plain at plain
  unfold tokens
  rw [String.toList_append]
  generalize first.toList = characters at plain
  induction characters with
  | nil => rfl
  | cons character rest ih =>
      rw [List.mem_cons, not_or] at plain
      rw [List.cons_append, scanTokens, if_neg (Ne.symm plain.1), ih plain.2]

theorem tokens_of_plain {text : String} (plain : Plain text) : tokens text = [] := by
  have shown := tokens_plain_append plain ""
  rwa [String.append_empty] at shown

/-! ### Texts that are part of a name -/

/-- Nothing but characters of a name. -/
def IsWord (text : String) : Prop := ∀ character ∈ text.toList, isWord character = true

instance (text : String) : Decidable (IsWord text) :=
  decidable_of_iff (text.toList.all isWord = true) List.all_eq_true

theorem IsWord.append {first second : String} (word : IsWord first) (word' : IsWord second) :
    IsWord (first ++ second) := by
  intro character present
  rw [String.toList_append] at present
  rcases List.mem_append.mp present with present | present
  · exact word character present
  · exact word' character present

theorem IsWord.plain {text : String} (word : IsWord text) : Plain text := by
  intro sign
  have isName := word '@' sign
  exact absurd isName (by decide)

theorem isDigit_of_mem_toString {number : Nat} {digit : Char}
    (present : digit ∈ (toString number).toList) : digit.isDigit = true := by
  rw [Nat.toString_eq_repr, Nat.toList_repr] at present
  exact Nat.isDigit_of_mem_toDigits (by decide) (by decide) present

theorem isWord_numeral (number : Nat) : IsWord (toString number) := by
  intro digit present
  have isDigit := isDigit_of_mem_toString present
  simp [isWord, Char.isAlphanum, isDigit]

/-! ### One text after another -/

/-- The text does not go on with a placeholder's name: it is empty, or its first
character does not belong to one. -/
def Stops (text : String) : Prop := ∀ character ∈ text.toList.head?, isWord character = false

instance (text : String) : Decidable (Stops text) :=
  decidable_of_iff (text.toList.head?.all (fun character => !isWord character) = true)
    (by simp [Stops, Option.all_eq_true])

theorem stops_empty : Stops "" := by decide

theorem Stops.append {first second : String} (stops : Stops first) (stops' : Stops second) :
    Stops (first ++ second) := by
  unfold Stops at stops stops' ⊢
  rw [String.toList_append]
  cases characters : first.toList with
  | nil => exact stops'
  | cons character rest =>
      rw [characters] at stops
      exact stops

/-- What follows a text that ends a name does not matter. -/
theorem Stops.append_of_ne_empty {first : String} (stops : Stops first) (ne_empty : first ≠ "")
    (second : String) : Stops (first ++ second) := by
  unfold Stops at stops ⊢
  rw [String.toList_append]
  cases characters : first.toList with
  | nil => exact absurd (String.toList_eq_nil_iff.mp characters) ne_empty
  | cons character rest =>
      rw [characters] at stops
      exact stops

/-- A run of name characters ends where the next text stops it. -/
theorem takeWhile_append_of_stops {second : String} (stops : Stops second)
    (characters : List Char) :
    (characters ++ second.toList).takeWhile isWord = characters.takeWhile isWord := by
  unfold Stops at stops
  generalize second.toList = others at stops
  induction characters with
  | nil =>
      cases others with
      | nil => rfl
      | cons character rest =>
          have ends := stops character rfl
          simp [ends]
  | cons character rest ih => rw [List.cons_append, List.takeWhile_cons, List.takeWhile_cons, ih]

/-- Two texts show what each shows, if the second stops the names of the first. -/
theorem tokens_append (first : String) {second : String} (stops : Stops second) :
    tokens (first ++ second) = tokens first ++ tokens second := by
  unfold tokens
  rw [String.toList_append]
  generalize first.toList = characters
  induction characters with
  | nil => rfl
  | cons character rest ih =>
      rw [List.cons_append, scanTokens, scanTokens]
      by_cases sign : character = '@'
      · rw [if_pos sign, if_pos sign, ih, takeWhile_append_of_stops stops, List.cons_append]
      · rw [if_neg sign, if_neg sign, ih]

/-- Plain and not empty, and it stops a name. -/
structure Divides (text : String) : Prop where
  plain : Plain text
  stops : Stops text
  ne_empty : text ≠ ""

instance (text : String) : Decidable (Divides text) :=
  decidable_of_iff (Plain text ∧ Stops text ∧ text ≠ "")
    ⟨fun ⟨plain, stops, ne_empty⟩ => ⟨plain, stops, ne_empty⟩,
      fun divides => ⟨divides.plain, divides.stops, divides.ne_empty⟩⟩

/-- What follows a divider does not matter. -/
theorem Divides.stops_append {divider : String} (divides : Divides divider) (text : String) :
    Stops (divider ++ text) :=
  divides.stops.append_of_ne_empty divides.ne_empty text

/-- A divider between two texts. -/
theorem tokens_between {divider : String} (divides : Divides divider) (first second : String) :
    tokens (first ++ (divider ++ second)) = tokens first ++ tokens second := by
  rw [tokens_append first (divides.stops_append second), tokens_plain_append divides.plain]

/-- A divider behind a text. -/
theorem tokens_append_divider {divider : String} (divides : Divides divider) (first : String) :
    tokens (first ++ divider) = tokens first := by
  rw [tokens_append first divides.stops, tokens_of_plain divides.plain, List.append_nil]

/-- Texts with dividers between them show what each text shows. -/
theorem tokens_intercalate {divider : String} (divides : Divides divider) (texts : List String) :
    tokens (divider.intercalate texts) = texts.flatMap tokens := by
  induction texts with
  | nil => rfl
  | cons text rest ih =>
      cases rest with
      | nil => rw [String.intercalate_singleton, List.flatMap_singleton]
      | cons next rest =>
          rw [String.intercalate_cons_cons, String.append_assoc, tokens_between divides, ih]
          rfl

/-- An at sign and name characters are one placeholder. -/
theorem tokens_of_word {word : String} (isName : IsWord word) :
    tokens ("@" ++ word) = ["@" ++ word] := by
  have form : "@" ++ word = String.ofList ('@' :: word.toList) := by
    rw [← String.toList_inj, String.toList_ofList]
    simp
  have run : word.toList.takeWhile isWord = word.toList := by
    have whole : (word.toList ++ []).takeWhile isWord = word.toList ++ [].takeWhile isWord :=
      List.takeWhile_append_of_pos isName
    simpa using whole
  have rest := tokens_of_plain isName.plain
  unfold tokens at rest ⊢
  rw [form, String.toList_ofList, scanTokens, if_pos rfl, run, rest]

end TypedQuery.Sql
