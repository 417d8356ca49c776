/-
Module: TypedQuery.Proofs.WrittenDocuments
Purpose: A document of entries with bare keys and strings is read back as the table with these
  entries, in their order, if no key comes twice.
Main exports: Toml.IsBareKey, Toml.readKey_bare, Toml.readEntry_written,
  Toml.readDocument_written
-/
import Mathlib.Algebra.Order.BigOperators.Group.List
import TypedQuery.Proofs.WrittenStrings
import TypedQuery.Toml.Reader

namespace TypedQuery.Toml

/-! ### Keys -/

/-- A key that needs no quotes. -/
def IsBareKey (key : String) : Prop := key.toList ≠ [] ∧ key.toList.all isBare = true

instance (key : String) : Decidable (IsBareKey key) := inferInstanceAs (Decidable (_ ∧ _))

/-- A bare character is none of those that mean something else. -/
theorem ne_of_isBare {character other : Char} (bare : isBare character = true)
    (special : isBare other = false) : character ≠ other := by
  rintro rfl
  rw [special] at bare
  cases bare

theorem skipBlanks_cons {character : Char} (notBlank : isBlank character = false)
    (rest : List Char) : skipBlanks (character :: rest) = character :: rest := by
  rw [skipBlanks, List.dropWhile_cons_of_neg (by simp [notBlank])]

theorem isBlank_of_isBare {character : Char} (bare : isBare character = true) :
    isBlank character = false := by
  have notSpace := ne_of_isBare bare (show isBare ' ' = false by decide)
  have notTab := ne_of_isBare bare (show isBare '\t' = false by decide)
  rw [isBlank, beq_eq_false_iff_ne.mpr notSpace, beq_eq_false_iff_ne.mpr notTab, Bool.or_false]

/-- Bare characters are read up to the first one that is not. -/
theorem readSimpleKey_bare {first : Char} {others : List Char}
    (bare : ∀ character ∈ first :: others, isBare character = true) {stop : Char}
    (stops : isBare stop = false) (rest : List Char) :
    readSimpleKey (first :: others ++ stop :: rest) =
      some (String.ofList (first :: others), stop :: rest) := by
  have notQuote := ne_of_isBare (bare first List.mem_cons_self) (show isBare '"' = false by decide)
  have notApostrophe :=
    ne_of_isBare (bare first List.mem_cons_self) (show isBare '\'' = false by decide)
  have taken : (first :: others ++ stop :: rest).takeWhile isBare = first :: others := by
    rw [List.takeWhile_append_of_pos bare, List.takeWhile_cons_of_neg (by simp [stops]),
      List.append_nil]
  have left : (first :: others ++ stop :: rest).dropWhile isBare = stop :: rest := by
    rw [List.dropWhile_append_of_pos bare, List.dropWhile_cons_of_neg (by simp [stops])]
  unfold readSimpleKey
  split
  · rename_i same
    exact absurd (List.cons.inj same).1 notQuote
  · rename_i same
    exact absurd (List.cons.inj same).1 notApostrophe
  · simp only [taken, left]
    rfl

theorem readKey_bare {key : String} (bare : IsBareKey key) (rest : List Char) :
    readKey (key.toList ++ ' ' :: '=' :: rest) = some ([], key, '=' :: rest) := by
  obtain ⟨nonempty, bare⟩ := bare
  obtain ⟨first, others, isKey⟩ := List.exists_cons_of_ne_nil nonempty
  rw [isKey, List.all_eq_true] at bare
  rw [isKey]
  have single := readSimpleKey_bare bare (show isBare ' ' = false by decide) ('=' :: rest)
  have notBlank := isBlank_of_isBare (bare first List.mem_cons_self)
  have back : String.ofList (first :: others) = key := by rw [← isKey, String.ofList_toList]
  rw [back] at single
  rw [readKey, readKeyParts, List.cons_append, skipBlanks_cons notBlank, ← List.cons_append, single]
  rfl

/-! ### Entries -/

/-- Every written string opens with a quote. -/
theorem stringChars_eq_cons (text : List Char) :
    ∃ quote rest, stringChars text = quote :: rest ∧ (quote = '"' ∨ quote = '\'') := by
  unfold stringChars
  cases Form.of text with
  | basic => exact ⟨_, _, rfl, .inl rfl⟩
  | literal => exact ⟨_, _, rfl, .inr rfl⟩
  | multiBasic => exact ⟨_, _, rfl, .inl rfl⟩
  | multiLiteral => exact ⟨_, _, rfl, .inr rfl⟩

theorem readValue_written (text : String) {rest : List Char}
    (noQuote : rest.head? ≠ some '"') (noApostrophe : rest.head? ≠ some '\'') :
    readValue (stringChars text.toList ++ rest) = some (.string text, rest) := by
  have read := readString_written text.toList noQuote noApostrophe
  obtain ⟨quote, others, written, isQuote⟩ := stringChars_eq_cons text.toList
  rw [written, List.cons_append] at read ⊢
  rw [readValue, readValueAt, if_pos isQuote, read, String.ofList_toList]
  rfl

/-- The characters of an entry. -/
theorem toList_writeEntry (key value : String) :
    (writeEntry key value).toList =
      key.toList ++ ' ' :: '=' :: ' ' :: (stringChars value.toList ++ ['\n']) := by
  simp [writeEntry, writeString]

theorem readEntry_written {key : String} (bare : IsBareKey key) (value : String)
    (rest : List Char) :
    readEntry ((writeEntry key value).toList ++ rest) = some ([], key, .string value, rest) := by
  have isValue := readValue_written value (show ('\n' :: rest).head? ≠ some '"' by simp)
    (by simp)
  obtain ⟨quote, others, written, isQuote⟩ := stringChars_eq_cons value.toList
  have notBlank : isBlank quote = false := by
    rcases isQuote with rfl | rfl <;> rfl
  have skipped : skipBlanks (' ' :: (stringChars value.toList ++ '\n' :: rest)) =
      stringChars value.toList ++ '\n' :: rest := by
    rw [written, List.cons_append]
    exact skipBlanks_cons notBlank _
  have isKey := readKey_bare bare (' ' :: (stringChars value.toList ++ '\n' :: rest))
  rw [toList_writeEntry]
  simp only [List.append_assoc, List.cons_append, List.nil_append]
  rw [readEntry, isKey]
  simp only [Option.bind_eq_bind, Option.bind_some, expect, if_true, skipped, isValue]
  rfl

/-! ### Tables -/

/-- A new key goes to the end. -/
theorem Table.setEntry_of_fresh {key : String} {entries : List Entry}
    (fresh : entries.find? (·.key == key) = none) (item : Item) :
    setEntry key item entries = entries ++ [⟨key, item⟩] := by
  induction entries with
  | nil => rfl
  | cons entry rest ih =>
      rw [List.find?_eq_none, List.forall_mem_cons, beq_iff_eq] at fresh
      rw [setEntry, if_neg fresh.1, ih (List.find?_eq_none.mpr fresh.2), List.cons_append]

/-- A table with further entries at the end. -/
def Table.extended (table : Table) (entries : List Entry) : Table :=
  ⟨table.entries ++ entries, table.implicit, table.dotted⟩

theorem Table.extended_nil (table : Table) : table.extended [] = table := by
  obtain ⟨entries, implicit, dotted⟩ := table
  rw [extended, List.append_nil]

theorem Table.extended_extended (table : Table) (entries more : List Entry) :
    (table.extended entries).extended more = table.extended (entries ++ more) := by
  simp only [extended, List.append_assoc]

/-- A key without parts in front of it is defined in a table that no dotted key made. -/
theorem Table.define_single {table : Table} (notDotted : table.dotted = false) {key : String}
    (fresh : table.get? key = none) (item : Item) :
    table.define [] key item = some (table.extended [⟨key, item⟩]) := by
  have missing : table.entries.find? (·.key == key) = none := Option.map_eq_none_iff.mp fresh
  simp only [define, descend, notDotted, fresh, set, extended, setEntry_of_fresh missing]
  rfl

/-- What a table lacks, it lacks with a further entry under another key. -/
theorem Table.get?_extended {table : Table} {entry : Entry} {key : String}
    (apart : entry.key ≠ key) (fresh : table.get? key = none) :
    (table.extended [entry]).get? key = none := by
  have missing : table.entries.find? (·.key == key) = none := Option.map_eq_none_iff.mp fresh
  rw [get?, extended, List.find?_append, missing, List.find?_singleton,
    beq_eq_false_iff_ne.mpr apart]
  rfl

/-! ### Documents -/

/-- An entry with a bare key begins with a character of the key. -/
theorem writeEntry_eq_cons {key : String} (bare : IsBareKey key) (value : String) :
    ∃ first rest, (writeEntry key value).toList = first :: rest ∧ isBare first = true := by
  obtain ⟨nonempty, bare⟩ := bare
  obtain ⟨first, others, isKey⟩ := List.exists_cons_of_ne_nil nonempty
  rw [isKey, List.all_eq_true] at bare
  have isEntry := toList_writeEntry key value
  rw [isKey, List.cons_append] at isEntry
  exact ⟨first, _, isEntry, bare first List.mem_cons_self⟩

/-- A line with an entry. -/
theorem readLines_entry {key : String} (bare : IsBareKey key) (value : String) (fuel : Nat)
    (draft : Draft) (rest : List Char) :
    readLines (fuel + 1) draft ((writeEntry key value).toList ++ rest) =
      (draft.onEntry [] key (.string value)).bind (readLines fuel · rest) := by
  have isEntry := readEntry_written bare value rest
  obtain ⟨first, line, isLine, isBare⟩ := writeEntry_eq_cons bare value
  rw [isLine, List.cons_append] at isEntry ⊢
  rw [readLines, skipBlanks_cons (isBlank_of_isBare isBare)]
  have notFirst {other : Char} (special : Toml.isBare other = false) {more : List Char} :
      first :: (line ++ rest) ≠ other :: more := fun same =>
    ne_of_isBare isBare special (List.cons.inj same).1
  split
  · rename_i same
    cases same
  -- The forms of other lines, each with a first character that no bare key has.
  iterate 5
    rename_i same
    exact absurd same (notFirst (by decide))
  · rw [isEntry]
    rfl

/-- An entry of a table whose key stands for a text. -/
def textEntry (entry : String × String) : Entry := ⟨entry.1, .string entry.2⟩

/-- Lines with entries go one after the other into the table at the root. -/
theorem readLines_entries {entries : List (String × String)}
    (bare : ∀ entry ∈ entries, IsBareKey entry.1) (distinct : (entries.map Prod.fst).Nodup)
    {draft : Draft} (atRoot : draft.path = []) (notDotted : draft.current.dotted = false)
    (fresh : ∀ entry ∈ entries, draft.current.get? entry.1 = none) {fuel : Nat}
    (enough : entries.length < fuel) :
    readLines fuel draft (entries.flatMap fun entry => (writeEntry entry.1 entry.2).toList) =
      some (draft.current.extended (entries.map textEntry)) := by
  -- A line extends the current table; the keys of the lines behind it differ from its own, so that
  -- they are still fresh in the extended table.
  induction entries generalizing draft fuel with
  | nil =>
      obtain ⟨fuel, rfl⟩ := Nat.exists_eq_add_one.mpr enough
      have finished : draft.finish = some draft.current := by rw [Draft.finish, atRoot]; rfl
      rw [List.flatMap_nil, List.map_nil, Table.extended_nil, readLines]
      exact finished
  | cons entry entries ih =>
      obtain ⟨fuel, rfl⟩ : ∃ more, fuel = more + 1 := Nat.exists_eq_add_one.mpr (by omega)
      obtain ⟨isBare, bare⟩ := List.forall_mem_cons.mp bare
      obtain ⟨isFresh, fresh⟩ := List.forall_mem_cons.mp fresh
      obtain ⟨apart, distinct⟩ := List.nodup_cons.mp distinct
      have defined : draft.onEntry [] entry.1 (.string entry.2) =
          some { draft with current := draft.current.extended [textEntry entry] } := by
        rw [Draft.onEntry, Table.define_single notDotted isFresh]
        rfl
      have stillFresh : ∀ other ∈ entries,
          (draft.current.extended [textEntry entry]).get? other.1 = none := by
        intro other present
        have differ : entry.1 ≠ other.1 := fun same =>
          apart (same ▸ List.mem_map_of_mem present)
        exact Table.get?_extended differ (fresh other present)
      have stillAtRoot :
          ({ draft with current := draft.current.extended [textEntry entry] } : Draft).path = [] :=
        atRoot
      have behind := ih bare distinct stillAtRoot notDotted stillFresh
        (Nat.lt_of_succ_lt_succ enough)
      rw [Table.extended_extended, List.singleton_append] at behind
      rw [List.flatMap_cons, readLines_entry isBare, defined, Option.bind_some, behind,
        List.map_cons]

/-- Entries with distinct bare keys are read back as they were written. -/
theorem readDocument_written {entries : List (String × String)}
    (bare : ∀ entry ∈ entries, IsBareKey entry.1) (distinct : (entries.map Prod.fst).Nodup)
    {text : String}
    (isText : text.toList = entries.flatMap fun entry => (writeEntry entry.1 entry.2).toList) :
    readDocument text = some ⟨entries.map textEntry, false, false⟩ := by
  have noMark : dropMark text.toList = text.toList := by
    cases entries with
    | nil =>
        rw [isText]
        rfl
    | cons entry entries =>
        obtain ⟨first, rest, isEntry, isBare⟩ :=
          writeEntry_eq_cons (bare entry List.mem_cons_self) entry.2
        rw [isText, List.flatMap_cons, isEntry, List.cons_append, dropMark,
          if_neg (ne_of_isBare isBare (by decide))]
  have enough : entries.length < text.toList.length + 1 := by
    have lengths : ∀ length ∈ entries.map fun entry => (writeEntry entry.1 entry.2).toList.length,
        1 ≤ length := by
      intro length isLength
      obtain ⟨entry, present, rfl⟩ := List.mem_map.mp isLength
      obtain ⟨first, rest, isEntry, -⟩ := writeEntry_eq_cons (bare entry present) entry.2
      rw [isEntry]
      exact Nat.le_add_left 1 _
    have atLeast := List.length_le_sum_of_one_le _ lengths
    rw [List.length_map] at atLeast
    rw [isText, List.length_flatMap]
    omega
  rw [readDocument, noMark]
  rw [isText] at enough ⊢
  exact readLines_entries bare distinct rfl rfl (fun _ _ => rfl) enough

end TypedQuery.Toml
