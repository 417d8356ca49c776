/-
Module: TypedQuery.Proofs.SavedConventions
Purpose: What was written to a file is read from it, a convention is read from the document that
  it is written as, and so a saved convention is loaded again.
Trusted boundary: the TOML library and the operating system, as far as Toml.Writer, Toml.Reader
  and FileStore say what is assumed of them.
Main exports: FileStore.follow_followMaking, FileStore.read?_write, Convention.ofToml_toToml,
  Convention.load_save
-/
import TypedQuery.Naming.Storage
import TypedQuery.Proofs.WrittenDocuments

namespace TypedQuery

namespace FileStore

/-! ### Folders on the way -/

/-- The other store has all folders of this one, and the same current one. -/
structure GrowsTo (store grown : FileStore) : Prop where
  folders : ∀ place ∈ store.folders, place ∈ grown.folders
  current : grown.current = store.current

theorem GrowsTo.refl (store : FileStore) : store.GrowsTo store := ⟨fun _ present => present, rfl⟩

theorem GrowsTo.trans {store middle grown : FileStore} (first : store.GrowsTo middle)
    (second : middle.GrowsTo grown) : store.GrowsTo grown where
  folders place present := second.folders place (first.folders place present)
  current := second.current.trans first.current

theorem growsTo_makeFolder (store : FileStore) (place : Place) :
    store.GrowsTo (store.makeFolder place) where
  folders _ present := List.mem_cons_of_mem place present
  current := rfl

/-- On the way to a place only folders are made, also when the way ends early. -/
theorem growsTo_followMaking {store made : FileStore} {start : Place} {reached : Option Place}
    {names : List String} (followed : store.followMaking start names = (made, reached)) :
    store.GrowsTo made := by
  induction names generalizing store start with
  | nil =>
      obtain ⟨rfl, -⟩ := Prod.mk.inj followed
      exact .refl store
  | cons name names ih =>
      rw [followMaking] at followed
      split at followed
      · exact ih followed
      · dsimp only at followed
        split_ifs at followed
        · obtain ⟨rfl, -⟩ := Prod.mk.inj followed
          exact .refl store
        · exact (growsTo_makeFolder store _).trans (ih followed)

theorem GrowsTo.isFolder {store grown : FileStore} (grows : store.GrowsTo grown) {place : Place}
    (isFolder : store.isFolder place = true) : grown.isFolder place = true := by
  simp only [FileStore.isFolder, Bool.or_eq_true, List.contains_iff_mem] at isFolder ⊢
  exact isFolder.imp_right (grows.folders place)

/-- Where a name led to, it still leads when there are more folders. -/
theorem GrowsTo.enter {store grown : FileStore} (grows : store.GrowsTo grown) {place next : Place}
    {name : String} (entered : store.enter place name = some next) :
    grown.enter place name = some next := by
  unfold FileStore.enter at entered ⊢
  by_cases back : name = Path.parentName
  -- The way back does not look at folders.
  · rw [if_pos back] at entered ⊢
    exact entered
  · rw [if_neg back] at entered ⊢
    split_ifs at entered with isFolder
    rw [if_pos (grows.isFolder isFolder)]
    exact entered

/-- A folder that was made for want of one is entered by its name. -/
theorem enter_makeFolder {store : FileStore} {place : Place} {name : String}
    (missing : store.enter place name = none) :
    (store.makeFolder (place ++ [name])).enter place name = some (place ++ [name]) := by
  have isMade : (store.makeFolder (place ++ [name])).isFolder (place ++ [name]) = true := by
    simp [isFolder, makeFolder]
  unfold enter at missing ⊢
  split_ifs at missing ⊢ with back
  rfl

/-- The way along which folders were made is open. -/
theorem follow_followMaking {store made : FileStore} {start place : Place} {names : List String}
    (arrived : store.followMaking start names = (made, some place)) :
    made.follow start names = some place := by
  induction names generalizing store start with
  | nil => exact (Prod.mk.inj arrived).2
  | cons name names ih =>
      rw [followMaking] at arrived
      split at arrived
      -- Both steps, into a folder that was there and into one that was made, are taken again in the
      -- store at the end of the way, which has further folders only.
      · rename_i next entered
        rw [follow, (growsTo_followMaking arrived).enter entered]
        exact ih arrived
      · rename_i missing
        dsimp only at arrived
        split_ifs at arrived
        · cases arrived
        · rw [follow, (growsTo_followMaking arrived).enter (enter_makeFolder missing)]
          exact ih arrived

/-! ### Files -/

theorem file?_putFile (store : FileStore) (place : Place) (content : ByteArray) :
    (store.putFile place content).file? place = some content := by
  simp [file?, putFile]

/-- Files do not matter for the way from folder to folder. -/
theorem follow_putFile (store : FileStore) (file : Place) (content : ByteArray) (start : Place)
    (names : List String) :
    (store.putFile file content).follow start names = store.follow start names := by
  induction names generalizing start with
  | nil => rfl
  | cons name names ih =>
      have sameEnter : (store.putFile file content).enter start name = store.enter start name := rfl
      simp only [follow, sameEnter, ih]

/-- What it takes to write a file: a name for it at the end of the path, a way to the folder, and a
path that can be handed on. -/
theorem of_write {store written : FileStore} {text : String} {content : ByteArray}
    (isWritten : store.write text content = (written, true)) :
    ∃ name made place,
      (Path.ofString text).names.getLast? = some name ∧
        store.followMaking (store.startOf (.ofString text)) (Path.ofString text).names.dropLast =
          (made, some place) ∧
        (Path.ofString text).endsInFolder = false ∧ Path.isPassable text = true ∧
        written = made.putFile (place ++ [name]) content := by
  unfold write at isWritten
  dsimp only at isWritten
  split at isWritten
  · cases isWritten
  · rename_i name isLast
    split_ifs at isWritten
    · cases isWritten
    split at isWritten
    · cases isWritten
    · rename_i made place arrived
      split_ifs at isWritten with refused
      · cases isWritten
      simp only [Bool.or_eq_true, Bool.not_eq_true', not_or, Bool.not_eq_true,
        Bool.not_eq_false] at refused
      obtain ⟨⟨notFolder, passable⟩, -⟩ := refused
      exact ⟨name, made, place, isLast, arrived, notFolder, passable,
        (Prod.mk.inj isWritten).1.symm⟩

/-- What was written along a path is read along it. -/
theorem read?_write {store written : FileStore} {text : String} {content : ByteArray}
    (isWritten : store.write text content = (written, true)) :
    written.read? text = some content := by
  obtain ⟨name, made, place, isLast, arrived, notFolder, passable, rfl⟩ := of_write isWritten
  have sameCurrent : made.current = store.current := (growsTo_followMaking arrived).current
  have sameStart : (made.putFile (place ++ [name]) content).startOf (.ofString text) =
      store.startOf (.ofString text) := by
    rw [startOf, startOf, putFile, sameCurrent]
  have isOpen := follow_followMaking arrived
  unfold read?
  simp only [isLast, notFolder, passable, sameStart, follow_putFile, isOpen, file?_putFile]
  rfl

end FileStore

/-! ### Conventions -/

namespace Convention

/-- The entries of a convention, in their order. -/
def entries (convention : Convention) : List (String × String) :=
  [(tableLeadKey, convention.tableLead), (columnLeadKey, convention.columnLead),
    (tableCaseKey, convention.tableCase.keyword), (columnCaseKey, convention.columnCase.keyword)]

theorem toList_toToml (convention : Convention) :
    convention.toToml.toList =
      convention.entries.flatMap fun entry => (Toml.writeEntry entry.1 entry.2).toList := by
  simp [toToml, entries]

theorem ofKeyword?_keyword (letterCase : LetterCase) :
    LetterCase.ofKeyword? letterCase.keyword = some letterCase := by
  cases letterCase <;> rfl

/-- The table of a convention describes it. -/
theorem ofTable?_entries (convention : Convention) :
    ofTable? ⟨convention.entries.map Toml.textEntry, false, false⟩ = some convention := by
  have tableLead : readOr "" readLead tableLeadKey
      ⟨convention.entries.map Toml.textEntry, false, false⟩ = some convention.tableLead := rfl
  have columnLead : readOr "" readLead columnLeadKey
      ⟨convention.entries.map Toml.textEntry, false, false⟩ = some convention.columnLead := rfl
  have tableCase : readOr .preserve readCase tableCaseKey
      ⟨convention.entries.map Toml.textEntry, false, false⟩ = some convention.tableCase :=
    ofKeyword?_keyword convention.tableCase
  have columnCase : readOr .preserve readCase columnCaseKey
      ⟨convention.entries.map Toml.textEntry, false, false⟩ = some convention.columnCase :=
    ofKeyword?_keyword convention.columnCase
  rw [ofTable?, tableLead, columnLead, tableCase, columnCase]
  rfl

/-- A convention is read from the document that it is written as. -/
theorem ofToml_toToml (convention : Convention) : ofToml convention.toToml = .ok convention := by
  have bareKeys : ∀ entry ∈ convention.entries, Toml.IsBareKey entry.1 := by
    simp only [entries, List.forall_mem_cons]
    exact ⟨by decide, by decide, by decide, by decide, List.forall_mem_nil _⟩
  have distinctKeys : (convention.entries.map Prod.fst).Nodup := by
    change [tableLeadKey, columnLeadKey, tableCaseKey, columnCaseKey].Nodup
    decide
  have isRead := Toml.readDocument_written bareKeys distinctKeys convention.toList_toToml
  rw [ofToml, isRead, Option.bind_some, ofTable?_entries]

/-! ### Saving and loading -/

/-- The bytes of a text are read as the text. -/
theorem fromUTF8?_toUTF8 (text : String) : String.fromUTF8? text.toUTF8 = some text := by
  rw [String.fromUTF8?, String.toUTF8_eq_toByteArray, dif_pos text.isValidUTF8]
  rfl

/-- A saved convention is loaded from where it was saved, whatever its texts, and tables and columns
have the names they had. -/
theorem load_save {convention : Convention} {path : String} {store saved : FileStore}
    (isSaved : convention.save path store = (saved, .ok ())) :
    ∃ loaded, load path saved = .ok loaded ∧ loaded = convention ∧
      (∀ model, loaded.resolver.tableName model = convention.resolver.tableName model) ∧
      ∀ member, loaded.resolver.columnName member = convention.resolver.columnName member := by
  have isWritten : store.write path convention.toToml.toUTF8 = (saved, true) := by
    unfold save at isSaved
    obtain ⟨sameStore, noError⟩ := Prod.mk.inj isSaved
    split_ifs at noError with written
    exact Prod.ext sameStore written
  have isLoaded : load path saved = .ok convention := by
    rw [load, FileStore.read?_write isWritten, Option.bind_some, fromUTF8?_toUTF8]
    exact ofToml_toToml convention
  exact ⟨convention, isLoaded, rfl, fun _ => rfl, fun _ => rfl⟩

/-- A convention whose texts are written in two further forms: one has a quote and a backslash, the
other begins with a line end and has three apostrophes in a row and a control character. -/
def quoted : Convention := ⟨"a\"b\\", "\n'''\x01", .snake, .upper⟩

/-- The convention is saved in a folder that is made for it, and loaded from there. -/
theorem quoted_load_save :
    quoted.save "a/b" (.startingAt []) =
        (⟨[["a"]], [(["a", "b"], quoted.toToml.toUTF8)], []⟩, .ok ()) ∧
      load "a/b" ⟨[["a"]], [(["a", "b"], quoted.toToml.toUTF8)], []⟩ = .ok quoted := by
  have parts : "a/b".splitOn "/" = ["a", "b"] := by
    rw [String.splitOn, if_neg (by decide)]
    rw [String.splitOnAux, if_neg (by decide), if_neg (by decide)]
    rw [String.splitOnAux, if_neg (by decide), if_pos (by decide)]
    dsimp only
    rw [if_pos (by decide)]
    rw [String.splitOnAux, if_neg (by decide), if_neg (by decide)]
    rw [String.splitOnAux, if_pos (by decide)]
    decide
  have relative : "a/b".startsWith "/" = false := by
    rw [String.startsWith_string_eq_false_iff]
    decide
  have isPath : Path.ofString "a/b" = ⟨false, ["a", "b"], false⟩ := by
    rw [Path.ofString, parts, relative]
    decide
  have isSaved : quoted.save "a/b" (.startingAt []) =
      (⟨[["a"]], [(["a", "b"], quoted.toToml.toUTF8)], []⟩, .ok ()) := by
    rw [save, FileStore.write, isPath]
    rfl
  obtain ⟨loaded, isLoaded, rfl, -⟩ := load_save isSaved
  exact ⟨isSaved, isLoaded⟩

end Convention

end TypedQuery
