/-
Module: TypedQuery.Proofs.SnakeCase
Purpose: Names in snake case, taken apart into the characters of the name and the underscores put
  between its words. In a name of ASCII characters, such an underscore stands behind a lowercase
  letter or a digit, or in front of the last capital of a run that a lowercase letter follows; apart
  from the underscores, letters are lowered and nothing else happens.
Main exports: Casing.isUppercase_ascii, Casing.isLowercase_ascii, SnakePart, snakeParts,
  flatMap_written_snakeParts, insertedBehind_snakeParts_iff, snakeCase_ascii
-/
import TypedQuery.Naming.LetterCase

namespace TypedQuery

open CaseTable (Run)

/-! ### Case of ASCII characters -/

namespace Casing

variable {character : Char}

theorem exists_code_of_ascii (ascii : character.toNat < 128) :
    ∃ code : Fin 128, Char.ofNat code = character :=
  ⟨⟨character.toNat, ascii⟩, Char.ofNat_toNat character⟩

/-- Where all further runs lie beyond ASCII, the first one decides. -/
theorem inRuns_ascii {first : Run} {further : List Run}
    (beyond : ∀ run ∈ further, 128 ≤ run.first) (ascii : character.toNat < 128) :
    inRuns (first :: further) character = first.covers character.toNat := by
  have none : further.any (·.covers character.toNat) = false := by
    rw [List.any_eq_false]
    intro run present
    have bound := beyond run present
    simp only [Run.covers, Bool.and_eq_true, decide_eq_true_eq]
    omega
  rw [inRuns, List.any_cons, none, Bool.or_false]

theorem isUppercase_ascii (ascii : character.toNat < 128) :
    isUppercase character = character.isUpper := by
  have beyond : ∀ run ∈ CaseTable.uppercase.tail, 128 ≤ run.first := by decide +kernel
  have capitals : ∀ code : Fin 128,
      Run.covers ⟨0x41, 0x5A, 1⟩ (Char.ofNat code).toNat = (Char.ofNat code).isUpper := by decide
  obtain ⟨code, rfl⟩ := exists_code_of_ascii ascii
  exact (inRuns_ascii beyond ascii).trans (capitals code)

theorem isLowercase_ascii (ascii : character.toNat < 128) :
    isLowercase character = character.isLower := by
  have beyond : ∀ run ∈ CaseTable.lowercase.tail, 128 ≤ run.first := by decide +kernel
  have small : ∀ code : Fin 128,
      Run.covers ⟨0x61, 0x7A, 1⟩ (Char.ofNat code).toNat = (Char.ofNat code).isLower := by decide
  obtain ⟨code, rfl⟩ := exists_code_of_ascii ascii
  exact (inRuns_ascii beyond ascii).trans (small code)

theorem lowerChar_ascii (ascii : character.toNat < 128) :
    (if character.isUpper then lowerChar character else [character]) = [character.toLower] := by
  have all : ∀ code : Fin 128,
      (if (Char.ofNat code).isUpper then lowerChar (Char.ofNat code) else [Char.ofNat code]) =
        [(Char.ofNat code).toLower] := by decide +kernel
  obtain ⟨code, rfl⟩ := exists_code_of_ascii ascii
  exact all code

/-- What is lowered has nothing uppercase any more. -/
theorem isUppercase_toLower_ascii (ascii : character.toNat < 128) :
    isUppercase character.toLower = false := by
  have all : ∀ code : Fin 128, (Char.ofNat code).toLower.toNat < 128 ∧
      (Char.ofNat code).toLower.isUpper = false := by decide
  obtain ⟨code, rfl⟩ := exists_code_of_ascii ascii
  rw [isUppercase_ascii (all code).1, (all code).2]

end Casing

/-! ### The parts of a snake-cased name -/

/-- A character of the name, or an underscore put between two of its words. -/
inductive SnakePart
  | letter (character : Char)
  | separator
deriving DecidableEq

/-- What a part is written as. -/
def SnakePart.written : SnakePart → List Char
  | .letter character =>
    if Casing.isUppercase character then Casing.lowerChar character else [character]
  | .separator => ['_']

/-- The characters of the name among the parts. -/
def SnakePart.letters (parts : List SnakePart) : List Char :=
  parts.filterMap fun
    | .letter character => some character
    | .separator => none

/-- Is an underscore put in front of the character between these neighbours? -/
def isSeparated (previous : Option Char) (character : Char) (next : Option Char) : Bool :=
  Casing.isUppercase character && startsWord previous next

/-- The parts of a name behind `previous`. -/
def snakeParts (previous : Option Char) : List Char → List SnakePart
  | [] => []
  | character :: rest =>
    (if isSeparated previous character rest.head? then [.separator] else []) ++
      .letter character :: snakeParts (some character) rest

/-- A name in snake case is its parts, written one after the other. -/
theorem flatMap_written_snakeParts (previous : Option Char) (name : List Char) :
    (snakeParts previous name).flatMap SnakePart.written = snakeFrom previous name := by
  induction name generalizing previous with
  | nil => rfl
  | cons character rest ih =>
      rw [snakeParts, snakeFrom, List.flatMap_append, List.flatMap_cons, ih, isSeparated,
        SnakePart.written]
      by_cases capital : Casing.isUppercase character = true
      · rw [if_pos capital, if_pos capital, capital, Bool.true_and, List.append_assoc]
        cases startsWord previous rest.head? <;> rfl
      · rw [if_neg capital, if_neg capital, eq_false_of_ne_true capital, Bool.false_and]
        rfl

/-- Without the inserted underscores, the characters of the name are left. -/
theorem filter_snakeParts (previous : Option Char) (name : List Char) :
    (snakeParts previous name).filter (· ≠ .separator) = name.map .letter := by
  induction name generalizing previous with
  | nil => rfl
  | cons character rest ih =>
      rw [snakeParts, List.filter_append, List.map_cons, ← ih (some character)]
      cases isSeparated previous character rest.head? <;> rfl

/-! ### Where underscores are inserted -/

/-- An underscore is inserted right behind the first characters of a name. -/
def InsertedBehind (parts : List SnakePart) (front : List Char) : Prop :=
  ∃ before after, parts = before ++ .separator :: after ∧ SnakePart.letters before = front

section

variable {parts : List SnakePart} {character : Char} {front : List Char}

theorem insertedBehind_separator : InsertedBehind (.separator :: parts) [] :=
  ⟨[], parts, rfl, rfl⟩

theorem not_insertedBehind_letter : ¬ InsertedBehind (.letter character :: parts) [] := by
  rintro ⟨before, after, isWhole, isFront⟩
  rcases List.cons_eq_append_iff.mp isWhole with ⟨-, ⟨⟩⟩ | ⟨before, rfl, -⟩
  cases isFront

theorem insertedBehind_letter_iff :
    InsertedBehind (.letter character :: parts) (character :: front) ↔
      InsertedBehind parts front := by
  constructor
  · rintro ⟨before, after, isWhole, isFront⟩
    rcases List.cons_eq_append_iff.mp isWhole with ⟨-, ⟨⟩⟩ | ⟨before, rfl, isRest⟩
    exact ⟨before, after, isRest, List.tail_eq_of_cons_eq isFront⟩
  · rintro ⟨before, after, rfl, rfl⟩
    exact ⟨.letter character :: before, after, rfl, rfl⟩

theorem insertedBehind_separator_iff :
    InsertedBehind (.separator :: parts) (character :: front) ↔
      InsertedBehind parts (character :: front) := by
  constructor
  · rintro ⟨before, after, isWhole, isFront⟩
    rcases List.cons_eq_append_iff.mp isWhole with ⟨rfl, -⟩ | ⟨before, rfl, isRest⟩
    · cases isFront
    · exact ⟨before, after, isRest, isFront⟩
  · rintro ⟨before, after, rfl, isFront⟩
    exact ⟨.separator :: before, after, rfl, isFront⟩

end

/-- An underscore is inserted in front of a character just if its neighbours in the name call for
it. -/
theorem insertedBehind_snakeParts_iff (previous : Option Char) (front : List Char)
    (character : Char) (back : List Char) :
    InsertedBehind (snakeParts previous (front ++ character :: back)) front ↔
      isSeparated (front.getLast?.or previous) character back.head? = true := by
  induction front generalizing previous with
  | nil =>
      rw [List.nil_append, snakeParts, List.getLast?_nil, Option.none_or]
      cases isSeparated previous character back.head? with
      | true => exact iff_of_true insertedBehind_separator rfl
      | false => exact iff_of_false not_insertedBehind_letter Bool.false_ne_true
  | cons first front ih =>
      have isLast : (first :: front).getLast?.or previous = front.getLast?.or (some first) := by
        rw [List.getLast?_cons]
        cases front.getLast? <;> rfl
      rw [List.cons_append, snakeParts, isLast, ← ih (some first)]
      cases isSeparated previous first (front ++ character :: back).head? with
      | true => exact insertedBehind_separator_iff.trans insertedBehind_letter_iff
      | false => exact insertedBehind_letter_iff

theorem exists_previous_of_startsWord {previous next : Option Char}
    (starts : startsWord previous next = true) :
    ∃ character, previous = some character ∧ character ≠ '_' := by
  cases previous with
  | none => cases starts
  | some character =>
      refine ⟨character, rfl, ?_⟩
      rintro rfl
      cases starts

/-- In front of the place between the parts is a character of the name that is no underscore, and
behind it an uppercase one. -/
structure BetweenLetters (previous : Option Char) (before after : List SnakePart) : Prop where
  isLast : ∃ character, character ≠ '_' ∧
    (previous.toList.map SnakePart.letter ++ before).getLast? = some (.letter character)
  isNext : ∃ character, Casing.isUppercase character = true ∧
    after.head? = some (.letter character)

theorem BetweenLetters.further {previous : Option Char} {character : Char}
    {before after : List SnakePart} (between : BetweenLetters (some character) before after)
    (gap : List SnakePart) :
    BetweenLetters previous (gap ++ .letter character :: before) after := by
  obtain ⟨last, plain, isLast⟩ := between.isLast
  refine ⟨⟨last, plain, ?_⟩, between.isNext⟩
  rw [← isLast, ← List.append_assoc, List.getLast?_append, List.getLast?_cons, Option.some_or]
  exact List.getLast?_cons.symm

/-- Inserted underscores stand between letters. -/
theorem betweenLetters_of_separator {previous : Option Char} {name : List Char}
    {before after : List SnakePart}
    (inserted : snakeParts previous name = before ++ .separator :: after) :
    BetweenLetters previous before after := by
  induction name generalizing previous before with
  | nil => simp [snakeParts] at inserted
  | cons character rest ih =>
      rw [snakeParts] at inserted
      cases separated : isSeparated previous character rest.head? with
      | false =>
          rw [separated] at inserted
          rcases List.cons_eq_append_iff.mp inserted with ⟨-, ⟨⟩⟩ | ⟨before, rfl, isRest⟩
          exact (ih isRest).further []
      | true =>
          rw [separated] at inserted
          rcases List.cons_eq_append_iff.mp inserted with ⟨rfl, ⟨⟩⟩ | ⟨before, rfl, isBehind⟩
          · -- It is the underscore in front of this very character.
            obtain ⟨capital, starts⟩ := Bool.and_eq_true_iff.mp separated
            obtain ⟨last, rfl, plain⟩ := exists_previous_of_startsWord starts
            exact ⟨⟨last, plain, rfl⟩, character, capital, rfl⟩
          · rcases List.cons_eq_append_iff.mp isBehind with ⟨-, ⟨⟩⟩ | ⟨before, rfl, isRest⟩
            exact (ih isRest).further [.separator]

/-! ### Names of ASCII characters -/

/-- The neighbours of a character call for an underscore in front of it: an uppercase letter stands
behind a lowercase letter or a digit, or between an uppercase and a lowercase one. -/
def BeginsWord (front : List Char) (character : Char) (back : List Char) : Prop :=
  character.isUpper = true ∧ ∃ previous ∈ front.getLast?,
    previous.isLower = true ∨ previous.isDigit = true ∨
      previous.isUpper = true ∧ ∃ next ∈ back.head?, next.isLower = true

theorem startsWord_ascii {previous next : Option Char}
    (ofPrevious : ∀ character ∈ previous, character.toNat < 128)
    (ofNext : ∀ character ∈ next, character.toNat < 128) :
    startsWord previous next = true ↔ ∃ character ∈ previous,
      character.isLower = true ∨ character.isDigit = true ∨
        character.isUpper = true ∧ ∃ other ∈ next, other.isLower = true := by
  have lowerNext : next.any Casing.isLowercase = true ↔ ∃ other ∈ next, other.isLower = true := by
    cases next with
    | none => simp
    | some other => simp [Casing.isLowercase_ascii (ofNext other rfl)]
  cases previous with
  | none => simp [startsWord]
  | some character =>
      have ascii := ofPrevious character rfl
      rw [startsWord, Casing.isLowercase_ascii ascii, Casing.isUppercase_ascii ascii]
      by_cases underscore : character = '_'
      · -- An underscore is neither a letter nor a digit.
        subst underscore
        simp
      · rw [if_neg underscore]
        grind

theorem written_letter_ascii {character : Char} (ascii : character.toNat < 128) :
    (SnakePart.letter character).written = [character.toLower] := by
  rw [SnakePart.written, Casing.isUppercase_ascii ascii, Casing.lowerChar_ascii ascii]

section

variable {name : List Char} (ascii : ∀ character ∈ name, character.toNat < 128)

include ascii

theorem isSeparated_ascii {front back : List Char} {character : Char}
    (isName : name = front ++ character :: back) :
    isSeparated front.getLast? character back.head? = true ↔ BeginsWord front character back := by
  subst isName
  have ofFront : ∀ other ∈ front.getLast?, other.toNat < 128 :=
    fun other isLast => ascii other (by simp [List.mem_of_getLast? isLast])
  have ofBack : ∀ other ∈ back.head?, other.toNat < 128 :=
    fun other isHead => ascii other (by simp [List.mem_of_mem_head? isHead])
  rw [isSeparated, Bool.and_eq_true, Casing.isUppercase_ascii (ascii character (by simp)),
    startsWord_ascii ofFront ofBack, BeginsWord]

theorem flatMap_written_ascii :
    (name.map SnakePart.letter).flatMap SnakePart.written = name.map Char.toLower := by
  induction name with
  | nil => rfl
  | cons character rest ih =>
      have further := fun other present => ascii other (.tail _ present)
      rw [List.map_cons, List.map_cons, List.flatMap_cons, ih further,
        written_letter_ascii (ascii character (.head _)), List.singleton_append]

/-- Nothing uppercase is left. -/
theorem isUppercase_of_mem_snakeFrom_ascii {previous : Option Char} {character : Char}
    (present : character ∈ snakeFrom previous name) : Casing.isUppercase character = false := by
  rw [← flatMap_written_snakeParts] at present
  obtain ⟨part, isPart, isWritten⟩ := List.mem_flatMap.mp present
  cases part with
  | separator =>
      cases List.mem_singleton.mp isWritten
      exact Casing.isUppercase_ascii (by decide)
  | letter original =>
      have kept : SnakePart.letter original ∈ (snakeParts previous name).filter (· ≠ .separator) :=
        List.mem_filter.mpr ⟨isPart, by simp⟩
      rw [filter_snakeParts, List.mem_map] at kept
      obtain ⟨_, isOriginal, ⟨⟩⟩ := kept
      have ofOriginal := ascii original isOriginal
      rw [written_letter_ascii ofOriginal] at isWritten
      cases List.mem_singleton.mp isWritten
      exact Casing.isUppercase_toLower_ascii ofOriginal

end

/-- Without uppercase characters, there is nothing to do. -/
theorem snakeFrom_of_no_uppercase {name : List Char}
    (noCapital : ∀ character ∈ name, Casing.isUppercase character = false)
    (previous : Option Char) : snakeFrom previous name = name := by
  induction name generalizing previous with
  | nil => rfl
  | cons character rest ih =>
      have plain := noCapital character (.head _)
      have further := fun other present => noCapital other (.tail _ present)
      rw [snakeFrom, plain, if_neg Bool.false_ne_true, ih further]

/-- Snake case lowers the letters of an ASCII name and puts underscores between its words. Without
the inserted underscores it is the name in lower case. An inserted underscore is neither first nor
last, nor beside an underscore of the name; it stands in front of exactly those letters that begin a
word. A second time there is nothing left to do. -/
theorem snakeCase_ascii {name : String}
    (ascii : ∀ character ∈ name.toList, character.toNat < 128) :
    let parts := snakeParts none name.toList
    (snakeCase name).toList = parts.flatMap SnakePart.written ∧
    (parts.filter (· ≠ .separator)).flatMap SnakePart.written = name.toLower.toList ∧
    (∀ before after, parts = before ++ .separator :: after →
      (∃ character ≠ '_', before.getLast? = some (.letter character)) ∧
        ∃ character ≠ '_', after.head? = some (.letter character)) ∧
    (∀ front character back, name.toList = front ++ character :: back →
      (InsertedBehind parts front ↔ BeginsWord front character back)) ∧
    snakeCase (snakeCase name) = snakeCase name := by
  intro parts
  have isText : (snakeCase name).toList = snakeFrom none name.toList := String.toList_ofList
  refine ⟨?written, ?deleted, ?apart, ?placed, ?again⟩
  case written => rw [isText, flatMap_written_snakeParts]
  case deleted =>
    rw [filter_snakeParts, flatMap_written_ascii ascii]
    exact String.toList_map.symm
  case apart =>
    intro before after inserted
    obtain ⟨⟨last, plain, isLast⟩, next, capital, isNext⟩ := betweenLetters_of_separator inserted
    refine ⟨⟨last, plain, isLast⟩, next, ?_, isNext⟩
    rintro rfl
    rw [Casing.isUppercase_ascii (by decide)] at capital
    cases capital
  case placed =>
    intro front character back isName
    have placed := insertedBehind_snakeParts_iff none front character back
    rw [← isName, Option.or_none, isSeparated_ascii ascii isName] at placed
    exact placed
  case again =>
    have noCapital : ∀ character ∈ (snakeCase name).toList,
        Casing.isUppercase character = false := by
      rw [isText]
      exact fun _ => isUppercase_of_mem_snakeFrom_ascii ascii
    rw [← String.toList_inj, snakeCase, String.toList_ofList]
    exact snakeFrom_of_no_uppercase noCapital none

/-- A run of capitals ends with the last but one, a digit ends a word, and an underscore of the name
needs no other beside it. -/
theorem httpStatus_snakeCase :
    let name := "HTTPStatus_Code2X"
    (∀ character ∈ name.toList, character.toNat < 128) ∧
      snakeCase name = "http_status_code2_x" ∧
      snakeCase "http_status_code2_x" = "http_status_code2_x" ∧
      InsertedBehind (snakeParts none name.toList) "HTTP".toList ∧
      InsertedBehind (snakeParts none name.toList) "HTTPStatus_Code2".toList ∧
      ¬ InsertedBehind (snakeParts none name.toList) "HTTPStatus_".toList := by
  intro name
  have ascii : ∀ character ∈ name.toList, character.toNat < 128 := by
    have all : name.toList.all (·.toNat < 128) = true := by decide
    simpa using all
  have isSnake : snakeCase name = "http_status_code2_x" := by decide +kernel
  obtain ⟨-, -, -, placed, again⟩ := snakeCase_ascii ascii
  rw [isSnake] at again
  refine ⟨ascii, isSnake, again, ?acronym, ?digit, ?underscore⟩
  case acronym =>
    refine (placed _ 'S' "tatus_Code2X".toList (by decide)).mpr ⟨rfl, 'P', rfl, ?_⟩
    exact .inr (.inr ⟨rfl, 't', rfl, rfl⟩)
  case digit => exact (placed _ 'X' [] (by decide)).mpr ⟨rfl, '2', rfl, .inr (.inl rfl)⟩
  case underscore =>
    rw [placed _ 'C' "ode2X".toList (by decide)]
    rintro ⟨-, _, ⟨⟩, noLetter⟩
    revert noLetter
    decide

end TypedQuery
