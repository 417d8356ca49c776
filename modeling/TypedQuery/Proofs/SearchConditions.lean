/-
Module: TypedQuery.Proofs.SearchConditions
Purpose: How SQL reads the text of a search condition. Brackets are not looked into; outside of
  them `OR` divides the text, `AND` divides what is left, and `NOT` turns over what follows it.
  Texts that no `OR` divides may be joined by `AND`: the whole then is as true as all of them.
Main exports: Lexeme, lexemes, outlines, words, Template.outlines_fill, Valuation.truth,
  Conjunctive, truth_intercalate, Valuation.ReadsThrough, Valuation.readsThrough_throughAll
-/
import Mathlib.Order.BoundedOrder.Lattice
import TypedQuery.Proofs.TextNesting
import TypedQuery.Sql.Template

namespace TypedQuery.Sql

/-! ### Lexemes -/

/-- What a text consists of as long as its brackets are not looked into. -/
inductive Lexeme
  | word (text : String)
  | enclosed (kind : Bracket) (inside : String)
  | sign (character : Char)
deriving DecidableEq

/-- The word, if it is one. -/
def Lexeme.word? : Lexeme → Option String
  | word text => some text
  | _ => none

/-- The lexeme without what stands in its brackets. -/
def Lexeme.outline : Lexeme → Lexeme
  | enclosed kind _ => enclosed kind ""
  | lexeme => lexeme

/-- What is known between two characters of a text. -/
structure Lexer where
  /-- The brackets that are open, the innermost first. -/
  opened : List Bracket
  /-- The beginning of a word, or of what stands in the outermost bracket. -/
  held : List Char

namespace Lexer

/-- Nothing is open and nothing held. -/
def start : Lexer := ⟨[], []⟩

/-- The word that ends here, if there is one. -/
def finish (lexer : Lexer) : List Lexeme :=
  if lexer.opened = [] ∧ lexer.held ≠ [] then [.word (String.ofList lexer.held)] else []

/-- Read one character: the lexemes that it completes, and what is known behind it. -/
def read (lexer : Lexer) (character : Char) : List Lexeme × Lexer :=
  match lexer.opened with
  | [] =>
    match Mark.of character with
    | .opens kind => (lexer.finish, ⟨[kind], []⟩)
    | _ =>
      if isWord character then ([], ⟨[], lexer.held ++ [character]⟩)
      else if character.isWhitespace then (lexer.finish, start)
      else (lexer.finish ++ [.sign character], start)
  | innermost :: outer =>
    match (Mark.of character).step (innermost :: outer) with
    | some [] => ([.enclosed innermost (String.ofList lexer.held)], start)
    | some opened => ([], ⟨opened, lexer.held ++ [character]⟩)
    | none => ([], ⟨innermost :: outer, lexer.held ++ [character]⟩)

/-- The lexemes that are still to come. -/
def lexemes : Lexer → List Char → List Lexeme
  | lexer, [] => lexer.finish
  | lexer, character :: rest => (lexer.read character).1 ++ (lexer.read character).2.lexemes rest

end Lexer

/-- The lexemes of a text, from left to right. -/
def lexemes (text : String) : List Lexeme := Lexer.start.lexemes text.toList

/-- The words of a text that stand outside of brackets. -/
def words (text : String) : List String := (lexemes text).filterMap Lexeme.word?

/-- The lexemes of a text without what stands in their brackets. -/
def outlines (text : String) : List Lexeme := (lexemes text).map Lexeme.outline

theorem mem_words {text word : String} : word ∈ words text ↔ Lexeme.word word ∈ lexemes text := by
  rw [words, List.mem_filterMap]
  constructor
  · rintro ⟨lexeme, present, isWord⟩
    cases lexeme with
    | word held =>
        cases isWord
        exact present
    | _ => cases isWord
  · intro present
    exact ⟨_, present, rfl⟩

/-- Words stand outside of brackets. -/
theorem mem_words_iff_outlines {text word : String} :
    word ∈ words text ↔ Lexeme.word word ∈ outlines text := by
  rw [mem_words, outlines, List.mem_map]
  constructor
  · intro present
    exact ⟨_, present, rfl⟩
  · rintro ⟨lexeme, present, isWord⟩
    cases lexeme with
    | word held =>
        cases isWord
        exact present
    | _ => cases isWord

namespace Lexer

variable {lexer : Lexer} {opened left : List Bracket} {character : Char}

/-- The brackets are those that the text leaves open. -/
theorem opened_read (step : (Mark.of character).step lexer.opened = some left) :
    (lexer.read character).2.opened = left := by
  obtain ⟨opened, held⟩ := lexer
  unfold read
  cases opened with
  | nil =>
      cases mark : Mark.of character with
      | opens kind =>
          rw [mark] at step
          cases step
          rfl
      | closes kind =>
          rw [mark] at step
          cases step
      | neither =>
          rw [mark] at step
          cases step
          dsimp only
          split_ifs <;> rfl
  | cons innermost outer =>
      dsimp only at step ⊢
      rw [step]
      cases left <;> rfl

/-- A character that leaves a bracket open in which it stands is held. -/
theorem read_inside (held : List Char) (step : (Mark.of character).step opened = some left)
    (within : opened ≠ []) (stays : left ≠ []) :
    read ⟨opened, held⟩ character = ([], ⟨left, held ++ [character]⟩) := by
  unfold read
  cases opened with
  | nil => exact absurd rfl within
  | cons innermost outer =>
      dsimp only
      rw [step]
      cases left with
      | nil => exact absurd rfl stays
      | cons innermost' outer' => rfl

/-- Inside of a bracket, what is well nested is held as a whole. -/
theorem lexemes_inside {outer : List Bracket} (within : outer ≠ []) {inside : List Char}
    (nests : nesting opened inside = some left) (held rest : List Char) :
    lexemes ⟨opened ++ outer, held⟩ (inside ++ rest) =
      lexemes ⟨left ++ outer, held ++ inside⟩ rest := by
  induction inside generalizing opened held with
  | nil =>
      cases nests
      rw [List.append_nil]
      rfl
  | cons character inside ih =>
      obtain ⟨between, step, ofInside⟩ := Option.bind_eq_some_iff.mp nests
      have isHeld := read_inside held (Mark.step_frame step outer)
        (List.append_ne_nil_of_right_ne_nil _ within) (List.append_ne_nil_of_right_ne_nil _ within)
      rw [List.cons_append, lexemes, isHeld, List.nil_append, ih ofInside, List.append_assoc]
      rfl

/-- A blank behind a text that closes its brackets divides the lexemes. -/
theorem lexemes_append_blank {first : List Char} (nests : nesting lexer.opened first = some [])
    (second : List Char) :
    lexer.lexemes (first ++ ' ' :: second) = lexer.lexemes first ++ start.lexemes second := by
  induction first generalizing lexer with
  | nil =>
      obtain ⟨opened, held⟩ := lexer
      cases nests
      rfl
  | cons character first ih =>
      obtain ⟨left, step, ofFirst⟩ := Option.bind_eq_some_iff.mp nests
      rw [← opened_read step] at ofFirst
      rw [List.cons_append, lexemes, lexemes, ih ofFirst, List.append_assoc]

/-- Lexers that complete the same outlines, whatever follows: they may differ in what they hold of
the inside of a bracket. -/
structure Alike (lexer lexer' : Lexer) : Prop where
  opened : lexer.opened = lexer'.opened
  held : lexer.opened = [] → lexer.held = lexer'.held

/-- Nothing that is held inside of a bracket is seen in an outline. -/
theorem Alike.read {lexer' : Lexer} (alike : lexer.Alike lexer') (character : Char) :
    (lexer.read character).1.map Lexeme.outline = (lexer'.read character).1.map Lexeme.outline ∧
      (lexer.read character).2.Alike (lexer'.read character).2 := by
  obtain ⟨opened, held⟩ := lexer
  obtain ⟨opened', held'⟩ := lexer'
  obtain ⟨rfl, same⟩ := alike
  dsimp only at same
  unfold Lexer.read
  cases opened with
  | nil =>
      rw [same rfl]
      exact ⟨rfl, rfl, fun _ => rfl⟩
  | cons innermost outer =>
      dsimp only
      cases (Mark.of character).step (innermost :: outer) with
      | none => exact ⟨rfl, rfl, by simp⟩
      | some left =>
          cases left with
          | nil => exact ⟨rfl, rfl, fun _ => rfl⟩
          | cons innermost' outer' => exact ⟨rfl, rfl, by simp⟩

theorem Alike.outlines {lexer' : Lexer} (alike : lexer.Alike lexer') (characters : List Char) :
    (lexer.lexemes characters).map Lexeme.outline =
      (lexer'.lexemes characters).map Lexeme.outline := by
  induction characters generalizing lexer lexer' with
  | nil =>
      obtain ⟨opened, held⟩ := lexer
      obtain ⟨opened', held'⟩ := lexer'
      obtain ⟨rfl, same⟩ := alike
      rw [lexemes, lexemes, finish, finish]
      cases opened with
      | nil => rw [same rfl]
      | cons innermost outer => rfl
  | cons character rest ih =>
      obtain ⟨same, alike⟩ := alike.read character
      rw [lexemes, lexemes, List.map_append, List.map_append, same, ih alike]

/-- Inside of a bracket, what is well nested changes no outline. -/
theorem outlines_inside {held : List Char} {text : String} (within : opened ≠ [])
    (nested : WellNested text) (rest : List Char) :
    (lexemes ⟨opened, held⟩ (text.toList ++ rest)).map Lexeme.outline =
      (lexemes ⟨opened, held⟩ rest).map Lexeme.outline := by
  have isHeld := lexemes_inside within nested held rest
  rw [List.nil_append] at isHeld
  rw [isHeld]
  have alike : Alike ⟨opened, held ++ text.toList⟩ ⟨opened, held⟩ :=
    ⟨rfl, fun closed => absurd closed within⟩
  exact alike.outlines rest

/-- Behind a text that leaves a bracket open, what is well nested changes no outline. -/
theorem outlines_between {before : List Char} {text : String}
    (leaves : nesting lexer.opened before = some opened) (within : opened ≠ [])
    (nested : WellNested text) (after : List Char) :
    (lexer.lexemes (before ++ (text.toList ++ after))).map Lexeme.outline =
      (lexer.lexemes (before ++ after)).map Lexeme.outline := by
  induction before generalizing lexer with
  | nil =>
      obtain ⟨opened', held⟩ := lexer
      cases leaves
      exact outlines_inside within nested after
  | cons character rest ih =>
      obtain ⟨between, step, ofRest⟩ := Option.bind_eq_some_iff.mp leaves
      rw [← opened_read step] at ofRest
      rw [List.cons_append, List.cons_append, lexemes, lexemes, List.map_append, List.map_append,
        ih ofRest]

/-- What is read of a bracket is what was held when it closed. -/
theorem length_of_enclosed_read {kind : Bracket} {inside : String}
    (present : .enclosed kind inside ∈ (lexer.read character).1) :
    inside.length = lexer.held.length := by
  have notFinished : .enclosed kind inside ∉ lexer.finish := by
    unfold finish
    split <;> simp
  obtain ⟨opened, held⟩ := lexer
  unfold read at present
  cases opened with
  | nil =>
      dsimp only at present
      split at present
      · exact absurd present notFinished
      · split_ifs at present
        · cases present
        · exact absurd present notFinished
        · rcases List.mem_append.mp present with finished | isSign
          · exact absurd finished notFinished
          · simp at isSign
  | cons innermost outer =>
      dsimp only at present
      split at present
      · rw [List.mem_singleton, Lexeme.enclosed.injEq] at present
        rw [present.2, String.length_ofList]
      · cases present
      · cases present

theorem length_held_read (lexer : Lexer) (character : Char) :
    (lexer.read character).2.held.length ≤ lexer.held.length + 1 := by
  obtain ⟨opened, held⟩ := lexer
  unfold read
  cases opened with
  | nil =>
      dsimp only
      split
      · simp
      · split_ifs <;> simp [start]
  | cons innermost outer =>
      dsimp only
      split <;> simp [start]

/-- What stands in a bracket is shorter than the text with the bracket. -/
theorem length_of_enclosed {characters : List Char} {kind : Bracket} {inside : String}
    (present : .enclosed kind inside ∈ lexer.lexemes characters) :
    inside.length < lexer.held.length + characters.length := by
  induction characters generalizing lexer with
  | nil =>
      rw [lexemes, finish] at present
      split at present <;> simp at present
  | cons character rest ih =>
      rw [lexemes, List.mem_append] at present
      rw [List.length_cons]
      rcases present with now | later
      · have isHeld := length_of_enclosed_read now
        omega
      · have shorter := ih later
        have grows := length_held_read lexer character
        omega

end Lexer

/-! ### Lexemes of composed texts -/

theorem length_of_enclosed {kind : Bracket} {inside text : String}
    (present : .enclosed kind inside ∈ lexemes text) : inside.length < text.length := by
  have shorter := Lexer.length_of_enclosed present
  rw [String.length_toList] at shorter
  simpa [Lexer.start] using shorter

theorem lexemes_append_blank {first : String} (nested : WellNested first) (second : String) :
    lexemes (first ++ " " ++ second) = lexemes first ++ lexemes second := by
  rw [lexemes, String.append_assoc, String.toList_append, String.toList_append]
  have read : nesting Lexer.start.opened first.toList = some [] := nested
  exact Lexer.lexemes_append_blank read second.toList

/-- A text in parentheses is one lexeme. -/
theorem lexemes_parenthesised {text : String} (nested : WellNested text) :
    lexemes ("(" ++ text ++ ")") = [.enclosed .round text] := by
  rw [lexemes, String.toList_append, String.toList_append]
  have inside := Lexer.lexemes_inside (by decide : [Bracket.round] ≠ []) nested [] [')']
  change Lexer.lexemes ⟨[] ++ [Bracket.round], []⟩ (text.toList ++ [')']) = _
  rw [inside]
  change [Lexeme.enclosed .round (String.ofList text.toList)] = _
  rw [String.ofList_toList]

example : lexemes "NOT ([a] OR b) AND [c].[OR] = 1" =
    [.word "NOT", .enclosed .round "[a] OR b", .word "AND", .enclosed .square "c", .sign '.',
      .enclosed .square "OR", .sign '=', .word "1"] := by decide

theorem outlines_append_blank {first : String} (nested : WellNested first) (second : String) :
    outlines (first ++ " " ++ second) = outlines first ++ outlines second := by
  rw [outlines, lexemes_append_blank nested, List.map_append]
  rfl

theorem outlines_parenthesised {text : String} (nested : WellNested text) :
    outlines ("(" ++ text ++ ")") = [.enclosed .round ""] := by
  rw [outlines, lexemes_parenthesised nested]
  rfl

/-- What stands in a bracket changes no outline. -/
theorem outlines_between {before text : String} {opened : List Bracket}
    (leaves : nest [] before = some opened) (within : opened ≠ []) (nested : WellNested text)
    (after : String) : outlines (before ++ text ++ after) = outlines (before ++ after) := by
  have read : nesting Lexer.start.opened before.toList = some opened := leaves
  rw [outlines, outlines, lexemes, lexemes, String.append_assoc]
  simp only [String.toList_append]
  exact Lexer.outlines_between read within nested after.toList

namespace Template

/-- Every slot stands inside of a bracket. -/
def slotsInside : List Bracket → List Piece → Bool
  | _, [] => true
  | opened, .char character :: rest =>
    match (Mark.of character).step opened with
    | some left => slotsInside left rest
    | none => false
  | opened, .slot _ :: rest => !opened.isEmpty && slotsInside opened rest

/-- Arguments change no outline of a template whose slots are inside of brackets. -/
theorem outlines_pieces {args : List String} (nested : ∀ arg ∈ args, WellNested arg)
    (pieces : List Piece) (lexer : Lexer) (inside : slotsInside lexer.opened pieces = true) :
    (lexer.lexemes (pieces.flatMap (fillPiece args))).map Lexeme.outline =
      (lexer.lexemes (pieces.flatMap (fillPiece []))).map Lexeme.outline := by
  induction pieces generalizing lexer with
  | nil => rfl
  | cons piece rest ih =>
      rw [List.flatMap_cons, List.flatMap_cons]
      cases piece with
      | char character =>
          rw [slotsInside] at inside
          cases step : (Mark.of character).step lexer.opened with
          | none =>
              rw [step] at inside
              cases inside
          | some left =>
              rw [step] at inside
              have ofRest := ih (lexer.read character).2 (by rwa [Lexer.opened_read step])
              rw [fillPiece, fillPiece, List.singleton_append, List.singleton_append,
                Lexer.lexemes, Lexer.lexemes, List.map_append, List.map_append, ofRest]
      | slot index =>
          obtain ⟨opened, held⟩ := lexer
          rw [slotsInside, Bool.and_eq_true] at inside
          obtain ⟨within, ofRest⟩ := inside
          have isOpen : opened ≠ [] := by simpa using within
          rw [fillPiece, fillPiece]
          cases found : args[index]? with
          | none => exact ih ⟨opened, held⟩ ofRest
          | some arg =>
              have ofArg := nested arg (List.mem_of_getElem? found)
              exact (Lexer.outlines_inside isOpen ofArg _).trans (ih ⟨opened, held⟩ ofRest)

/-- What is seen of a template outside of brackets if nothing fills its slots. -/
def shown (template : Template) : List Lexeme :=
  (Lexer.start.lexemes (template.pieces.flatMap (fillPiece []))).map Lexeme.outline

theorem outlines_fill {template : Template} (inside : slotsInside [] template.pieces = true)
    {args : List String} (nested : ∀ arg ∈ args, WellNested arg) :
    outlines (template.fill args) = template.shown := by
  rw [outlines, lexemes, fill, String.toList_ofList]
  exact outlines_pieces nested template.pieces Lexer.start inside

end Template

/-! ### Truth values -/

/-- How a condition is valued in its parts: those that it does not divide any further, whether they
are parentheses or comparisons, and those that `NOT` stands in front of. -/
structure Valuation (V : Type) where
  part : List Lexeme → V
  negation : V → V

section Truth

-- Two truth values, or the three of SQL.
variable {V : Type} [Lattice V] [BoundedOrder V]

/-- All of the values hold. -/
def conjoin (values : List V) : V := values.foldr (· ⊓ ·) ⊤

/-- One of the values holds. -/
def disjoin (values : List V) : V := values.foldr (· ⊔ ·) ⊥

theorem conjoin_append (first second : List V) :
    conjoin (first ++ second) = conjoin first ⊓ conjoin second := by
  induction first with
  | nil => exact (top_inf_eq _).symm
  | cons value rest ih =>
      change value ⊓ conjoin (rest ++ second) = (value ⊓ conjoin rest) ⊓ conjoin second
      rw [ih, inf_assoc]

theorem disjoin_singleton (value : V) : disjoin [value] = value :=
  sup_bot_eq value

namespace Valuation

variable (valuation : Valuation V)

/-- The value of what no `AND` divides. -/
def factor : List Lexeme → V
  | [] => valuation.part []
  | first :: rest =>
    if first = .word "NOT" then valuation.negation (factor rest)
    else valuation.part (first :: rest)

/-- The value of what no `OR` divides. -/
def conjunction (condition : List Lexeme) : V :=
  conjoin ((condition.splitOn (.word "AND")).map valuation.factor)

/-- The truth value of a condition: `NOT` binds tighter than `AND`, and `AND` tighter than `OR`. -/
def truth (condition : String) : V :=
  disjoin (((lexemes condition).splitOn (.word "OR")).map valuation.conjunction)

end Valuation

/-- The text may be joined to others by `AND`: it closes its brackets, and `OR` occurs in brackets
only. -/
structure Conjunctive (text : String) : Prop where
  nested : WellNested text
  undivided : "OR" ∉ words text

variable {first second : String} (valuation : Valuation V)

theorem Conjunctive.of_outlines {text : String} {found : List Lexeme} (nested : WellNested text)
    (isOutlines : outlines text = found) (undivided : .word "OR" ∉ found) : Conjunctive text :=
  ⟨nested, by rwa [mem_words_iff_outlines, isOutlines]⟩

theorem Conjunctive.truth_eq {text : String} (conjunctive : Conjunctive text) :
    valuation.truth text = valuation.conjunction (lexemes text) := by
  have undivided := mt mem_words.mpr conjunctive.undivided
  rw [Valuation.truth, List.splitOn_eq_singleton undivided, List.map_singleton, disjoin_singleton]

theorem lexemes_and (nested : WellNested first) (second : String) :
    lexemes (first ++ " AND " ++ second) = lexemes first ++ .word "AND" :: lexemes second := by
  have behind : lexemes ("AND" ++ " " ++ second) = .word "AND" :: lexemes second :=
    lexemes_append_blank (by decide) second
  have whole := lexemes_append_blank nested ("AND" ++ " " ++ second)
  rw [behind] at whole
  rw [← whole]
  simp only [String.append_assoc]
  rfl

theorem Conjunctive.and (conjunctive : Conjunctive first) (conjunctive' : Conjunctive second) :
    Conjunctive (first ++ " AND " ++ second) where
  nested := (conjunctive.nested.append (by decide)).append conjunctive'.nested
  undivided := by
    rw [mem_words, lexemes_and conjunctive.nested, List.mem_append, List.mem_cons]
    rintro (isFirst | isAnd | isSecond)
    · exact conjunctive.undivided (mem_words.mpr isFirst)
    · exact absurd isAnd (by decide)
    · exact conjunctive'.undivided (mem_words.mpr isSecond)

/-- Two texts joined by `AND` are as true as both. -/
theorem truth_and (conjunctive : Conjunctive first) (conjunctive' : Conjunctive second) :
    valuation.truth (first ++ " AND " ++ second) =
      valuation.truth first ⊓ valuation.truth second := by
  rw [(conjunctive.and conjunctive').truth_eq, conjunctive.truth_eq, conjunctive'.truth_eq,
    Valuation.conjunction, lexemes_and conjunctive.nested, List.splitOn_append_cons_self,
    List.map_append, conjoin_append]
  rfl

-- With an `OR` in a text it would not do: the `AND` takes the second disjunct alone.
example : (⟨(· == [.word "A"]), not⟩ : Valuation Bool).truth "A OR B AND C" = true := by decide

theorem Conjunctive.intercalate {texts : List String} (nonempty : texts ≠ [])
    (conjunctive : ∀ text ∈ texts, Conjunctive text) :
    Conjunctive (String.intercalate " AND " texts) := by
  induction texts with
  | nil => exact absurd rfl nonempty
  | cons first rest ih =>
      rw [List.forall_mem_cons] at conjunctive
      cases rest with
      | nil =>
          rw [String.intercalate_singleton]
          exact conjunctive.1
      | cons second rest =>
          rw [String.intercalate_cons_cons]
          exact conjunctive.1.and (ih (by simp) conjunctive.2)

/-- Texts joined by `AND` are as true as all of them. -/
theorem truth_intercalate {texts : List String} (nonempty : texts ≠ [])
    (conjunctive : ∀ text ∈ texts, Conjunctive text) :
    valuation.truth (String.intercalate " AND " texts) =
      conjoin (texts.map valuation.truth) := by
  induction texts with
  | nil => exact absurd rfl nonempty
  | cons first rest ih =>
      rw [List.forall_mem_cons] at conjunctive
      cases rest with
      | nil =>
          rw [String.intercalate_singleton]
          exact (inf_top_eq _).symm
      | cons second rest =>
          have ofRest := Conjunctive.intercalate (by simp) conjunctive.2
          rw [String.intercalate_cons_cons, truth_and valuation conjunctive.1 ofRest,
            ih (by simp) conjunctive.2]
          rfl

/-! ### Parentheses -/

/-- Parentheses are as true as what stands in them. -/
def Valuation.ReadsThrough (valuation : Valuation V) : Prop :=
  ∀ inside, valuation.part [.enclosed .round inside] = valuation.truth inside

theorem Valuation.ReadsThrough.truth_parenthesised {valuation : Valuation V}
    (reads : valuation.ReadsThrough) {text : String} (nested : WellNested text) :
    valuation.truth ("(" ++ text ++ ")") = valuation.truth text := by
  rw [← reads text, truth, lexemes_parenthesised nested]
  exact (sup_bot_eq _).trans (inf_top_eq _)

theorem mem_of_mem_splitOn {lexeme divider : Lexeme} {condition part : List Lexeme}
    (isPart : part ∈ condition.splitOn divider) (present : lexeme ∈ part) :
    lexeme ∈ condition := by
  induction condition generalizing part with
  | nil =>
      rw [List.splitOn_nil, List.mem_singleton] at isPart
      rwa [isPart] at present
  | cons first rest ih =>
      rw [List.splitOn_cons_eq_if_modifyHead] at isPart
      split at isPart
      · rcases List.mem_cons.mp isPart with rfl | isPart
        · cases present
        · exact List.mem_cons_of_mem _ (ih isPart present)
      · cases parts : rest.splitOn divider with
        | nil => exact absurd parts (List.splitOn_ne_nil divider rest)
        | cons head others =>
            rw [parts] at ih isPart
            rcases List.mem_cons.mp isPart with rfl | isPart
            · rcases List.mem_cons.mp present with rfl | present
              · exact .head _
              · exact List.mem_cons_of_mem _ (ih (.head _) present)
            · exact List.mem_cons_of_mem _ (ih (List.mem_cons_of_mem _ isPart) present)

/-- The truth value depends on the parts that the condition has. -/
theorem Valuation.truth_congr {valuation valuation' : Valuation V} {condition : String}
    (negation : valuation.negation = valuation'.negation)
    (parts : ∀ part : List Lexeme, (∀ lexeme ∈ part, lexeme ∈ lexemes condition) →
      valuation.part part = valuation'.part part) :
    valuation.truth condition = valuation'.truth condition := by
  have factors : ∀ factor : List Lexeme, (∀ lexeme ∈ factor, lexeme ∈ lexemes condition) →
      valuation.factor factor = valuation'.factor factor := by
    intro factor present
    induction factor with
    | nil => exact parts [] present
    | cons first rest ih =>
        rw [Valuation.factor, Valuation.factor, ih (List.forall_mem_cons.mp present).2, negation,
          parts _ present]
  unfold truth
  congr 1
  refine List.map_congr_left ?_
  intro disjunct isDisjunct
  unfold conjunction
  congr 1
  refine List.map_congr_left ?_
  intro factor isFactor
  refine factors factor ?_
  intro lexeme present
  exact mem_of_mem_splitOn isDisjunct (mem_of_mem_splitOn isFactor present)

/-- Parentheses are valued by what stands in them, all other parts as before. -/
def Valuation.parenthesised (valuation : Valuation V) (value : String → V) : Valuation V where
  part
    | [.enclosed .round inside] => value inside
    | part => valuation.part part
  negation := valuation.negation

theorem Valuation.truth_parenthesised_congr (valuation : Valuation V) {value value' : String → V}
    {condition : String} (same : ∀ inside, inside.length < condition.length →
      value inside = value' inside) :
    (valuation.parenthesised value).truth condition =
      (valuation.parenthesised value').truth condition := by
  have negation : (valuation.parenthesised value).negation =
      (valuation.parenthesised value').negation := rfl
  refine truth_congr negation ?_
  intro part present
  unfold parenthesised
  dsimp only
  split
  · rename_i inside
    exact same inside (length_of_enclosed (present _ (.head _)))
  · rfl

/-- Parentheses are read through, up to the given depth. -/
def Valuation.through (valuation : Valuation V) : Nat → Valuation V
  | 0 => valuation.parenthesised fun _ => ⊥
  | depth + 1 => valuation.parenthesised (valuation.through depth).truth

/-- Parentheses are read through, however deep they are. -/
def Valuation.throughAll (valuation : Valuation V) : Valuation V :=
  valuation.parenthesised fun inside => (valuation.through inside.length).truth inside

/-- A text has no deeper parentheses than it has characters. -/
theorem Valuation.truth_through (valuation : Valuation V) (depth : Nat) {condition : String}
    (bound : condition.length ≤ depth) :
    (valuation.through depth).truth condition = valuation.throughAll.truth condition := by
  induction depth using Nat.strong_induction_on generalizing condition with
  | _ depth ih =>
      cases depth with
      | zero =>
          apply truth_parenthesised_congr
          intro inside shorter
          omega
      | succ depth =>
          apply truth_parenthesised_congr
          intro inside shorter
          rw [ih depth (by omega) (by omega), ih inside.length (by omega) le_rfl]

/-- Whatever the other parts are worth, parentheses may be read through. -/
theorem Valuation.readsThrough_throughAll (valuation : Valuation V) :
    valuation.throughAll.ReadsThrough := by
  intro inside
  exact valuation.truth_through inside.length le_rfl

end Truth

end TypedQuery.Sql
