/-
Module: TypedQuery.Proofs.JoinChains
Purpose: Columns read through a chain of joins whose results keep the rows of both sides in
  fields. Each result is a field of the next, so the row types of a chain grow strictly and no
  join takes over a field of an earlier one: a column read through the field that keeps the rows
  of a source is a column of that source, in every clause that follows the join.
Main exports: RowJoin, RowJoin.keptRows, RowJoin.ReadsColumn, Select.JoinsInChain,
  Select.JoinsInChain.ofMember?_aliasesAt, Select.JoinsInChain.column_of_joined_row
-/
import Mathlib.Data.List.Chain
import Mathlib.Data.List.Nodup
import TypedQuery.Proofs.BuilderCalls
import TypedQuery.Proofs.ClauseScopes

namespace TypedQuery

open Sql Sql.Compile

/-! ### Rows as records -/

/-- A member is found by its key if no other one has it. -/
theorem find?_of_nodup_keys {α β : Type} [DecidableEq β] {key : α → β} {items : List α} {item : α}
    (distinct : (items.map key).Nodup) (present : item ∈ items) :
    items.find? (key · == key item) = some item := by
  induction items with
  | nil => cases present
  | cons first rest ih =>
      rw [List.map_cons, List.nodup_cons] at distinct
      rcases List.mem_cons.mp present with rfl | inRest
      · simp
      · have differ : key first ≠ key item := by
          intro same
          exact distinct.1 (List.mem_map.mpr ⟨item, inRest, same.symm⟩)
        rw [List.find?_cons_of_neg (by simpa using differ)]
        exact ih distinct.2 inRest

namespace Expr

variable {fields : List (String × Expr)} {name : String} {value : Expr}

/-- A field of a row, with the type of its value. -/
def typedField (field : String × Expr) : Field := ⟨field.1, field.2.ty⟩

theorem ty_record (fields : List (String × Expr)) :
    (record fields).ty = .model (.record (fields.map typedField)) := rfl

/-- A field of a row has the type of its value. -/
theorem fieldType_record (distinct : (fields.map Prod.fst).Nodup)
    (present : (name, value) ∈ fields) : (record fields).ty.fieldType name = value.ty := by
  have distinctNames : ((fields.map typedField).map Field.name).Nodup := by
    rw [List.map_map]
    exact distinct
  have inFields : typedField (name, value) ∈ fields.map typedField := List.mem_map_of_mem present
  have found : (record fields).ty.fields.find? (·.name == name) =
      some (typedField (name, value)) := by
    rw [ty_record]
    exact find?_of_nodup_keys distinctNames inFields
  rw [Ty.fieldType, found]
  rfl

/-- A row is larger than what stands in its fields. -/
theorem sizeOf_lt_record (present : (name, value) ∈ fields) :
    sizeOf value.ty < sizeOf (record fields).ty := by
  have inFields : typedField (name, value) ∈ fields.map typedField := List.mem_map_of_mem present
  have smaller := List.sizeOf_lt_of_mem inFields
  rw [ty_record]
  simp only [Model.record, Ty.model.sizeOf_spec, Model.mk.sizeOf_spec, typedField,
    Field.mk.sizeOf_spec] at smaller ⊢
  omega

/-- Read fields one after the other. -/
def fieldPath (start : Expr) (names : List String) : Expr := names.foldl field start

end Expr

/-! ### Joins that keep rows -/

/-- A join whose result is a row in which one field keeps the rows so far and another one the
joined rows, beside whatever else. -/
structure RowJoin where
  kind : JoinKind
  source : Query
  outerKey : Lambda
  innerKey : Lambda
  /-- Stands for the rows so far. -/
  outer : Param
  /-- Stands for the joined rows. -/
  inner : Param
  fields : List (String × Expr)
  outerField : String
  innerField : String
  named_apart : outer.name ≠ inner.name
  distinct : (fields.map Prod.fst).Nodup
  keeps_outer : ∀ name, (name, .parameter outer) ∈ fields ↔ name = outerField
  keeps_inner : ∀ name, (name, .parameter inner) ∈ fields ↔ name = innerField
  outer_model : outer.ty.kind = .model
  inner_model : inner.ty.kind = .model

namespace RowJoin

/-- The rows that the join leads to. -/
def rowType (join : RowJoin) : Ty := (Expr.record join.fields).ty

/-- The join, with its result as a lambda. -/
def toJoin (join : RowJoin) : Join where
  kind := join.kind
  source := join.source
  outerKey := join.outerKey
  innerKey := join.innerKey
  result := ⟨[join.outer, join.inner], .record join.fields⟩

/-- The field that keeps the rows so far, with the parameter that stands for them. -/
def outerRow (join : RowJoin) : Member × Param := (⟨join.rowType, join.outerField⟩, join.outer)

/-- The field that keeps the joined rows, with the parameter that stands for them. -/
def innerRow (join : RowJoin) : Member × Param := (⟨join.rowType, join.innerField⟩, join.inner)

/-- Fields that keep the rows of one source: the outer one of the first join, and the inner one
of every join. The other outer fields keep rows of several sources. -/
def keptRows : List RowJoin → List (Member × Param)
  | [] => []
  | first :: rest => first.outerRow :: (first :: rest).map innerRow

/-- A field that keeps rows, with the alias that the name of the parameter gives. -/
def entry (path : String) (row : Member × Param) : Member × String := (row.1, path ++ row.2.name)

/-- Every join starts from the rows that the one before leads to. -/
def Linked (joins : List RowJoin) : Prop :=
  joins.IsChain fun before after => after.outer.ty = before.rowType

/-- The expression reads a column of the rows that the parameter stands for, through the field
that keeps them in the result of a join. -/
def ReadsColumn (joins : List RowJoin) (read : Expr) (param : Param) (column : String) : Prop :=
  ∃ (member : Member) (base : Expr), (member, param) ∈ keptRows joins ∧ base.ty = member.owner ∧
    read = (base.field member.name).field column

theorem outerField_mem (join : RowJoin) : (join.outerField, .parameter join.outer) ∈ join.fields :=
  (join.keeps_outer _).mpr rfl

theorem innerField_mem (join : RowJoin) : (join.innerField, .parameter join.inner) ∈ join.fields :=
  (join.keeps_inner _).mpr rfl

theorem outer_ne_inner (join : RowJoin) : join.outer ≠ join.inner := by
  intro same
  exact join.named_apart (congrArg Param.name same)

theorem outerField_ne_innerField (join : RowJoin) : join.outerField ≠ join.innerField := by
  intro same
  have sameField := List.inj_on_of_nodup_map join.distinct join.outerField_mem join.innerField_mem
    same
  injection sameField with _ sameValue
  injection sameValue with sameParam
  exact join.outer_ne_inner sameParam

/-- The rows that a join leads to are larger than those that it starts from. -/
theorem sizeOf_outer_lt (join : RowJoin) : sizeOf join.outer.ty < sizeOf join.rowType :=
  Expr.sizeOf_lt_record join.outerField_mem

theorem Linked.take {joins : List RowJoin} (linked : Linked joins) (count : Nat) :
    Linked (joins.take count) :=
  List.IsChain.take linked count

/-- The rows grow strictly along a chain. -/
theorem Linked.pairwise_lt {joins : List RowJoin} (linked : Linked joins) :
    joins.Pairwise fun before after => sizeOf before.rowType < sizeOf after.rowType := by
  have grow : (joins.map fun join => sizeOf join.rowType).IsChain (· < ·) := by
    rw [List.isChain_map]
    apply linked.imp
    intro before after same
    rw [← same]
    exact after.sizeOf_outer_lt
  exact List.pairwise_map.mp (List.isChain_iff_pairwise.mp grow)

/-- No field keeps the rows of two sources. -/
theorem Linked.keptRows_nodup {joins : List RowJoin} (linked : Linked joins) :
    ((keptRows joins).map Prod.fst).Nodup := by
  cases joins with
  | nil => exact .nil
  | cons first rest =>
      have grow := linked.pairwise_lt
      have apart {before after : RowJoin} {name name' : String}
          (smaller : sizeOf before.rowType < sizeOf after.rowType) :
          (⟨before.rowType, name⟩ : Member) ≠ ⟨after.rowType, name'⟩ := by
        intro same
        rw [(Member.mk.inj same).1] at smaller
        exact lt_irrefl _ smaller
      rw [keptRows, List.map_cons, List.map_map, List.nodup_cons]
      -- Fields of one join differ by name, those of different joins by the size of the rows.
      constructor
      · intro present
        obtain ⟨join, inChain, same⟩ := List.mem_map.mp present
        rcases List.mem_cons.mp inChain with rfl | inRest
        · exact join.outerField_ne_innerField (Member.mk.inj same).2.symm
        · exact apart (List.rel_of_pairwise_cons grow inRest) same.symm
      · exact List.pairwise_map.mpr (grow.imp apart)

end RowJoin

/-! ### Aliases -/

namespace Sql.Aliases

theorem isParam_iff {param : Param} {value : Expr} :
    isParam param value = true ↔ value = .parameter param := by
  cases value with
  | parameter other => simp [isParam]
  | _ => simp [isParam]

/-- The first value that is the parameter stands in the field that keeps it. -/
theorem getElem?_position {fields : List (String × Expr)} {param : Param} {name : String}
    (present : (name, .parameter param) ∈ fields)
    (only : ∀ field, (field, .parameter param) ∈ fields → field = name) :
    (fields.map Prod.fst)[((fields.map Prod.snd).takeWhile
      (fun value => !isParam param value)).length]? = some name := by
  induction fields with
  | nil => cases present
  | cons field rest ih =>
      obtain ⟨label, value⟩ := field
      by_cases isKept : value = .parameter param
      · have same : label = name := only label (by simp [isKept])
        simp [isParam_iff.mpr isKept, same]
      · have inRest : (name, .parameter param) ∈ rest := by
          rcases List.mem_cons.mp present with same | inRest
          · exact absurd (Prod.mk.inj same).2.symm isKept
          · exact inRest
        have other : isParam param value = false := by
          rw [← Bool.not_eq_true, isParam_iff]
          exact isKept
        have found := ih inRest fun field inRest => only field (List.mem_cons_of_mem _ inRest)
        simpa [other] using found

/-- The field found for a side is the one that keeps its parameter. -/
theorem rowField?_record {params : List Param} {fields : List (String × Expr)} {side : Nat}
    {param : Param} {name : String} (isSide : params[side]? = some param)
    (keeps : ∀ field, (field, .parameter param) ∈ fields ↔ field = name) :
    rowField? ⟨params, .record fields⟩ side = some ⟨(Expr.record fields).ty, name⟩ := by
  have found := getElem?_position ((keeps name).mpr rfl) fun field => (keeps field).mp
  simp only [rowField?, isSide, Expr.record]
  rw [found]
  rfl

theorem bindJoin_toJoin (aliases : Aliases) (join : RowJoin) :
    aliases.bindJoin join.toJoin = .ok (aliases.path ++ join.inner.name,
      aliases.register (some join.innerRow.1) (aliases.path ++ join.inner.name)) := by
  have field : rowField? join.toJoin.result 1 = some join.innerRow.1 :=
    rowField?_record rfl join.keeps_inner
  rw [bindJoin, field]
  rfl

/-- Aliases of a node whose first join keeps rows. -/
theorem bindSource_toJoin {node : Select} {first : RowJoin} {rest : List Join}
    (joins : node.joins = first.toJoin :: rest) (path : String) :
    bindSource path node = .ok (some (path ++ first.outer.name),
      ⟨path, [(first.outerRow.1, path ++ first.outer.name)], some (path ++ first.outer.name)⟩) := by
  have field : rowField? first.toJoin.result 0 = some first.outerRow.1 :=
    rowField?_record rfl first.keeps_outer
  rw [bindSource, joins]
  simp only [field]
  rfl

/-- Joins that keep rows find their aliases, and register the fields that keep the joined rows,
the one under way included. -/
theorem along_toJoin (aliases : Aliases) (joins : List RowJoin) (count : Nat) :
    ∃ result, aliases.along (joins.map RowJoin.toJoin) count = .ok result ∧
      result.registered =
        (((joins.take (count + 1)).map RowJoin.innerRow).map
          (RowJoin.entry aliases.path)).reverse ++ aliases.registered := by
  induction joins generalizing aliases count with
  | nil => exact ⟨aliases, rfl, by simp⟩
  | cons first rest ih =>
      rw [List.map_cons, along, bindJoin_toJoin]
      cases count with
      | zero => exact ⟨_, rfl, rfl⟩
      | succ count =>
          obtain ⟨result, done, registered⟩ := ih (advance (register aliases
            (some first.innerRow.1) (aliases.path ++ first.inner.name))
            (aliases.path ++ first.inner.name)) count
          refine ⟨result, done, ?_⟩
          rw [registered]
          simp [register, advance, RowJoin.entry, RowJoin.innerRow]

end Sql.Aliases

namespace RowJoin

theorem mem_keptRows_append {joins : List RowJoin} {row : Member × Param}
    (present : row ∈ keptRows joins) (others : List RowJoin) :
    row ∈ keptRows (joins ++ others) := by
  cases joins with
  | nil => cases present
  | cons first rest =>
      simp only [keptRows, List.cons_append, List.map_cons, List.map_append, List.mem_cons,
        List.mem_append] at present ⊢
      tauto

end RowJoin

/-- The joins of the node are a chain of joins that keep rows, of at least one. -/
structure Select.JoinsInChain (node : Select) (joins : List RowJoin) : Prop where
  nonempty : joins ≠ []
  linked : RowJoin.Linked joins
  joins_eq : node.joins = joins.map RowJoin.toJoin

namespace Select.JoinsInChain

variable {node : Select} {joins : List RowJoin}

/-- At every point of the node, the fields that keep rows of a source are those of the joins so
far. -/
theorem registered_aliasesAt (chain : node.JoinsInChain joins) (path : String) (count : Nat) :
    ∃ aliases, node.aliasesAt path count = .ok aliases ∧
      aliases.registered =
        ((RowJoin.keptRows (joins.take (count + 1))).map (RowJoin.entry path)).reverse := by
  obtain ⟨first, rest, rfl⟩ := List.exists_cons_of_ne_nil chain.nonempty
  obtain ⟨aliases, done, registered⟩ := Aliases.along_toJoin
    ⟨path, [(first.outerRow.1, path ++ first.outer.name)], some (path ++ first.outer.name)⟩
    (first :: rest) count
  refine ⟨aliases, ?_, ?_⟩
  · rw [aliasesAt, Aliases.bindSource_toJoin chain.joins_eq, chain.joins_eq]
    exact done
  · rw [registered, List.take_succ_cons, RowJoin.keptRows, List.map_cons (l := List.map _ _),
      List.reverse_cons]
    rfl

/-- No later field takes over: what keeps the rows of a source leads to its alias. -/
theorem ofMember?_aliasesAt (chain : node.JoinsInChain joins) (path : String) (count : Nat) :
    ∃ aliases, node.aliasesAt path count = .ok aliases ∧
      ∀ member param, (member, param) ∈ RowJoin.keptRows (joins.take count) →
        aliases.ofMember? member = some (path ++ param.name) := by
  obtain ⟨aliases, isAt, registered⟩ := chain.registered_aliasesAt path count
  refine ⟨aliases, isAt, ?_⟩
  intro member param present
  have distinct : (aliases.registered.map Prod.fst).Nodup := by
    rw [registered, List.map_reverse, List.nodup_reverse, List.map_map]
    exact (chain.linked.take (count + 1)).keptRows_nodup
  have isRegistered : (member, path ++ param.name) ∈ aliases.registered := by
    rw [registered, List.mem_reverse, List.mem_map]
    refine ⟨(member, param), ?_, rfl⟩
    rw [List.take_add_one]
    exact RowJoin.mem_keptRows_append present _
  rw [Aliases.ofMember?, find?_of_nodup_keys distinct isRegistered]

end Select.JoinsInChain

/-! ### Columns -/

theorem Sql.Term.text_column (table name : String) :
    (Term.column table name).text = "[" ++ table ++ "].[" ++ name ++ "]" := by
  have between : "].[" = "]" ++ "." ++ "[" := rfl
  change bracketed table ++ "." ++ bracketed name = _
  rw [between]
  simp only [bracketed, String.append_assoc]

theorem Sql.propertyTemplate?_model (name : String) : propertyTemplate? .model name = none := by
  simp [propertyTemplate?, properties]

/-- A member that a row type declares is a column. -/
theorem Expr.memberForm_of_row (scope : Scope) {target : Expr} {name : Member} (ty : Ty)
    (isRow : name.owner.kind = .model)
    (notClosure : ∀ captures ty, target ≠ .closure captures ty) :
    Expr.memberForm scope (some target) name ty = .column := by
  have isNoGroup : name.owner.isGroup = false := by
    cases owner : name.owner with
    | group key element => simp [owner, Ty.kind] at isRow
    | _ => rfl
  have untimed : name.owner ≠ .timeSpan := by
    intro timed
    rw [timed] at isRow
    cases isRow
  rw [Expr.memberForm_of_value scope _ isNoGroup untimed notClosure]
  simp only [isRow, propertyTemplate?_model]

/-- A member of a row is a column. -/
theorem Expr.compile_rowMember (scope : Scope) {row : Expr} (isRow : row.ty.kind = .model)
    (notClosure : ∀ captures ty, row ≠ .closure captures ty) (column : String)
    (condition : Bool) :
    (row.field column).compile scope condition =
      memberColumn scope condition (some row) ⟨row.ty, column⟩ (row.ty.fieldType column) := by
  rw [Expr.field, Expr.compile_member, Expr.memberForm_of_row scope _ isRow notClosure]
  rfl

/-- A column of a parameter, where no condition is wanted, is a column of what the parameter
stands for. -/
theorem Expr.compile_paramColumn (scope : Scope) {param : Param} (isRow : param.ty.kind = .model)
    (column : String) (progress : Progress) :
    ((Expr.parameter param).field column).compile scope false progress =
      .ok (.column (scope.aliases.ofParam param)
        (scope.resolver.columnName ⟨param.ty, column⟩), progress) := by
  have isRowExpr : (Expr.parameter param).ty.kind = .model := isRow
  rw [Expr.compile_rowMember scope isRowExpr (by simp)]
  rfl

/-- A column of rows that a field keeps has the alias of those rows, conditions included. -/
theorem Expr.compile_keptColumn {scope : Scope} {base : Expr} {name table : String}
    (isRegistered : scope.aliases.ofMember? ⟨base.ty, name⟩ = some table)
    (isRow : (base.field name).ty.kind = .model) (column : String) (condition : Bool)
    (progress : Progress) :
    ((base.field name).field column).compile scope condition progress =
      .ok (.column table (scope.resolver.columnName ⟨(base.field name).ty, column⟩), progress) := by
  rw [Expr.compile_rowMember scope isRow (by simp [Expr.field])]
  simp only [Expr.field, memberColumn, isRegistered]
  rfl

namespace RowJoin

variable {joins : List RowJoin}

/-- A field that keeps the rows of a source has the type of the parameter that stands for them,
a row type. -/
theorem fieldType_of_mem_keptRows {member : Member} {param : Param}
    (present : (member, param) ∈ keptRows joins) :
    member.owner.fieldType member.name = param.ty ∧ param.ty.kind = .model := by
  have ofInner (join : RowJoin) :
      join.rowType.fieldType join.innerField = join.inner.ty ∧ join.inner.ty.kind = .model :=
    ⟨Expr.fieldType_record join.distinct join.innerField_mem, join.inner_model⟩
  cases joins with
  | nil => cases present
  | cons first rest =>
      rcases List.mem_cons.mp present with same | isInner
      · cases same
        exact ⟨Expr.fieldType_record first.distinct first.outerField_mem, first.outer_model⟩
      · obtain ⟨join, -, same⟩ := List.mem_map.mp isInner
        cases same
        exact ofInner join

/-- The way down from the rows of the last join to those before the given joins. -/
def wayDown (joins : List RowJoin) : List String := joins.reverse.map outerField

theorem wayDown_cons (first : RowJoin) (rest : List RowJoin) (row : Expr) :
    row.fieldPath (wayDown (first :: rest)) =
      (row.fieldPath (wayDown rest)).field first.outerField := by
  simp [wayDown, Expr.fieldPath]

/-- The way down leads to the rows that the first join of a chain leads to. -/
theorem ty_wayDown {first : RowJoin} {rest : List RowJoin} (linked : Linked (first :: rest))
    {row : Expr} (isRow : row.ty = (rest.getLast?.getD first).rowType) :
    (row.fieldPath (wayDown rest)).ty = first.rowType := by
  induction rest generalizing first with
  | nil => exact isRow
  | cons next rest ih =>
      have below := ih linked.tail (by rw [isRow, List.getLast?_cons]; rfl)
      calc (row.fieldPath (wayDown (next :: rest))).ty
          = (row.fieldPath (wayDown rest)).ty.fieldType next.outerField := by
            rw [wayDown_cons]
            rfl
        _ = next.outer.ty := by
          rw [below]
          exact Expr.fieldType_record next.distinct next.outerField_mem
        _ = first.rowType := (List.isChain_cons_cons.mp linked).1

/-- Through the way down from the rows of the last join, the columns of all sources are read. -/
theorem readsColumn_wayDown {before after : List RowJoin} {join : RowJoin}
    (linked : Linked (before ++ join :: after)) {row : Expr}
    (isRow : row.ty = (after.getLast?.getD join).rowType) (column : String) :
    ReadsColumn (before ++ join :: after)
        (((row.fieldPath (wayDown after)).field join.innerField).field column) join.inner column ∧
      (before = [] → ReadsColumn (before ++ join :: after)
        (((row.fieldPath (wayDown after)).field join.outerField).field column)
        join.outer column) := by
  have isRowType := ty_wayDown (List.isChain_append.mp linked).2.1 isRow
  constructor
  · refine ⟨join.innerRow.1, _, ?_, isRowType, rfl⟩
    cases before with
    | nil => simp [keptRows, innerRow]
    | cons first rest => simp [keptRows, innerRow]
  · rintro rfl
    exact ⟨join.outerRow.1, _, .head _, isRowType, rfl⟩

/-- Wherever the expression renders a column of a source, the term has the column under the alias
of that source. -/
def ColumnsResolve (resolver : Resolver) (path : String) (joins : List RowJoin) (expr : Expr)
    (term : Term) : Prop :=
  ∀ read param column place, ReadsColumn joins read param column → expr.Renders place read →
    term.partAt? place =
      some (.column (path ++ param.name) (resolver.columnName ⟨param.ty, column⟩))

end RowJoin

/-- At every point of a node with a chain of joins, a column of a source so far has the alias of
that source. -/
theorem Select.JoinsInChain.compile_readsColumn {node : Select} {joins : List RowJoin}
    (chain : node.JoinsInChain joins) {path : String} {count : Nat} {aliases : Aliases}
    (isAt : node.aliasesAt path count = .ok aliases) {read : Expr} {param : Param}
    {column : String} (reads : RowJoin.ReadsColumn (joins.take count) read param column)
    (resolver : Resolver) (groupKey : Option Term) (condition : Bool) (progress : Progress) :
    read.compile ⟨resolver, path, aliases, groupKey⟩ condition progress =
      .ok (.column (path ++ param.name) (resolver.columnName ⟨param.ty, column⟩), progress) := by
  obtain ⟨member, base, present, isOwner, rfl⟩ := reads
  obtain ⟨isType, isRow⟩ := RowJoin.fieldType_of_mem_keptRows present
  have fieldTy : (base.field member.name).ty = param.ty := by
    rw [← isType, ← isOwner]
    rfl
  obtain ⟨found, foundAt, ofMember⟩ := chain.ofMember?_aliasesAt path count
  obtain rfl : found = aliases := Except.ok.inj (foundAt.symm.trans isAt)
  have isRegistered : found.ofMember? ⟨base.ty, member.name⟩ = some (path ++ param.name) := by
    rw [isOwner]
    exact ofMember member param present
  rw [Expr.compile_keptColumn isRegistered (by rw [fieldTy]; exact isRow), fieldTy]

/-! ### A chain of two joins -/

namespace Query

def userRow : Param := ⟨"user", userTable.rowType⟩

def linkRow : Param := ⟨"link", linkTable.rowType⟩

/-- Users with their links; the login stands in a field of its own as well. -/
def userLinks : RowJoin where
  kind := .left
  source := linkTable
  outerKey := ⟨[userRow], (Expr.parameter userRow).field "Id"⟩
  innerKey := ⟨[linkRow], (Expr.parameter linkRow).field "UserId"⟩
  outer := userRow
  inner := linkRow
  fields := [("link", .parameter linkRow), ("login", (Expr.parameter userRow).field "Login"),
    ("user", .parameter userRow)]
  outerField := "user"
  innerField := "link"
  named_apart := by decide
  distinct := by decide
  keeps_outer := by simp [userRow, linkRow, Expr.field]
  keeps_inner := by simp [userRow, linkRow, Expr.field]
  outer_model := rfl
  inner_model := rfl

/-- Roles. -/
def roleTable : Query := .ofTable (.table "Role" [⟨"Id", .int⟩, ⟨"Name", .string⟩])

def pairRow : Param := ⟨"pair", userLinks.rowType⟩

def roleRow : Param := ⟨"role", roleTable.rowType⟩

/-- Users and their links with the roles that the links lead to. -/
def linkRoles : RowJoin where
  kind := .inner
  source := roleTable
  outerKey := ⟨[pairRow], ((Expr.parameter pairRow).field "link").field "RoleId"⟩
  innerKey := ⟨[roleRow], (Expr.parameter roleRow).field "Id"⟩
  outer := pairRow
  inner := roleRow
  fields := [("pair", .parameter pairRow), ("role", .parameter roleRow)]
  outerField := "pair"
  innerField := "role"
  named_apart := by decide
  distinct := by decide
  keeps_outer := by simp [pairRow, roleRow]
  keeps_inner := by simp [pairRow, roleRow]
  outer_model := rfl
  inner_model := rfl

def joinedRow : Param := ⟨"t", linkRoles.rowType⟩

/-- The link leads to role 5. -/
def hasRole : Lambda :=
  ⟨[joinedRow], ((((Expr.parameter joinedRow).field "pair").field "link").field "RoleId").equals
    (.literal (.int 5))⟩

/-- From users to the logins of those with role 5. -/
def loginsOfRole : List Call :=
  [.add (.join .left linkTable userLinks.outerKey userLinks.innerKey userLinks.toJoin.result),
    .add (.join .inner roleTable linkRoles.outerKey linkRoles.innerKey linkRoles.toJoin.result),
    .add (.filter hasRole),
    .add (.project ⟨[joinedRow],
      (((Expr.parameter joinedRow).field "pair").field "user").field "Login"⟩)]

end Query

/-! ### All clauses -/

/-- A column read through the field that keeps the rows of a source, in the result of any join of
a chain, is a column of that source: its alias is the name of the parameter that stands for its
rows. This holds at every point after the join, and so in all later clauses of the node, wherever
they render the column. From the rows of the last join so far, the outer fields lead down to every
such field. -/
theorem Select.JoinsInChain.column_of_joined_row {node : Select} {joins : List RowJoin}
    (chain : node.JoinsInChain joins) (resolver : Resolver) (path : String) :
    (∀ count, ∃ aliases, node.aliasesAt path count = .ok aliases ∧
      ∀ read param column, RowJoin.ReadsColumn (joins.take count) read param column →
        ∀ groupKey condition progress, ∃ term,
          read.compile ⟨resolver, path, aliases, groupKey⟩ condition progress =
              .ok (term, progress) ∧
            term.text = "[" ++ (path ++ param.name) ++ "].[" ++
              resolver.columnName ⟨param.ty, column⟩ ++ "]") ∧
    (∀ nested nested' body parameters,
      node.compile resolver path nested = .ok ((body, parameters), nested') →
        node.Clausewise (fun count => RowJoin.ColumnsResolve resolver path (joins.take count))
          body) ∧
    ∀ count before join after (row : Expr) column, joins.take count = before ++ join :: after →
      row.ty = (after.getLast?.getD join).rowType →
        RowJoin.ReadsColumn (joins.take count)
          (((row.fieldPath (RowJoin.wayDown after)).field join.innerField).field column)
          join.inner column ∧
        (before = [] → RowJoin.ReadsColumn (joins.take count)
          (((row.fieldPath (RowJoin.wayDown after)).field join.outerField).field column)
          join.outer column) := by
  refine ⟨?_, ?_, ?_⟩
  · intro count
    obtain ⟨aliases, isAt, -⟩ := chain.ofMember?_aliasesAt path count
    refine ⟨aliases, isAt, ?_⟩
    intro read param column reads groupKey condition progress
    exact ⟨_, chain.compile_readsColumn isAt reads resolver groupKey condition progress,
      Term.text_column _ _⟩
  · intro nested nested' body parameters done
    apply (compile_clausewise done).mono
    rintro count expr term ⟨aliases, groupKey, isAt, gives⟩ read param column place reads placed
    obtain ⟨found, foundAt, condition, progress, progress', compiled⟩ := gives.rendered placed
    rw [chain.compile_readsColumn isAt reads] at compiled
    cases compiled
    exact foundAt
  · intro count before join after row column isTake isRow
    rw [isTake]
    apply RowJoin.readsColumn_wayDown _ isRow
    rw [← isTake]
    exact chain.linked.take count

/-- In the filter, the column of the links is read through the result of the second join. -/
theorem Query.loginsOfRole_columns :
    ∃ node body parameters nested predicate,
      run loginsOfRole userTable = .ok (.select node) ∧
      node.JoinsInChain [userLinks, linkRoles] ∧
      node.compile .identity "" 0 = .ok ((body, parameters), nested) ∧
      body.filters = [predicate] ∧
      predicate.partAt? [0] = some (.column "link" "RoleId") := by
  obtain ⟨node, body, parameters, nested, ran, isChain, isFilter, compiled⟩ :
      ∃ node body parameters nested, run loginsOfRole userTable = .ok (.select node) ∧
        node.joins = [userLinks, linkRoles].map RowJoin.toJoin ∧ node.filters = [hasRole] ∧
        node.compile .identity "" 0 = .ok ((body, parameters), nested) :=
    ⟨_, _, _, _, rfl, rfl, rfl, rfl⟩
  have chain : node.JoinsInChain [userLinks, linkRoles] :=
    ⟨by simp, .cons_cons rfl (.singleton _), isChain⟩
  obtain ⟨-, clauses, ways⟩ := Select.JoinsInChain.column_of_joined_row chain .identity ""
  have reads := (ways 2 [] userLinks [linkRoles] (.parameter joinedRow) "RoleId" rfl rfl).1
  have filters := (clauses 0 nested body parameters compiled).filters
  rw [isFilter, List.forall₂_cons_left_iff] at filters
  obtain ⟨predicate, rest, ⟨inner, rfl, resolves⟩, noRest, isFilters⟩ := filters
  rw [List.forall₂_nil_left_iff] at noRest
  rw [noRest] at isFilters
  refine ⟨node, body, parameters, nested, _, ran, chain, compiled, isFilters, ?_⟩
  rw [isChain] at resolves
  exact resolves _ _ _ _ reads (.left (.whole _))

end TypedQuery
