/-
Module: TypedQuery.Proofs.GatheredClauses
Purpose: Calls on one open node. As long as no call projects and at most one groups, they all go to
  the node of the table, which gathers them kind by kind: predicates as conditions on rows before
  the grouping and as conditions on groups behind it, sort keys and joins in call order, row counts
  by the last call. How calls of different kinds are interleaved leaves no trace.
Main exports: Query.Clause.LeavesOpen, Query.gathered, Query.gathered_concat,
  Query.run_eq_ok_iff_gathered, Query.AlikeByKind, Query.run_gathers
-/
import Mathlib.Data.List.Induction
import Mathlib.Data.List.TakeWhile
import TypedQuery.Proofs.BuilderCalls
import TypedQuery.Sql.Compile

namespace TypedQuery.Query

/-! ### What a call contributes -/

namespace Clause

/-- Kinds of calls. Ascending and descending sort keys are of one kind, and so are inner, left and
right joins, and groupings with and without an element. -/
inductive Family
  | predicate
  | projection
  | order
  | take
  | skip
  | distinct
  | join
  | grouping
deriving DecidableEq

def family : Clause → Family
  | .filter _ => .predicate
  | .project _ => .projection
  | .sortBy _ _ => .order
  | .keep _ => .take
  | .leaveOut _ => .skip
  | .distinct => .distinct
  | .join _ _ _ _ _ => .join
  | .groupBy _ | .groupByElement _ _ => .grouping

/-- The call groups the rows. -/
def groups (clause : Clause) : Bool := clause.family == .grouping

/-- The call leaves a node open. -/
def LeavesOpen (clause : Clause) : Prop := clause.family ≠ .projection

instance (clause : Clause) : Decidable clause.LeavesOpen := inferInstanceAs (Decidable (_ ≠ _))

def predicate? : Clause → Option Lambda
  | .filter predicate => some predicate
  | _ => none

def order? : Clause → Option Order
  | .sortBy selector ascending => some ⟨selector, ascending⟩
  | _ => none

def joined? : Clause → Option Join
  | .join kind inner outerKey innerKey result => some ⟨kind, inner, outerKey, innerKey, result⟩
  | _ => none

def kept? : Clause → Option Nat
  | .keep count => some count.toNat
  | _ => none

def leftOut? : Clause → Option Nat
  | .leaveOut count => some count.toNat
  | _ => none

/-- The key, and the element if there is one. -/
def grouping? : Clause → Option (Lambda × Option Lambda)
  | .groupBy key => some (key, none)
  | .groupByElement key element => some (key, some element)
  | _ => none

theorem isSome_grouping? (clause : Clause) : clause.grouping?.isSome = clause.groups := by
  cases clause <;> rfl

end Clause

open Clause

/-! ### The node that gathers the calls -/

/-- Predicates in front of the grouping, or all without one. -/
def rowPredicates (clauses : List Clause) : List Lambda :=
  (clauses.takeWhile (! ·.groups)).filterMap predicate?

/-- Predicates behind the grouping. -/
def groupPredicates (clauses : List Clause) : List Lambda :=
  (clauses.dropWhile (! ·.groups)).filterMap predicate?

/-- The open node over a source with what the calls contribute, kind by kind. -/
def gathered (source : Query) (clauses : List Clause) : Select :=
  { Select.over source with
    filters := rowPredicates clauses
    having := groupPredicates clauses
    groupKey := (clauses.findSome? grouping?).map Prod.fst
    groupElement := (clauses.findSome? grouping?).bind Prod.snd
    joins := clauses.filterMap joined?
    orderBy := clauses.filterMap order?
    skip := (clauses.filterMap leftOut?).getLast?.getD 0
    take := (clauses.filterMap kept?).getLast?.getD 0
    distinct := clauses.any (·.family == .distinct) }

/-! ### One more call -/

variable {clauses : List Clause} {clause : Clause}

theorem rowPredicates_concat (clauses : List Clause) (clause : Clause) :
    rowPredicates (clauses ++ [clause]) = rowPredicates clauses ++
      if clauses.any groups then [] else clause.predicate?.toList := by
  unfold rowPredicates
  by_cases grouped : clauses.any groups = true
  · have shorter : (clauses.takeWhile (! groups ·)).length ≠ clauses.length := by
      intro same
      have whole := (List.takeWhile_prefix (! groups ·)).eq_of_length same
      have none := List.takeWhile_eq_self_iff.mp whole
      obtain ⟨grouping, present, isGrouping⟩ := List.any_eq_true.mp grouped
      simpa [isGrouping] using none grouping present
    rw [List.takeWhile_append, if_neg shorter, if_pos grouped, List.append_nil]
  · have none : ∀ earlier ∈ clauses, (! groups earlier) = true := by simpa using grouped
    rw [List.takeWhile_append_of_pos none, List.takeWhile_eq_self_iff.mpr none, if_neg grouped,
      List.filterMap_append]
    cases clause <;> rfl

theorem groupPredicates_concat (clauses : List Clause) (clause : Clause) :
    groupPredicates (clauses ++ [clause]) = groupPredicates clauses ++
      if clauses.any groups then clause.predicate?.toList else [] := by
  unfold groupPredicates
  by_cases grouped : clauses.any groups = true
  · have present : (clauses.dropWhile (! groups ·)).isEmpty = false := by
      rw [List.isEmpty_eq_false_iff, Ne, List.dropWhile_eq_nil_iff]
      simp_all
    rw [List.dropWhile_append, present, if_neg (by simp), if_pos grouped, List.filterMap_append]
    cases clause <;> rfl
  · have none : ∀ earlier ∈ clauses, (! groups earlier) = true := by simpa using grouped
    rw [List.dropWhile_append_of_pos none, List.dropWhile_eq_nil_iff.mpr none, if_neg grouped]
    cases clause <;> rfl

/-- The gathering node has a group key as soon as a call groups. -/
theorem isSome_groupKey_gathered (source : Query) (clauses : List Clause) :
    (gathered source clauses).groupKey.isSome = clauses.any groups := by
  rw [gathered, Option.isSome_map, List.isSome_findSome?]
  exact congrArg clauses.any (funext isSome_grouping?)

theorem filterMap_concat {α : Type} (contribution : Clause → Option α) (clauses : List Clause)
    (clause : Clause) : (clauses ++ [clause]).filterMap contribution =
      clauses.filterMap contribution ++ (contribution clause).toList := by
  rw [List.filterMap_append]
  cases given : contribution clause <;> simp [given]

/-- Of row counts, the last one is gathered. -/
theorem getLast?_append_toList (counts : List Nat) (count : Option Nat) :
    (counts ++ count.toList).getLast? = count.or counts.getLast? := by
  rw [List.getLast?_append]
  cases count <;> rfl

/-- As long as no call groups, there is no key to gather. -/
theorem findSome?_grouping (ungrouped : clauses.any groups = false) :
    clauses.findSome? grouping? = none := by
  rw [List.findSome?_eq_none_iff]
  intro clause present
  have noGrouping := List.any_eq_false.mp ungrouped clause present
  rw [← isSome_grouping?] at noGrouping
  simpa using noGrouping

/-- What one more call adds to the gathering node. -/
theorem gathered_concat_eq (source : Query) (clauses : List Clause) (clause : Clause) :
    gathered source (clauses ++ [clause]) =
      let node := gathered source clauses
      let grouping := (clauses.findSome? grouping?).or clause.grouping?
      { node with
        filters := node.filters ++ if clauses.any groups then [] else clause.predicate?.toList
        having := node.having ++ if clauses.any groups then clause.predicate?.toList else []
        groupKey := grouping.map Prod.fst
        groupElement := grouping.bind Prod.snd
        joins := node.joins ++ clause.joined?.toList
        orderBy := node.orderBy ++ clause.order?.toList
        skip := (clause.leftOut?.or (clauses.filterMap leftOut?).getLast?).getD 0
        take := (clause.kept?.or (clauses.filterMap kept?).getLast?).getD 0
        distinct := node.distinct || clause.family == .distinct } := by
  have grouping : (clauses ++ [clause]).findSome? grouping? =
      (clauses.findSome? grouping?).or clause.grouping? := by
    rw [List.findSome?_append]
    cases given : clause.grouping? <;> simp [given]
  simp only [gathered, rowPredicates_concat, groupPredicates_concat, grouping, filterMap_concat,
    getLast?_append_toList, List.any_append, List.any_cons, List.any_nil, Bool.or_false]

/-- The step: what one more call changes is gathered as well. -/
theorem gathered_concat (source : Query) (leavesOpen : clause.LeavesOpen)
    (once : clause.groups = true → clauses.any groups = false) :
    gathered source (clauses ++ [clause]) = clause.change (gathered source clauses) := by
  have isKey := isSome_groupKey_gathered source clauses
  rw [gathered_concat_eq]
  cases clause with
  | filter predicate =>
      simp only [change, isKey, predicate?, grouping?, joined?, order?, leftOut?, kept?, family]
      cases clauses.any groups <;> simp [gathered]
  | project projection => exact absurd rfl leavesOpen
  | groupBy key =>
      have none := findSome?_grouping (once rfl)
      simp [change, none, predicate?, grouping?, joined?, order?, leftOut?, kept?, family, gathered]
  | groupByElement key element =>
      have none := findSome?_grouping (once rfl)
      simp [change, none, predicate?, grouping?, joined?, order?, leftOut?, kept?, family, gathered]
  | _ =>
      simp [change, predicate?, grouping?, joined?, order?, leftOut?, kept?, family, gathered]

/-- The gathering node takes the call. -/
theorem reuses_gathered (source : Query)
    (once : clause.groups = true → clauses.any groups = false) :
    clause.reuses (gathered source clauses) = true := by
  have isKey := isSome_groupKey_gathered source clauses
  have ungrouped (isGrouping : clause.groups = true) :
      (gathered source clauses).isOpenUngrouped = true := by
    rw [once isGrouping] at isKey
    rw [Select.isOpenUngrouped, ← Option.not_isSome, isKey]
    rfl
  cases clause with
  | groupBy key => exact ungrouped rfl
  | groupByElement key element => exact ungrouped rfl
  | _ => rfl

/-! ### Runs -/

/-- Calls that one node takes: none projects, and at most one groups. -/
structure OnOneNode (clauses : List Clause) : Prop where
  leavesOpen : ∀ clause ∈ clauses, clause.LeavesOpen
  grouping : clauses.countP groups ≤ 1

/-- The last of the calls groups only if none before it did. -/
theorem OnOneNode.of_concat (onOne : OnOneNode (clauses ++ [clause])) :
    OnOneNode clauses ∧ clause.LeavesOpen ∧
      (clause.groups = true → clauses.any groups = false) := by
  obtain ⟨leavesOpen, grouping⟩ := onOne
  rw [List.forall_mem_append, List.forall_mem_singleton] at leavesOpen
  rw [List.countP_append, List.countP_singleton] at grouping
  refine ⟨⟨leavesOpen.1, by omega⟩, leavesOpen.2, ?_⟩
  intro isGrouping
  rw [if_pos isGrouping] at grouping
  have none : clauses.countP groups = 0 := by omega
  simpa using none

/-- The run: it succeeds just when all calls are accepted, and ends in the node that gathers
them. -/
theorem run_eq_ok_iff_gathered {source query : Query} (onOne : OnOneNode clauses) :
    run (clauses.map .add) (.select (.over source)) = .ok query ↔
      (∀ clause ∈ clauses, clause.Accepted) ∧ .select (gathered source clauses) = query := by
  -- From the last call back: the node before it has gathered all the others.
  induction clauses using List.reverseRecOn generalizing query with
  | nil => simp [run, gathered, rowPredicates, groupPredicates, Select.over]
  | append_singleton clauses clause ih =>
      obtain ⟨onOne, leavesOpen, once⟩ := onOne.of_concat
      have taken := reuses_gathered source once
      have staged : (Query.select (gathered source clauses)).staged clause.reuses clause.change =
          .select (gathered source (clauses ++ [clause])) := by
        rw [gathered_concat source leavesOpen once, Query.staged, if_pos taken]
      rw [List.map_append, run_append_eq_ok]
      simp only [ih onOne, List.map_cons, List.map_nil, run_singleton_eq_ok, Call.apply,
        Clause.apply_eq_ok, List.forall_mem_append, List.forall_mem_singleton]
      constructor
      · rintro ⟨_, ⟨earlier, rfl⟩, accepted, rfl⟩
        exact ⟨⟨earlier, accepted⟩, staged.symm⟩
      · rintro ⟨⟨earlier, accepted⟩, rfl⟩
        exact ⟨_, ⟨earlier, rfl⟩, accepted, staged⟩

/-! ### Interleavings -/

/-- Two lists with the same calls of each kind in the same order, and with the same predicates in
front of the grouping. -/
structure AlikeByKind (first second : List Clause) : Prop where
  ofFamily : ∀ family : Family,
    first.filter (·.family == family) = second.filter (·.family == family)
  inFront : rowPredicates first = rowPredicates second

/-- What calls of one kind contribute is found among the calls of that kind. -/
theorem filterMap_filter_family {α : Type} (contribution : Clause → Option α) {family : Family}
    (only : ∀ clause, clause.family ≠ family → contribution clause = none)
    (clauses : List Clause) :
    (clauses.filter (·.family == family)).filterMap contribution =
      clauses.filterMap contribution := by
  rw [List.filterMap_filter]
  congr 1
  funext clause
  by_cases ofFamily : clause.family = family
  · simp [ofFamily]
  · simp [ofFamily, only clause ofFamily]

variable {first second : List Clause}

/-- Alike lists contribute alike. -/
theorem AlikeByKind.filterMap_eq {α : Type} (alike : AlikeByKind first second)
    (contribution : Clause → Option α) (family : Family)
    (only : ∀ clause, clause.family ≠ family → contribution clause = none) :
    first.filterMap contribution = second.filterMap contribution := by
  rw [← filterMap_filter_family contribution only first, alike.ofFamily,
    filterMap_filter_family contribution only]

/-- The grouping splits the predicates in two. -/
theorem rowPredicates_append_groupPredicates (clauses : List Clause) :
    rowPredicates clauses ++ groupPredicates clauses = clauses.filterMap predicate? := by
  rw [rowPredicates, groupPredicates, ← List.filterMap_append, List.takeWhile_append_dropWhile]

/-- Lists that are alike kind by kind are gathered in the same node. -/
theorem AlikeByKind.gathered_eq (alike : AlikeByKind first second) (source : Query) :
    gathered source first = gathered source second := by
  have predicates : first.filterMap predicate? = second.filterMap predicate? :=
    alike.filterMap_eq predicate? .predicate
      fun clause => by cases clause <;> simp [family, predicate?]
  have orders : first.filterMap order? = second.filterMap order? :=
    alike.filterMap_eq order? .order fun clause => by cases clause <;> simp [family, order?]
  have joins : first.filterMap joined? = second.filterMap joined? :=
    alike.filterMap_eq joined? .join fun clause => by cases clause <;> simp [family, joined?]
  have kept : first.filterMap kept? = second.filterMap kept? :=
    alike.filterMap_eq kept? .take fun clause => by cases clause <;> simp [family, kept?]
  have leftOut : first.filterMap leftOut? = second.filterMap leftOut? :=
    alike.filterMap_eq leftOut? .skip fun clause => by cases clause <;> simp [family, leftOut?]
  have groupings : first.findSome? grouping? = second.findSome? grouping? := by
    rw [← List.head?_filterMap, ← List.head?_filterMap]
    exact congrArg List.head? (alike.filterMap_eq grouping? .grouping
      fun clause => by cases clause <;> simp [family, grouping?])
  have distincts : first.any (·.family == .distinct) = second.any (·.family == .distinct) := by
    have same := congrArg (List.any · fun _ => true) (alike.ofFamily .distinct)
    simpa only [List.any_filter, Bool.and_true] using same
  have behind : groupPredicates first = groupPredicates second := by
    rw [← rowPredicates_append_groupPredicates, ← rowPredicates_append_groupPredicates,
      alike.inFront] at predicates
    exact List.append_cancel_left predicates
  rw [gathered, alike.inFront, behind, orders, joins, kept, leftOut, groupings, distincts, gathered]

/-- Lists that are alike kind by kind have the same calls. -/
theorem AlikeByKind.mem_iff (alike : AlikeByKind first second) (clause : Clause) :
    clause ∈ first ↔ clause ∈ second := by
  have inFamily (clauses : List Clause) :
      clause ∈ clauses ↔ clause ∈ clauses.filter (·.family == clause.family) := by
    simp
  rw [inFamily first, alike.ofFamily, ← inFamily second]

theorem AlikeByKind.onOneNode (alike : AlikeByKind first second) (onOne : OnOneNode first) :
    OnOneNode second where
  leavesOpen clause present := onOne.leavesOpen clause ((alike.mem_iff clause).mpr present)
  grouping := by
    have groupings := congrArg List.length (alike.ofFamily .grouping)
    rw [← List.countP_eq_length_filter, ← List.countP_eq_length_filter] at groupings
    exact groupings ▸ onOne.grouping

/-- Calls without a projection and with at most one grouping, made on a table, succeed just when
all their arguments are accepted. They end in one open node over the table, with the predicates
before and behind the grouping, the sort keys and the joins in call order, the last row counts, and
the mark of distinct rows. Calls that are alike kind by kind end in the same command. -/
theorem run_gathers {clauses : List Clause} (onOne : OnOneNode clauses) (model : Model) :
    (∀ query : Query, run (clauses.map .add) (.ofTable model) = .ok query ↔
      (∀ clause ∈ clauses, clause.Accepted) ∧
        query = .select (gathered (.table model) clauses)) ∧
    ∀ (others : List Clause) (query : Query), AlikeByKind clauses others →
      run (clauses.map .add) (.ofTable model) = .ok query →
      ∃ otherQuery, run (others.map .add) (.ofTable model) = .ok otherQuery ∧
        ∀ resolver : Resolver, otherQuery.toCommand resolver = query.toCommand resolver := by
  constructor
  · intro query
    rw [eq_comm (a := query)]
    exact run_eq_ok_iff_gathered onOne
  · intro others query alike done
    obtain ⟨accepted, rfl⟩ := (run_eq_ok_iff_gathered onOne).mp done
    refine ⟨.select (gathered (.table model) others), ?_, ?_⟩
    · refine (run_eq_ok_iff_gathered (alike.onOneNode onOne)).mpr ⟨?_, rfl⟩
      intro clause present
      exact accepted clause ((alike.mem_iff clause).mpr present)
    · intro resolver
      rw [alike.gathered_eq]

/-- A row of a user with a link. -/
def linkedUser : Param :=
  ⟨"t", (Expr.record [("user", .parameter ⟨"user", userTable.rowType⟩),
    ("link", .parameter ⟨"link", linkTable.rowType⟩)]).ty⟩

def linkedColumn (source column : String) : Expr :=
  ((Expr.parameter linkedUser).field source).field column

def linksOfUsers : Clause :=
  let user : Param := ⟨"user", userTable.rowType⟩
  let link : Param := ⟨"link", linkTable.rowType⟩
  .join .left linkTable ⟨[user], (Expr.parameter user).field "Id"⟩
    ⟨[link], (Expr.parameter link).field "UserId"⟩
    ⟨[user, link], .record [("user", .parameter user), ("link", .parameter link)]⟩

def namedUsers : Clause :=
  .filter ⟨[linkedUser], (linkedColumn "user" "Login").notEquals .null⟩

def byRole : Clause := .groupBy ⟨[linkedUser], linkedColumn "link" "RoleId"⟩

/-- The roles with more than one row. -/
def sharedRoles : Clause :=
  let roles : Param := ⟨"g", .group .int linkedUser.ty⟩
  .filter ⟨[roles], (Expr.parameter roles).count.greaterThan (.literal (.int 1))⟩

def latestLinks : Clause := .sortBy ⟨[linkedUser], linkedColumn "link" "UserId"⟩ false

def roleSample : List Clause :=
  [linksOfUsers, namedUsers, .keep 5, latestLinks, byRole, .distinct, sharedRoles, .keep 3]

/-- The same calls of each kind, with other neighbours. -/
def roleSampleReordered : List Clause :=
  [.distinct, .keep 5, linksOfUsers, .keep 3, latestLinks, namedUsers, byRole, sharedRoles]

/-- The two runs end in the same command. -/
theorem roleSample_gathers :
    OnOneNode roleSample ∧ AlikeByKind roleSample roleSampleReordered ∧
      ∃ query otherQuery command,
        run (roleSample.map .add) userTable = .ok query ∧
        run (roleSampleReordered.map .add) userTable = .ok otherQuery ∧
        query.toCommand .identity = .ok command ∧
        otherQuery.toCommand .identity = .ok command := by
  have onOne : OnOneNode roleSample := ⟨by decide, by decide⟩
  have alike : AlikeByKind roleSample roleSampleReordered :=
    ⟨fun family => by cases family <;> rfl, rfl⟩
  have accepted : ∀ clause ∈ roleSample, clause.Accepted := by decide
  obtain ⟨done, reordered⟩ := run_gathers onOne (.table "User" [⟨"Id", .int⟩, ⟨"Login", .string⟩])
  have ran := (done _).mpr ⟨accepted, rfl⟩
  obtain ⟨otherQuery, otherRan, same⟩ := reordered _ _ alike ran
  obtain ⟨command, compiled⟩ : ∃ command,
      (Query.select (gathered userTable roleSample)).toCommand .identity = .ok command := ⟨_, rfl⟩
  exact ⟨onOne, alike, _, otherQuery, command, ran, otherRan, compiled, (same _).trans compiled⟩

end TypedQuery.Query
