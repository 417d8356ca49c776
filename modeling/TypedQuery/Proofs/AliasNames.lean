/-
Module: TypedQuery.Proofs.AliasNames
Purpose: Every alias of a command is the command's prefix followed by a name that the
  query mentions: of a lambda parameter, or of a field of such a parameter's type.
Main exports: Join.sideName?, Aliases.bindSource_of_join, Aliases.bindJoin_eq_ok,
  Aliases.Named, Aliases.bindSource_named, Aliases.bindJoin_named,
  Aliases.ofParam_named, Aliases.ofMember?_named
-/
import TypedQuery.Proofs.Mentions
import TypedQuery.Sql.Aliases

namespace TypedQuery

/-! ### Mentions of the lambdas that give aliases -/

section Mentions

variable {mention : Mention}

theorem Lambda.mentions_of_param {function : Lambda} {param : Param}
    (bound : param ∈ function.params) (mentioned : mention ∈ param.mentions) :
    mention ∈ function.mentions := by
  obtain ⟨params, body⟩ := function
  rw [Lambda.mentions]
  exact List.mem_append_left _ (List.mem_flatMap.mpr ⟨param, bound, mentioned⟩)

theorem Lambda.mentionsOption_of_mem {function : Lambda} {clause : Option Lambda}
    (present : function ∈ clause.toList) (mentioned : mention ∈ function.mentions) :
    mention ∈ Lambda.mentionsOption clause := by
  cases clause with
  | none => simp at present
  | some held =>
      simp only [Option.toList_some, List.mem_singleton] at present
      rw [Lambda.mentionsOption, ← present]
      exact mentioned

theorem Lambda.mentionsAll_of_mem {function : Lambda} : ∀ {functions : List Lambda},
    function ∈ functions → mention ∈ function.mentions → mention ∈ Lambda.mentionsAll functions
  | held :: rest, present, mentioned => by
      rw [Lambda.mentionsAll]
      rcases List.mem_cons.mp present with rfl | present
      · exact List.mem_append_left _ mentioned
      · exact List.mem_append_right _ (mentionsAll_of_mem present mentioned)

theorem Order.mentionsAll_of_mem {order : Order} : ∀ {orders : List Order},
    order ∈ orders → mention ∈ order.key.mentions → mention ∈ Order.mentionsAll orders
  | ⟨key, ascending⟩ :: rest, present, mentioned => by
      rw [Order.mentionsAll]
      rcases List.mem_cons.mp present with rfl | present
      · exact List.mem_append_left _ mentioned
      · exact List.mem_append_right _ (mentionsAll_of_mem present mentioned)

theorem Join.mentionsAll_of_mem {join : Join} : ∀ {joins : List Join},
    join ∈ joins → mention ∈ join.result.mentions → mention ∈ Join.mentionsAll joins
  | ⟨kind, source, outerKey, innerKey, result⟩ :: rest, present, mentioned => by
      rw [Join.mentionsAll]
      rcases List.mem_cons.mp present with rfl | present
      · exact List.mem_append_left _ (List.mem_append_right _ mentioned)
      · exact List.mem_append_right _ (mentionsAll_of_mem present mentioned)

/-- The lambdas over a node's source are among what the node mentions. -/
theorem Select.mentions_of_lambda {node : Select} {function : Lambda}
    (present : function ∈ Sql.Aliases.lambdas node) (mentioned : mention ∈ function.mentions) :
    mention ∈ node.mentions := by
  obtain ⟨source, modelType, filters, having, projection, groupKey, groupElement, joins, orderBy,
    skip, take, distinct, stage⟩ := node
  simp only [Sql.Aliases.lambdas, List.mem_append, List.mem_map] at present
  simp only [Select.mentions, List.mem_append]
  rcases present with (((present | present) | present) | present) | ⟨order, present, rfl⟩
  · simp [Lambda.mentionsOption_of_mem present mentioned]
  · simp [Lambda.mentionsOption_of_mem present mentioned]
  · simp [Lambda.mentionsOption_of_mem present mentioned]
  · simp [Lambda.mentionsAll_of_mem present mentioned]
  · simp [Order.mentionsAll_of_mem present mentioned]

theorem Select.mentions_of_join {node : Select} {join : Join} (present : join ∈ node.joins)
    (mentioned : mention ∈ join.result.mentions) : mention ∈ node.mentions := by
  obtain ⟨source, modelType, filters, having, projection, groupKey, groupElement, joins, orderBy,
    skip, take, distinct, stage⟩ := node
  simp only [Select.mentions, List.mem_append]
  simp [Join.mentionsAll_of_mem present mentioned]

end Mentions

/-- Name of a parameter of the join's result, by side. -/
def Join.sideName? (side : Nat) (join : Join) : Option String :=
  join.result.params[side]?.map (·.name)

namespace Sql.Aliases

variable {permitted : String → Prop} {path : String}

/-- A prefix followed by a permitted name. -/
def IsNamed (permitted : String → Prop) (path table : String) : Prop :=
  ∃ name, permitted name ∧ table = path ++ name

/-- All aliases known so far are the command's prefix followed by permitted names. -/
structure Named (permitted : String → Prop) (path : String) (aliases : Aliases) : Prop where
  path_eq : aliases.path = path
  registered : ∀ entry ∈ aliases.registered, IsNamed permitted path entry.2
  last : ∀ table, aliases.last = some table → IsNamed permitted path table

theorem start_named : Named permitted path (start path) where
  path_eq := rfl
  registered := by simp [start]
  last := by simp [start]

theorem register_named {aliases : Aliases} (known : Named permitted path aliases)
    (member : Option Member) {table : String} (named : IsNamed permitted path table) :
    Named permitted path (aliases.register member table) := by
  cases member with
  | none => exact known
  | some member =>
      refine ⟨known.path_eq, ?_, known.last⟩
      intro entry present
      rcases List.mem_cons.mp present with rfl | present
      · exact named
      · exact known.registered entry present

theorem advance_named {aliases : Aliases} (known : Named permitted path aliases)
    {table : String} (named : IsNamed permitted path table) :
    Named permitted path (aliases.advance table) := by
  refine ⟨known.path_eq, known.registered, ?_⟩
  intro last reached
  obtain ⟨_, -, rfl⟩ := Option.map_eq_some_iff.mp reached
  exact named

/-! ### The search for a name -/

theorem mem_of_mem_firstOfEachType {param : Param} {params : List Param}
    (kept : param ∈ firstOfEachType params) : param ∈ params := by
  have sound : ∀ (params kept : List Param), param ∈ params.foldl (fun kept param =>
      if kept.any (·.ty == param.ty) then kept else kept ++ [param]) kept →
      param ∈ kept ∨ param ∈ params := by
    intro params
    induction params with
    | nil => exact fun _ found => .inl found
    | cons head rest ih =>
        intro kept found
        rcases ih _ found with found | found
        · dsimp only at found
          split at found
          · exact .inl found
          · rcases List.mem_append.mp found with found | found
            · exact .inl found
            · exact .inr (by simp [List.mem_singleton.mp found])
        · exact .inr (List.mem_cons_of_mem _ found)
  simpa using sound params [] kept

/-- A name found one level down is the name of a parameter or of one of the fields of
its type. -/
theorem search_expansionLevels {ty : Ty} {scope : List Param} {name : String}
    (found : search ty expansionLevels scope = some name) :
    ∃ param ∈ scope, name = param.name ∨ ∃ field ∈ param.ty.fields, name = field.name := by
  simp only [expansionLevels, search] at found
  split at found
  · rename_i param hit
    cases found
    exact ⟨param, List.mem_of_find?_eq_some hit, .inl rfl⟩
  · split at found
    · cases found
    · obtain ⟨field, hit, rfl⟩ := Option.map_eq_some_iff.mp found
      have expanded := mem_of_mem_firstOfEachType (List.mem_of_find?_eq_some hit)
      obtain ⟨param, present, listed⟩ := List.mem_flatMap.mp expanded
      obtain ⟨source, isField, rfl⟩ := List.mem_map.mp listed
      exact ⟨param, present, .inr ⟨source, isField, rfl⟩⟩

/-! ### Binding -/

theorem resultParam_eq_ok {join : Join} {side : Nat} {param : Param}
    (found : resultParam join side = .ok param) : join.sideName? side = some param.name := by
  unfold resultParam at found
  split at found
  · rename_i isParam
    cases found
    rw [Join.sideName?, isParam]
    rfl
  · cases found

/-- A join binds the name of its inner side. -/
theorem bindJoin_eq_ok {aliases bound : Aliases} {join : Join} {table : String}
    (binds : aliases.bindJoin join = .ok (table, bound)) :
    ∃ name, join.sideName? 1 = some name ∧ table = aliases.path ++ name ∧
      bound = aliases.register (rowField? join.result 1) table := by
  unfold bindJoin at binds
  cases found : resultParam join 1 with
  | error error =>
      rw [found] at binds
      cases binds
  | ok param =>
      rw [found] at binds
      cases binds
      exact ⟨param.name, resultParam_eq_ok found, rfl, rfl⟩

/-- Aliases before the first join: that of the source is known if a field of the join's result
keeps its rows. -/
def beforeJoin (path : String) (join : Join) (table : String) : Aliases :=
  match rowField? join.result 0 with
  | some member => ⟨path, [(member, table)], some table⟩
  | none => start path

/-- With joins, the source goes by the name of the first join's outer side. -/
theorem bindSource_of_join {node : Select} {join : Join} {rest : List Join}
    {table : Option String} {aliases : Aliases} (joins : node.joins = join :: rest)
    (binds : bindSource path node = .ok (table, aliases)) :
    ∃ name, join.sideName? 0 = some name ∧ table = some (path ++ name) ∧
      aliases = beforeJoin path join (path ++ name) := by
  simp only [bindSource, joins] at binds
  cases found : resultParam join 0 with
  | error error =>
      rw [found] at binds
      cases binds
  | ok param =>
      rw [found] at binds
      refine ⟨param.name, resultParam_eq_ok found, ?_⟩
      unfold beforeJoin
      cases field : rowField? join.result 0 with
      | none =>
          rw [field] at binds
          cases binds
          exact ⟨rfl, rfl⟩
      | some member =>
          rw [field] at binds
          cases binds
          exact ⟨rfl, rfl⟩

theorem path_beforeJoin (path : String) (join : Join) (table : String) :
    (beforeJoin path join table).path = path := by
  unfold beforeJoin
  split <;> rfl

theorem last_beforeJoin (path : String) (join : Join) (table : String) :
    (beforeJoin path join table).last = (rowField? join.result 0).map fun _ => table := by
  unfold beforeJoin
  split <;> simp_all [start]

theorem registered_beforeJoin (path : String) (join : Join) (table : String) :
    (beforeJoin path join table).registered =
      (rowField? join.result 0).toList.map fun member => (member, table) := by
  unfold beforeJoin
  split <;> simp_all [start]

theorem beforeJoin_named {table : String} (named : IsNamed permitted path table) (join : Join) :
    Named permitted path (beforeJoin path join table) where
  path_eq := path_beforeJoin path join table
  registered := by
    rw [registered_beforeJoin]
    simpa using fun _ _ => named
  last := by
    intro last isLast
    rw [last_beforeJoin] at isLast
    obtain ⟨member, -, rfl⟩ := Option.map_eq_some_iff.mp isLast
    exact named

/-- Without joins, the alias of the source is made of what the search finds. -/
theorem bindSource_eq_search {node : Select} (joins : node.joins = []) (path : String) :
    bindSource path node =
      let name := search node.modelType expansionLevels
        (firstOfEachType ((lambdas node).flatMap (·.params)))
      .ok (name.map (path ++ ·), { start path with last := name.map (path ++ ·) }) := by
  simp only [bindSource, joins, List.length_nil, Nat.add_zero]
  cases search node.modelType expansionLevels
    (firstOfEachType ((lambdas node).flatMap (·.params))) <;> rfl

/-- Without joins, the alias of the source is all that is known. -/
theorem bindSource_of_no_joins {node : Select} {table : Option String} {aliases : Aliases}
    (joins : node.joins = []) (binds : bindSource path node = .ok (table, aliases)) :
    aliases = { start path with last := table } := by
  rw [bindSource_eq_search joins] at binds
  cases binds
  rfl

/-- The names of a join's parameters are permitted if what the join's result mentions
is. -/
theorem sideName?_permitted {join : Join} {side : Nat} {name : String}
    (mentions : ∀ mention ∈ join.result.mentions, mention.Permitted permitted)
    (isName : join.sideName? side = some name) : permitted name := by
  obtain ⟨param, isParam, rfl⟩ := Option.map_eq_some_iff.mp isName
  exact mentions (.param param.name)
    (Lambda.mentions_of_param (List.mem_of_getElem? isParam) (by simp [Param.mentions]))

/-- With a join, the first alias is the outer parameter of the first join's result. -/
theorem bindSource_join_named {node : Select} {join : Join} {rest : List Join}
    {table : Option String} {aliases : Aliases} (joins : node.joins = join :: rest)
    (mentions : ∀ mention ∈ join.result.mentions, mention.Permitted permitted)
    (bound : bindSource path node = .ok (table, aliases)) :
    Named permitted path aliases ∧ ∀ name ∈ table, IsNamed permitted path name := by
  obtain ⟨name, isName, rfl, rfl⟩ := bindSource_of_join joins bound
  have named : IsNamed permitted path (path ++ name) :=
    ⟨name, sideName?_permitted mentions isName, rfl⟩
  exact ⟨beforeJoin_named named join, by simpa using named⟩

/-- Without joins, the first alias is found among the node's lambdas, if at all. -/
theorem bindSource_search_named {node : Select} {table : Option String} {aliases : Aliases}
    (joins : node.joins = [])
    (mentions : ∀ function ∈ lambdas node, ∀ mention ∈ function.mentions,
      mention.Permitted permitted)
    (bound : bindSource path node = .ok (table, aliases)) :
    Named permitted path aliases ∧ ∀ name ∈ table, IsNamed permitted path name := by
  rw [bindSource_eq_search joins] at bound
  cases found : search node.modelType expansionLevels
      (firstOfEachType ((lambdas node).flatMap (·.params))) with
  | none =>
      rw [found] at bound
      cases bound
      exact ⟨start_named, by simp⟩
  | some name =>
      rw [found] at bound
      cases bound
      obtain ⟨param, kept, which⟩ := search_expansionLevels found
      obtain ⟨function, present, isParam⟩ := List.mem_flatMap.mp (mem_of_mem_firstOfEachType kept)
      have permits (mention : Mention) (mentioned : mention ∈ param.mentions) :=
        mentions function present mention (Lambda.mentions_of_param isParam mentioned)
      have named : IsNamed permitted path (path ++ name) := by
        refine ⟨name, ?_, rfl⟩
        rcases which with rfl | ⟨field, isField, rfl⟩
        · exact permits (.param param.name) (by simp [Param.mentions])
        · refine permits (.field field.name) ?_
          exact List.mem_cons_of_mem _ (List.mem_map.mpr ⟨field, isField, rfl⟩)
      exact ⟨⟨rfl, start_named.registered, by simpa using named⟩, by simpa using named⟩

/-- The first alias of a node. -/
theorem bindSource_named {node : Select} {table : Option String} {aliases : Aliases}
    (mentions : ∀ mention ∈ node.mentions, mention.Permitted permitted)
    (bound : bindSource path node = .ok (table, aliases)) :
    Named permitted path aliases ∧ ∀ name ∈ table, IsNamed permitted path name := by
  cases joins : node.joins with
  | nil =>
      refine bindSource_search_named joins ?_ bound
      intro function present mention mentioned
      exact mentions mention (Select.mentions_of_lambda present mentioned)
  | cons join rest =>
      refine bindSource_join_named joins ?_ bound
      intro mention mentioned
      exact mentions mention (Select.mentions_of_join (by simp [joins]) mentioned)

/-- The alias of a joined source. -/
theorem bindJoin_named {aliases aliases' : Aliases} {join : Join} {table : String}
    (known : Named permitted path aliases)
    (mentions : ∀ mention ∈ join.result.mentions, mention.Permitted permitted)
    (bound : aliases.bindJoin join = .ok (table, aliases')) :
    Named permitted path aliases' ∧ IsNamed permitted path table := by
  obtain ⟨name, isName, rfl, rfl⟩ := bindJoin_eq_ok bound
  have named : IsNamed permitted path (aliases.path ++ name) :=
    ⟨name, sideName?_permitted mentions isName, by rw [known.path_eq]⟩
  exact ⟨register_named known _ named, named⟩

/-! ### Looking up -/

theorem ofParam_named {aliases : Aliases} (known : Named permitted path aliases) {param : Param}
    (mention : permitted param.name) : IsNamed permitted path (aliases.ofParam param) := by
  unfold ofParam
  split
  · exact known.last _ ‹_›
  · exact ⟨param.name, mention, by rw [Aliases.named, known.path_eq]⟩

theorem ofMember?_named {aliases : Aliases} (known : Named permitted path aliases)
    {member : Member} {table : String} (found : aliases.ofMember? member = some table) :
    IsNamed permitted path table := by
  unfold ofMember? at found
  split at found
  · rename_i hit
    cases found
    exact known.registered _ (List.mem_of_find?_eq_some hit)
  · exact known.last _ found

end Sql.Aliases

end TypedQuery
