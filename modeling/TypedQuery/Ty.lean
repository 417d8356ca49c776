/-
Module: TypedQuery.Ty
Purpose: Static types of expressions, and the models they are made of.
Main exports: Scalar, Ty, Model, Field, Kind, Ty.kind, Ty.text, Ty.fieldType
-/

namespace TypedQuery

/-- Types without parts. -/
inductive Scalar
  | bool
  | int
  | long
  | float
  | double
  | decimal
  | string
  | dateTime
  /-- A length of time: the difference of two points in time. -/
  | timeSpan
  /-- A generator of random numbers; only its methods have an SQL form. -/
  | random
  /-- An environment of captured values. -/
  | closure
  /-- Anything at all: the type of null and of unknown members. -/
  | object
deriving Repr, DecidableEq, Inhabited

mutual

/-- Static type of an expression. -/
inductive Ty
  | scalar (kind : Scalar)
  /-- A row of a table or of a projection. -/
  | model (row : Model)
  /-- A group of rows that share a key. -/
  | group (key element : Ty)
  /-- A query with rows of the given type. -/
  | query (row : Ty)

/-- A named row type: a mapped table, or a record made by a projection or a join. -/
structure Model where
  name : String
  fields : List Field
  isRecord : Bool

/-- A named, typed member of a model. -/
structure Field where
  name : String
  ty : Ty

end

instance : Inhabited Ty := ⟨.scalar .object⟩
instance : Inhabited Model := ⟨⟨"", [], false⟩⟩
instance : Inhabited Field := ⟨⟨"", default⟩⟩

/-! ### Equality

Types are compared as trees: names, fields in order and the record mark. Rows of
rows share their parts, so that a type can be far larger as a tree than in memory;
one and the same model is recognised without a walk. -/

mutual

/-- Decide whether two types are the same. -/
def Ty.decEq (first second : Ty) : Decidable (first = second) :=
  match first, second with
  | .scalar first, .scalar second =>
    if same : first = second then isTrue (congrArg Ty.scalar same)
    else isFalse (fun equal => same (Ty.scalar.inj equal))
  | .model first, .model second =>
    match withPtrEqDecEq first second fun _ => Model.decEq first second with
    | isTrue same => isTrue (congrArg Ty.model same)
    | isFalse differ => isFalse (fun equal => differ (Ty.model.inj equal))
  | .group key element, .group key' element' =>
    match Ty.decEq key key', Ty.decEq element element' with
    | isTrue sameKey, isTrue sameElement => isTrue (by rw [sameKey, sameElement])
    | isFalse differ, _ => isFalse (fun equal => differ (Ty.group.inj equal).1)
    | _, isFalse differ => isFalse (fun equal => differ (Ty.group.inj equal).2)
  | .query first, .query second =>
    match Ty.decEq first second with
    | isTrue same => isTrue (congrArg Ty.query same)
    | isFalse differ => isFalse (fun equal => differ (Ty.query.inj equal))
  | .scalar _, .model _ | .scalar _, .group _ _ | .scalar _, .query _
  | .model _, .scalar _ | .model _, .group _ _ | .model _, .query _
  | .group _ _, .scalar _ | .group _ _, .model _ | .group _ _, .query _
  | .query _, .scalar _ | .query _, .model _ | .query _, .group _ _ =>
    isFalse Ty.noConfusion
  termination_by structural first

/-- Decide whether two models are the same. -/
def Model.decEq (first second : Model) : Decidable (first = second) :=
  match first, second with
  | ⟨name, fields, isRecord⟩, ⟨name', fields', isRecord'⟩ =>
    if sameHead : name = name' ∧ isRecord = isRecord' then
      match Field.decEqList fields fields' with
      | isTrue sameFields => isTrue (by rw [sameHead.1, sameHead.2, sameFields])
      | isFalse differ => isFalse (fun equal => differ (Model.mk.inj equal).2.1)
    else isFalse (fun equal => sameHead ⟨(Model.mk.inj equal).1, (Model.mk.inj equal).2.2⟩)
  termination_by structural first

/-- Decide whether two fields are the same. -/
def Field.decEq (first second : Field) : Decidable (first = second) :=
  match first, second with
  | ⟨name, ty⟩, ⟨name', ty'⟩ =>
    if sameName : name = name' then
      match Ty.decEq ty ty' with
      | isTrue sameTy => isTrue (by rw [sameName, sameTy])
      | isFalse differ => isFalse (fun equal => differ (Field.mk.inj equal).2)
    else isFalse (fun equal => sameName (Field.mk.inj equal).1)
  termination_by structural first

/-- Decide whether two field lists are the same. -/
def Field.decEqList (first second : List Field) : Decidable (first = second) :=
  match first, second with
  | [], [] => isTrue rfl
  | [], _ :: _ => isFalse (fun equal => nomatch equal)
  | _ :: _, [] => isFalse (fun equal => nomatch equal)
  | first :: rest, second :: rest' =>
    match Field.decEq first second, Field.decEqList rest rest' with
    | isTrue sameHead, isTrue sameTail => isTrue (by rw [sameHead, sameTail])
    | isFalse differ, _ => isFalse (fun equal => differ (List.cons.inj equal).1)
    | _, isFalse differ => isFalse (fun equal => differ (List.cons.inj equal).2)
  termination_by structural first

end

instance : DecidableEq Ty := Ty.decEq
instance : DecidableEq Model := Model.decEq
instance : DecidableEq Field := Field.decEq

/-! ### Kinds -/

/-- The outermost shape of a type, by which method signatures are told apart.
Two kinds occur in signatures only: a list of characters and a lambda. -/
inductive Kind
  | bool
  | int
  | long
  | float
  | double
  | decimal
  | string
  | chars
  | dateTime
  | timeSpan
  | random
  | model
  | group
  | query
  | closure
  | lambda
  | object
deriving Repr, DecidableEq, Inhabited

/-- Name of the kind. -/
def Kind.name : Kind → String
  | .bool => "Bool"
  | .int => "Int"
  | .long => "Long"
  | .float => "Float"
  | .double => "Double"
  | .decimal => "Decimal"
  | .string => "String"
  | .chars => "Chars"
  | .dateTime => "DateTime"
  | .timeSpan => "TimeSpan"
  | .random => "Random"
  | .model => "Model"
  | .group => "Group"
  | .query => "Query"
  | .closure => "Closure"
  | .lambda => "Lambda"
  | .object => "Object"

/-- Kind of a scalar. -/
def Scalar.kind : Scalar → Kind
  | .bool => .bool
  | .int => .int
  | .long => .long
  | .float => .float
  | .double => .double
  | .decimal => .decimal
  | .string => .string
  | .dateTime => .dateTime
  | .timeSpan => .timeSpan
  | .random => .random
  | .closure => .closure
  | .object => .object

namespace Ty

@[match_pattern] abbrev bool : Ty := .scalar .bool
@[match_pattern] abbrev int : Ty := .scalar .int
@[match_pattern] abbrev long : Ty := .scalar .long
@[match_pattern] abbrev float : Ty := .scalar .float
@[match_pattern] abbrev double : Ty := .scalar .double
@[match_pattern] abbrev decimal : Ty := .scalar .decimal
@[match_pattern] abbrev string : Ty := .scalar .string
@[match_pattern] abbrev dateTime : Ty := .scalar .dateTime
@[match_pattern] abbrev timeSpan : Ty := .scalar .timeSpan
@[match_pattern] abbrev random : Ty := .scalar .random
@[match_pattern] abbrev closure : Ty := .scalar .closure
@[match_pattern] abbrev object : Ty := .scalar .object

/-- Outermost shape of the type. -/
def kind : Ty → Kind
  | .scalar plain => plain.kind
  | .model _ => .model
  | .group _ _ => .group
  | .query _ => .query

/-- The type of conditions. -/
def isBool (ty : Ty) : Bool := ty == .bool

/-- A binary floating-point type. -/
def isFloating (ty : Ty) : Bool := ty == .float || ty == .double

/-- A group of rows. -/
def isGroup : Ty → Bool
  | .group _ _ => true
  | _ => false

/-- Members that values of the type offer: the fields of a model, and the key of
a group. -/
def fields : Ty → List Field
  | .model row => row.fields
  | .group key _ => [⟨"Key", key⟩]
  | _ => []

/-- Type of the named member: the first of that name, `object` when there is
none. -/
def fieldType (ty : Ty) (name : String) : Ty :=
  match ty.fields.find? (·.name == name) with
  | some field => field.ty
  | none => .object

/-- The type as readers see it. -/
def text : Ty → String
  | .scalar plain => plain.kind.name
  | .model row => row.name
  | .group key element => "Group<" ++ key.text ++ ", " ++ element.text ++ ">"
  | .query row => "Query<" ++ row.text ++ ">"

end Ty

/-- An anonymous row type, named after its fields. -/
def Model.record (fields : List Field) : Model :=
  { name := "\x7b " ++ String.intercalate ", " (fields.map (·.name)) ++ " \x7d"
    fields := fields
    isRecord := true }

/-- A row type mapped to a table. -/
def Model.table (name : String) (fields : List Field) : Model :=
  { name := name, fields := fields, isRecord := false }

end TypedQuery
