import ContentGraph.Proofs.Graph.Projection
import ContentGraph.Proofs.Query.ComputedField
import ContentGraph.Proofs.Query.FieldRun
import ContentGraph.Proofs.Schema.Build

/-!
Contract: selections that a query and a filter share.

Owns:
- `Query.asked`, a filter's selection as it is asked for in a query, and `Selectable`, the
  selections that fit a shape with its relations;
- `Typed` and `Ready`, a table of types that tells of the shapes of a runtime's graph;
- `Shows`, selected fields are shown as they are projected, and what follows for the selections
  below a field.

Does not own: single fields (`Query.ShownField`), and whole nodes (`Query.ShownNode`).
-/

namespace ContentGraph

open ContentGraph.Json ContentGraph.Schema

/-! ### Selections as queries -/

namespace Query

/-- A field that is asked for by its name alone. -/
def plainHead (name : String) : FieldHead :=
  { position := ⟨1, 1⟩, label := none, name, arguments := [], directives := [] }

/-- Selected fields as they are asked for in a query. -/
def asked : List (String × Filter.Selection) -> List Selection
  | [] => []
  | (name, .mk below) :: rest => .field (plainHead name) (asked below) :: asked rest

end Query

/-! ### Selections that a query and a filter may share -/

/-- The type of a computed field is a scalar, and its arguments have defaults of their own. -/
structure Resolver.Shallow (resolver : Resolver) : Prop where
  scalar : ∃ name ∈ scalarNames, TypeRef.parse resolver.typeRef = .ok (.named name)
  arguments : resolver.PlainArguments

mutual

/-- A selection of the fields of an object with relations: each is selected once, and what is
selected below it fits its relation or its kind. -/
inductive Selectable (graph : Graph) :
    Shape -> List Relation -> List (String × Filter.Selection) -> Prop where
  | nil {shape : Shape} {relations : List Relation} : Selectable graph shape relations []
  | relation {shape : Shape} {relations : List Relation} {name : String} {relation : Relation}
      {target : Collection} {below rest : List (String × Filter.Selection)}
      (isRelation : Collection.relation? relations name = some relation)
      (isTarget : graph.collection relation.target = .ok target) (someBelow : below ≠ [])
      (inside : Selectable graph target.shape target.relations below)
      (named : name ∉ ["_collection", Query.typenameField])
      (once : name ∉ rest.map Prod.fst) (others : Selectable graph shape relations rest) :
      Selectable graph shape relations ((name, .mk below) :: rest)
  | field {shape : Shape} {relations : List Relation} {name : String} {field : Field}
      {below rest : List (String × Filter.Selection)}
      (noRelation : Collection.relation? relations name = none)
      (isField : shape.field? name = some field) (inside : SelectableBelow graph field.kind below)
      (named : name ∉ ["_collection", Query.typenameField])
      (once : name ∉ rest.map Prod.fst) (others : Selectable graph shape relations rest) :
      Selectable graph shape relations ((name, .mk below) :: rest)

/-- A selection below a field of a kind: nothing below scalars and free values, something below
objects, and neither lists nor objects below computed fields. -/
inductive SelectableBelow (graph : Graph) : Kind -> List (String × Filter.Selection) -> Prop where
  | leaf {kind : Kind} (isLeaf : kind.core.Leaf) : SelectableBelow graph kind []
  | object {kind : Kind} {shape : Shape} {below : List (String × Filter.Selection)}
      (isObject : kind.core = .object shape) (notEmpty : shape ≠ []) (someBelow : below ≠ [])
      (inside : Selectable graph shape [] below) : SelectableBelow graph kind below
  | computed {resolver : Resolver} (shallow : resolver.Shallow) :
      SelectableBelow graph (.resolved resolver) []

end

/-- The fields after the first selected one. -/
theorem Selectable.tail {graph : Graph} {shape : Shape} {relations : List Relation}
    {first : String × Filter.Selection} {rest : List (String × Filter.Selection)}
    (selectable : Selectable graph shape relations (first :: rest)) :
    Selectable graph shape relations rest := by
  cases selectable with
  | relation isRelation isTarget someBelow inside named once others => exact others
  | field noRelation isField inside named once others => exact others

namespace Query

open Progress

/-! ### Types in a table -/

variable {types : List (String × List FieldDef)} {table : TypeTable} {typeName : String}
  {shape : Shape} {relations : List Relation} {kind : Kind} {type : TypeRef}

/-- The fields of a type in a table are those of a shape with relations. -/
def Typed (types : List (String × List FieldDef)) (table : TypeTable) (typeName : String)
    (shape : Shape) (relations : List Relation) : Prop :=
  ∀ name definition, name ≠ "_collection" ->
    (table.objectFields? typeName).bind (·.find? fun field => field.name = name) =
      some definition ->
    ∃ field, shape.field? name = some field ∧ field.name = name ∧
      Defines types relations field definition

/-- The types that a table has are no other than these. -/
abbrev Faithful (types : List (String × List FieldDef)) (table : TypeTable) : Prop :=
  ∀ name fields, (name, fields) ∈ types ->
    ∀ found, table.objectFields? name = some found -> found = fields

theorem typed_of_object {fields : List FieldDef} (faithful : Faithful types table)
    (isType : (typeName, fields) ∈ types) (describes : DescribesFields types shape fields) :
    Typed types table typeName shape [] := by
  intro name definition _ found
  obtain ⟨others, isObject, isFound⟩ := Option.bind_eq_some_iff.mp found
  cases faithful typeName fields isType others isObject
  exact exists_field_of_find? describes.defines isFound

theorem typed_of_collection {collection : Collection} (faithful : Faithful types table)
    (defined : Defined types collection) :
    Typed types table collection.typeName collection.shape collection.relations := by
  intro name definition notName found
  obtain ⟨own, isType, defines⟩ := defined
  obtain ⟨others, isObject, isFound⟩ := Option.bind_eq_some_iff.mp found
  cases faithful _ _ isType others isObject
  have isOther : (collectionNameField collection).name ≠ name := Ne.symm notName
  rw [List.find?_cons_of_neg (by simpa using isOther)] at isFound
  exact exists_field_of_find? defines isFound

/-- Scalars and free values have scalar types. -/
theorem core_mem_scalarNames : ∀ (kind : Kind) {type : TypeRef}, Describes types kind type ->
    kind.core.Leaf -> type.core ∈ scalarNames
  | .unknown, _, .unknown, _ => by decide
  | .scalar form, _, .scalar _, _ => by cases form <;> decide
  | .object [], _, .json, _ => by decide
  | .list element, _, describes, isLeaf => by
      cases describes with
      | list inside =>
          have isScalar := core_mem_scalarNames element inside isLeaf
          exact isScalar

/-- Objects have types of their own. -/
theorem exists_type_of_core {first : Field} {rest : Shape} : ∀ (kind : Kind) {type : TypeRef},
    Describes types kind type -> kind.core = .object (first :: rest) ->
      ∃ fields, (type.core, fields) ∈ types ∧ DescribesFields types (first :: rest) fields
  | .object (_ :: _), _, .object isType describes, isObject => by
      cases isObject
      exact ⟨_, isType, describes⟩
  | .list element, _, describes, isObject => by
      cases describes with
      | list inside =>
          have isType := exists_type_of_core element inside isObject
          exact isType

/-! ### Valid selections -/

theorem isEmpty_asked (selected : List (String × Filter.Selection)) :
    (asked selected).isEmpty = selected.isEmpty := by
  rcases selected with _ | ⟨⟨_, ⟨_⟩⟩, _⟩ <;> simp [asked]

/-- A valid field is one of its type, and what is selected below it fits the field's type. -/
theorem definition_of_valid {name : String} {below rest : List (String × Filter.Selection)}
    (notTypename : name ≠ typenameField)
    (valid : selectionsFit table [] typeName (asked ((name, .mk below) :: rest)) = true) :
    (∃ definition, (table.objectFields? typeName).bind
          (·.find? fun field => field.name = name) = some definition ∧
        (table.objectFields? definition.type.core).isNone = below.isEmpty ∧
        selectionsFit table [] definition.type.core (asked below) = true) ∧
      selectionsFit table [] typeName (asked rest) = true := by
  rw [asked, selectionsFit] at valid
  simp only [Bool.and_eq_true, Bool.or_eq_true, decide_eq_true_eq] at valid
  obtain ⟨isField | isField, validRest⟩ := valid
  · exact absurd isField notTypename
  · refine ⟨?_, validRest⟩
    split at isField
    · cases isField
    · next definition found =>
        simp only [Bool.and_eq_true, leavesFit, beq_iff_eq, isEmpty_asked] at isField
        exact ⟨definition, found, isField.1.1.2, isField.2⟩

/-! ### Runs of selections -/

variable {State : Type} {runtime : Runtime State} {setting : Setting State} {reported name : String}
  {field : Field} {raw : Value} {below rest selected : List (String × Filter.Selection)}

/-- A table of the collections of a runtime, whose nodes fit. -/
structure Ready (types : List (String × List FieldDef)) (setting : Setting State)
    (runtime : Runtime State) : Prop where
  built : Schema.build runtime.graph.collections = .ok setting.table
  faithful : Faithful types setting.table
  defined : ∀ collection ∈ runtime.graph.collections, Defined types collection
  conforms : ∀ collection ∈ runtime.graph.collections,
    ∀ node ∈ runtime.graph.nodes collection.name,
      Kind.FitsFields node collection.shape ∧ Kind.HoldsListsIn node collection.shape

/-- The object of what is selected below a field. -/
def selectBelow (setting : Setting State) (below : List (String × Filter.Selection))
    (typeName : String) (output : Output) : StateM (Progress State) Value :=
  runSelections setting typeName output (asked below) >>= fun fields => pure (objectOf fields)

/-- Selected fields are shown as they are projected. -/
def Shows (types : List (String × List FieldDef)) (setting : Setting State)
    (runtime : Runtime State) (selected : List (String × Filter.Selection)) : Prop :=
  ∀ {typeName reported : String} {shape : Shape} {relations : List Relation} {raw : Value},
    Typed types setting.table typeName shape relations ->
      Selectable runtime.graph shape relations selected ->
      selectionsFit setting.table [] typeName (asked selected) = true ->
      Kind.FitsFields raw shape -> Kind.HoldsListsIn raw shape ->
      Follows runtime (runSelections setting typeName (.node raw) (asked selected))
        (Projection.fields runtime.graph reported shape relations raw selected)
        fun shown result => result = shown ∧ Object.keys shown = selected.map Prod.fst

/-- The names of a selection are distinct and none of those that every type has. -/
theorem names_of_selectable (selectable : Selectable runtime.graph shape relations selected) :
    (selected.map Prod.fst).Nodup ∧
      ∀ name ∈ selected.map Prod.fst, name ∉ ["_collection", typenameField] := by
  induction selected generalizing shape with
  | nil => exact ⟨List.nodup_nil, List.forall_mem_nil _⟩
  | cons first rest inductionHypothesis =>
      obtain ⟨distinct, areNamed⟩ := inductionHypothesis selectable.tail
      have own : first.1 ∉ rest.map Prod.fst ∧ first.1 ∉ ["_collection", typenameField] := by
        cases selectable with
        | relation isRelation isTarget someBelow inside named once others => exact ⟨once, named⟩
        | field noRelation isField inside named once others => exact ⟨once, named⟩
      exact ⟨List.nodup_cons.mpr ⟨own.1, distinct⟩, List.forall_mem_cons.mpr ⟨own.2, areNamed⟩⟩

theorem mergeFields_of_apart {fields : Object} (distinct : (Object.keys fields).Nodup) :
    ∀ target : Object, (∀ key ∈ Object.keys fields, key ∉ Object.keys target) ->
      mergeFields target fields = target ++ fields := by
  induction fields with
  | nil => exact fun target _ => by rw [mergeFields, List.append_nil]
  | cons first rest inductionHypothesis =>
      obtain ⟨key, value⟩ := first
      intro target areNew
      obtain ⟨isNew, restNew⟩ := List.forall_mem_cons.mp areNew
      obtain ⟨apart, distinctRest⟩ := List.nodup_cons.mp distinct
      have absent : Object.find? target key = none := Object.find?_eq_none_iff.mpr isNew
      rw [mergeFields, absent, Object.insert_of_absent isNew,
        inductionHypothesis distinctRest, List.append_assoc]
      · rfl
      · intro other member isThere
        rw [Object.keys, List.map_append, List.mem_append] at isThere
        rcases isThere with isOld | isFirst
        · exact restNew other member isOld
        · cases List.mem_singleton.mp isFirst
          exact apart member

theorem objectOf_of_distinct {fields : Object} (distinct : (Object.keys fields).Nodup)
    (notEmpty : fields ≠ []) : objectOf fields = .object fields := by
  rw [objectOf, mergeFields_of_apart distinct [] fun _ _ => List.not_mem_nil, List.nil_append,
    if_neg (by simpa using notEmpty)]

/-- The object of a selection below a node. -/
theorem follows_selectBelow (shows : Shows types setting runtime below) (someBelow : below ≠ [])
    (typed : Typed types setting.table typeName shape relations)
    (selectable : Selectable runtime.graph shape relations below)
    (valid : selectionsFit setting.table [] typeName (asked below) = true)
    (fits : Kind.FitsFields raw shape) (holds : Kind.HoldsListsIn raw shape) :
    Follows runtime (selectBelow setting below typeName (.node raw))
      ((Projection.fields runtime.graph reported shape relations raw below).map .object) Eq := by
  refine (shows typed selectable valid fits holds).map fun shown result related => ?_
  obtain ⟨rfl, names⟩ := related
  refine (objectOf_of_distinct ?_ ?_).symm
  · rw [names]
    exact (names_of_selectable selectable).1
  · rintro rfl
    exact someBelow (List.map_eq_nil_iff.mp names.symm)

/-- On what is no node, the fields of a type give nothing. -/
theorem follows_selectBelow_nothing (typed : Typed types setting.table typeName shape [])
    (selectable : Selectable runtime.graph shape [] below) :
    Follows runtime (selectBelow setting below typeName .nothing) (.ok .null) Eq := by
  have areNamed := (names_of_selectable selectable).2
  have nothing : Follows runtime (runSelections setting typeName .nothing (asked below)) (.ok ())
      fun _ result => result = [] := by
    clear selectable
    induction below with
    | nil =>
        rw [asked, runSelections]
        exact .pure rfl
    | cons first rest inductionHypothesis =>
        obtain ⟨name, ⟨inside⟩⟩ := first
        obtain ⟨named, restNamed⟩ := List.forall_mem_cons.mp areNamed
        rw [asked, runSelections]
        have notTypename : (plainHead name).name ≠ typenameField := fun same =>
          named (same ▸ List.mem_cons_of_mem _ List.mem_cons_self)
        show Follows runtime _ (Except.ok () >>= fun _ => Except.ok () >>= fun _ => .ok ()) _
        refine (follows_of_nothing notTypename fun definition asks => ?_).both
          (inductionHypothesis restNamed) ?_
        · obtain ⟨field, _, _, defines⟩ := typed name definition
            (fun same => named (same ▸ List.mem_cons_self)) asks.2
          cases defines with
          | relation isRelation => cases isRelation
          | data => exact .inl ⟨_, _, rfl⟩
        · rintro _ _ _ _ rfl rfl
          rfl
  show Follows runtime _ (Except.map (fun _ => Value.null) (.ok ())) Eq
  refine nothing.map fun _ result isNothing => ?_
  rw [isNothing]
  rfl

end Query

end ContentGraph
