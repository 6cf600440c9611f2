import ContentGraph.Proofs.Graph.RelationCompleteness
import ContentGraph.Proofs.Query.SharedSelection

/-!
Contract: single fields, as a query shows them and as a filter sees them.

Owns:
- `referredNode`, the node that a relation to one refers to, and `follows_toOne`, how it is shown;
- `follows_relation`: a relation is shown as the nodes it refers to are projected;
- `follows_data`: a field of a shape is shown as its value is projected.
-/

namespace ContentGraph.Query

open ContentGraph.Json ContentGraph.Schema Progress

variable {types : List (String × List FieldDef)} {typeName : String}
  {relations : List Relation} {kind : Kind} {type : TypeRef} {State : Type}
  {runtime : Runtime State} {setting : Setting State} {reported name : String} {field : Field}
  {raw : Value} {below : List (String × Filter.Selection)}

/-! ### Relations -/

/-- The type of a relation is that of its target. -/
theorem core_relationField {relation : Relation} {target : Collection} {graph : Graph}
    (isTarget : graph.collection relation.target = .ok target) :
    (relationField relation).type.core = target.typeName := by
  have sameName : target.name = relation.target := Graph.name_of_collection isTarget
  have isCore : (relationField relation).type.core = Text.legalize relation.target := by
    unfold relationField
    split <;> rfl
  rw [isCore, ← sameName]
  rfl

theorem type_relationField_one {relation : Relation} {target : Collection} {graph : Graph}
    (isTarget : graph.collection relation.target = .ok target)
    (toOne : relation.cardinality = .one) :
    (relationField relation).type = .named target.typeName := by
  have isCore := core_relationField isTarget
  rw [relationField, toOne] at isCore ⊢
  exact congrArg TypeRef.named isCore

/-- The node that a single reference value refers to. -/
def referredNode (graph : Graph) (relation : Relation) (target : Collection)
    (value : Value) : Option Value :=
  value.referenceKey?.bind fun key => (graph.nodes relation.target).find? (target.hasKey key)

private theorem ofRelation_one {relation : Relation} {target : Collection} {graph : Graph}
    (isTarget : graph.collection relation.target = .ok target)
    (toOne : relation.cardinality = .one) :
    Output.ofRelation graph relation raw [] =
      .ok ((referredNode graph relation target (relation.value raw)).map .node) := by
  have isKey : (raw.field? relation.sourceKey).bind Value.referenceKey? =
      (relation.value raw).referenceKey? := by
    unfold Relation.value
    cases raw.field? relation.sourceKey <;> rfl
  rw [Output.ofRelation, toOne, isKey, referredNode]
  cases (relation.value raw).referenceKey? with
  | none => rfl
  | some key =>
      simp only [Graph.findByReference_of_known isTarget]
      rfl

private theorem relationBelow_one {relation : Relation} {target : Collection} {graph : Graph}
    {value : Value} (isTarget : graph.collection relation.target = .ok target)
    (toOne : relation.cardinality = .one) (someBelow : below ≠ []) :
    Projection.relationBelow graph relation value (.mk below) =
      match referredNode graph relation target value with
      | none => .ok .null
      | some node => Projection.node graph target node (.mk below) := by
  have notLeaf : (Filter.Selection.mk below).isLeaf = false := by
    simpa [Filter.Selection.isLeaf, Filter.Selection.fields] using someBelow
  rw [Projection.relationBelow, notLeaf, isTarget, Projection.referred, toOne, referredNode]
  cases value.referenceKey? with
  | none => rfl
  | some key =>
      simp only [Graph.findByReference_of_known isTarget, Option.bind_some]
      cases (graph.nodes relation.target).find? (target.hasKey key) <;> rfl

private theorem relationBelow_many {relation : Relation} {target : Collection} {graph : Graph}
    {value : Value} (isTarget : graph.collection relation.target = .ok target)
    (toMany : relation.cardinality = .many) (someBelow : below ≠ []) :
    Projection.relationBelow graph relation value (.mk below) =
      ((graph.referred target value).mapM fun node =>
        Projection.node graph target node (.mk below)).map .array := by
  have notLeaf : (Filter.Selection.mk below).isLeaf = false := by
    simpa [Filter.Selection.isLeaf, Filter.Selection.fields] using someBelow
  rw [Projection.relationBelow, notLeaf, isTarget, Projection.referred, toMany, Graph.findMany,
    isTarget, Graph.referred, Graph.name_of_collection isTarget]
  rfl

private theorem origin_relationField (relation : Relation) :
    (relationField relation).origin = .relation relation := by
  unfold relationField
  split <;> rfl

/-- A relation to one is shown as the node that it refers to is completed. -/
theorem follows_toOne {relation : Relation} {target : Collection} {expected : Except Failure Value}
    {select : String -> Output -> StateM (Progress State) Value}
    (isTarget : runtime.graph.collection relation.target = .ok target)
    (toOne : relation.cardinality = .one)
    (asks : Asks setting typeName (plainHead name) (relationField relation))
    (completes : Completes runtime
      (complete setting.table select (.named target.typeName)
        ((referredNode runtime.graph relation target (relation.value raw)).map .node)) expected) :
    Follows runtime (runField setting typeName (.node raw) (plainHead name) select) expected
      fun shown result => result = some (name, shown) := by
  have areArguments := @fieldArguments?_relationField relation setting.value?
  rw [toOne] at areArguments
  have isResolved : resolve setting.source runtime (relationField relation).origin (.node raw) [] =
      (.ok ((referredNode runtime.graph relation target (relation.value raw)).map .node),
        runtime) := by
    rw [origin_relationField]
    simp only [resolve, withNode, ofRelation_one isTarget toOne]
    rfl
  exact follows_of_output asks areArguments isResolved (type_relationField_one isTarget toOne ▸ completes)

/-- A relation is shown as it is projected. -/
theorem follows_relation {relation : Relation} {target : Collection}
    (ready : Ready types setting runtime) (shows : Shows types setting runtime below)
    (isTarget : runtime.graph.collection relation.target = .ok target) (someBelow : below ≠ [])
    (inside : Selectable runtime.graph target.shape target.relations below)
    (asks : Asks setting typeName (plainHead name) (relationField relation))
    (fitsBelow : (setting.table.objectFields? (relationField relation).type.core).isNone =
      below.isEmpty)
    (valid : selectionsFit setting.table [] (relationField relation).type.core (asked below) =
      true) :
    Follows runtime
      (runField setting typeName (.node raw) (plainHead name) (selectBelow setting below))
      (Projection.relationBelow runtime.graph relation (relation.value raw) (.mk below))
      fun shown result => result = some (name, shown) := by
  rw [core_relationField isTarget] at fitsBelow valid
  have isMember : target ∈ runtime.graph.collections := Graph.mem_of_collection isTarget
  have sameName : target.name = relation.target := Graph.name_of_collection isTarget
  have isCore : Text.legalize relation.target = target.typeName := by
    rw [← sameName]
    rfl
  obtain ⟨fields, isObject⟩ : ∃ fields,
      setting.table.objectFields? target.typeName = some fields := by
    rw [← Option.isSome_iff_exists, ← Option.not_isNone, fitsBelow]
    simpa using someBelow
  have typed := typed_of_collection ready.faithful (ready.defined target isMember)
  have eachNode : ∀ node ∈ runtime.graph.nodes target.name,
      Completes runtime
        (complete setting.table (selectBelow setting below) (.named target.typeName)
          (some (.node node)))
        (Projection.node runtime.graph target node (.mk below)) := by
    intro node isNode
    obtain ⟨fits, holds⟩ := ready.conforms target isMember node isNode
    exact completes_object (find?_of_objectFields? isObject)
      (follows_selectBelow shows someBelow typed inside valid fits holds)
  cases cardinality : relation.cardinality with
  | one =>
      refine follows_toOne isTarget cardinality asks ?_
      rw [relationBelow_one isTarget cardinality someBelow]
      cases found : referredNode runtime.graph relation target (relation.value raw) with
      | none => exact .pure rfl
      | some node =>
          refine eachNode node ?_
          obtain ⟨key, _, isFound⟩ := Option.bind_eq_some_iff.mp found
          rw [sameName]
          exact List.mem_of_find?_eq_some isFound
  | many =>
      have areArguments := @fieldArguments?_relationField relation setting.value?
      rw [cardinality] at areArguments
      have isType : (relationField relation).type = .list (.nonNull (.named target.typeName)) := by
        rw [relationField, cardinality, isCore]
      have isResolved : resolve setting.source runtime (relationField relation).origin (.node raw)
          [("order", .string "ASC")] =
            (.ok (some (.list ((runtime.graph.referred target (relation.value raw)).map .node))),
              runtime) := by
        rw [origin_relationField]
        simp only [resolve, withNode, Output.ofRelation_many isTarget cardinality]
        rfl
      refine follows_of_output asks areArguments isResolved ?_
      have each : List.Forall₂ (fun output node =>
          Completes runtime
            (complete setting.table (selectBelow setting below)
              (.nonNull (.named target.typeName)) (some output))
            (Projection.node runtime.graph target node (.mk below)))
          ((runtime.graph.referred target (relation.value raw)).map .node)
          (runtime.graph.referred target (relation.value raw)) := by
        rw [List.forall₂_map_left_iff, List.forall₂_same]
        intro node member
        exact eachNode node (List.mem_of_mem_filter member)
      rw [isType, relationBelow_many isTarget cardinality someBelow, complete]
      refine (Follows.mapM each).map fun shown results related => ?_
      rw [mapM_id_of_some related]
      rfl

/-! ### Data -/

/-- What a field that is not computed gives. -/
private theorem ofData_of_inferred (notComputed : ∀ resolver, kind ≠ .resolved resolver)
    (sourceKey : String) (args : Object) :
    Output.ofData sourceKey (fieldKind kind) raw args =
      .ok (Output.ofKind kind ((raw.field? sourceKey).getD .null)) := by
  cases kind with
  | resolved resolver => exact absurd rfl (notComputed resolver)
  | object shape => cases shape <;> rfl
  | _ => rfl

private theorem arguments_of_inferred {arguments : List Argument}
    (notComputed : ∀ resolver, kind ≠ .resolved resolver)
    (areArguments : kindArguments kind = .ok arguments) : arguments = [] := by
  cases kind with
  | resolved resolver => exact absurd rfl (notComputed resolver)
  | _ =>
      cases areArguments
      rfl

/-- A scalar that a field of a built type has is one of the table. -/
private theorem isScalar_of_asks {definition : FieldDef} (ready : Ready types setting runtime)
    (asks : Asks setting typeName (plainHead name) definition)
    (isScalar : definition.type.core ∈ scalarNames)
    (noObject : (setting.table.objectFields? definition.type.core).isNone = true) :
    setting.table.find? definition.type.core = some .scalar := by
  obtain ⟨fields, isObject, isFound⟩ := Option.bind_eq_some_iff.mp asks.2
  have isOutput := isOutput_of_build ready.built isObject (List.mem_of_find?_eq_some isFound)
  exact find?_of_scalar ready.built isScalar isOutput (Option.isNone_iff_eq_none.mp noObject)

/-- A field that is not computed is shown as it is projected. -/
private theorem follows_inferred {definition : FieldDef} {arguments : List Argument}
    {firstBelow : Option String} {enter : Shape -> Value -> Except Failure Value}
    (notComputed : ∀ resolver, kind ≠ .resolved resolver)
    (areArguments : kindArguments kind = .ok arguments) (describes : Describes types kind type)
    (isDefinition : definition = ⟨name, arguments, type, .data field.sourceKey (fieldKind kind)⟩)
    (asks : Asks setting typeName (plainHead name) definition)
    (completable : Completable runtime setting.table (selectBelow setting below) enter firstBelow
      type.core kind.core)
    (fits : Kind.Fits ((raw.field? field.sourceKey).getD .null) kind)
    (holds : Kind.HoldsLists ((raw.field? field.sourceKey).getD .null) kind) :
    Follows runtime
      (runField setting typeName (.node raw) (plainHead name) (selectBelow setting below))
      (Projection.ofKind enter reported firstBelow kind ((raw.field? field.sourceKey).getD .null)
        raw)
      fun shown result => result = some (name, shown) := by
  cases arguments_of_inferred notComputed areArguments
  subst isDefinition
  have isResolved : resolve setting.source runtime (.data field.sourceKey (fieldKind kind))
      (.node raw) [] =
        (.ok (Output.ofKind kind ((raw.field? field.sourceKey).getD .null)), runtime) := by
    simp only [resolve, withNode, ofData_of_inferred notComputed]
    rfl
  exact follows_of_output asks rfl isResolved
    (completes_ofKind kind describes completable _ raw fits holds)

/-- A computed field of a scalar type is shown as it is projected. -/
private theorem follows_computed {resolver : Resolver} {arguments : List Argument}
    {definition : FieldDef} {firstBelow : Option String}
    {enter : Shape -> Value -> Except Failure Value}
    (ready : Ready types setting runtime) (shallow : resolver.Shallow)
    (areArguments : kindArguments (.resolved resolver) = .ok arguments)
    (isRead : TypeRef.parse resolver.typeRef = .ok type)
    (isDefinition : definition =
      ⟨name, arguments, type, .data field.sourceKey (.resolved resolver)⟩)
    (asks : Asks setting typeName (plainHead name) definition)
    (noObject : (setting.table.objectFields? definition.type.core).isNone = true) :
    Follows runtime
      (runField setting typeName (.node raw) (plainHead name) (selectBelow setting below))
      (Projection.ofKind enter reported firstBelow (.resolved resolver)
        ((raw.field? field.sourceKey).getD .null) raw)
      fun shown result => result = some (name, shown) := by
  obtain ⟨scalar, isScalar, isNamed⟩ := shallow.scalar
  cases isRead.symm.trans isNamed
  have isFound : setting.table.find? scalar = some .scalar := by
    subst isDefinition
    exact isScalar_of_asks ready asks isScalar noObject
  subst isDefinition
  have given := fieldArguments?_of_resolver shallow.arguments areArguments setting.value?
  rw [Projection.ofKind]
  cases computed : resolver.resolve ((raw.field? field.sourceKey).getD .null) raw
      (resolver.withDefaults []) with
  | error failure =>
      refine follows_of_failure asks given ?_
      simp only [resolve, withNode, Output.ofData, resolver.withDefaults_withDefaults, computed]
      rfl
  | ok value =>
      have isResolved : resolve setting.source runtime
          (.data field.sourceKey (.resolved resolver)) (.node raw) (resolver.withDefaults []) =
            (.ok (if value.isNull then none else some (.leaf value)), runtime) := by
        simp only [resolve, withNode, Output.ofData, resolver.withDefaults_withDefaults, computed,
          Except.map, Output.ofDeclared_of_scalar isNamed isScalar]
        rfl
      refine follows_of_output asks given isResolved ?_
      rw [complete_scalar isFound]
      exact .pure rfl

/-- A field of a shape is shown as it is projected. -/
theorem follows_data {definition : FieldDef}
    (ready : Ready types setting runtime) (shows : Shows types setting runtime below)
    (isName : field.name = name) (noRelation : Collection.relation? relations name = none)
    (inside : SelectableBelow runtime.graph field.kind below)
    (defines : Defines types relations field definition)
    (asks : Asks setting typeName (plainHead name) definition)
    (fitsBelow : (setting.table.objectFields? definition.type.core).isNone = below.isEmpty)
    (valid : selectionsFit setting.table [] definition.type.core (asked below) = true)
    (fits : Kind.Fits ((raw.field? field.sourceKey).getD .null) field.kind)
    (holds : Kind.HoldsLists ((raw.field? field.sourceKey).getD .null) field.kind) :
    Follows runtime
      (runField setting typeName (.node raw) (plainHead name) (selectBelow setting below))
      (Projection.ofKind (Projection.enterBelow runtime.graph reported (.mk below)) reported
        (below.head?.map Prod.fst) field.kind ((raw.field? field.sourceKey).getD .null) raw)
      fun shown result => result = some (name, shown) := by
  subst isName
  cases defines with
  | relation isRelation => cases noRelation.symm.trans isRelation
  | @data arguments type _ areArguments describes =>
      obtain ⟨fieldName, sourceKey, kind⟩ := field
      cases inside with
      | leaf isLeaf =>
          have notComputed : ∀ resolver, kind ≠ .resolved resolver := by
            rintro resolver rfl
            cases isLeaf
          have isScalar := core_mem_scalarNames kind describes isLeaf
          exact follows_inferred notComputed areArguments describes rfl asks
            (.leaf isLeaf (isScalar_of_asks ready asks isScalar fitsBelow) rfl) fits holds
      | @object _ shape _ isObject notEmpty someBelow inside =>
          have notComputed : ∀ resolver, kind ≠ .resolved resolver := by
            rintro resolver rfl
            cases isObject
          have isShape : kind.core = .object shape := isObject
          obtain ⟨first, others, rfl⟩ := List.exists_cons_of_ne_nil notEmpty
          obtain ⟨fields, isType, describesFields⟩ :=
            exists_type_of_core kind describes isShape
          have notLeaf : (setting.table.objectFields? type.core).isNone = false := by
            rw [show (setting.table.objectFields? type.core).isNone = below.isEmpty from fitsBelow]
            simpa using someBelow
          obtain ⟨found, isFound⟩ := Option.isSome_iff_exists.mp (by simpa using notLeaf)
          have typed := typed_of_object ready.faithful isType describesFields
          have enters : ∀ held, Kind.FitsFields (.object held) (first :: others) ->
              Kind.HoldsListsIn (.object held) (first :: others) ->
              Follows runtime (selectBelow setting below type.core (.node (.object held)))
                (Projection.enterBelow runtime.graph reported (.mk below) (first :: others)
                  (.object held)) Eq := fun held fitsHeld holdsHeld =>
            follows_selectBelow shows someBelow typed inside valid fitsHeld holdsHeld
          have completable : Completable runtime setting.table (selectBelow setting below)
              (Projection.enterBelow runtime.graph reported (.mk below))
              (below.head?.map Prod.fst) type.core kind.core := by
            rw [isShape]
            exact .object notEmpty (find?_of_objectFields? isFound) (by simpa using someBelow)
              (follows_selectBelow_nothing typed inside) enters
          exact follows_inferred notComputed areArguments describes rfl asks completable fits holds
      | computed shallow =>
          cases describes with
          | resolved isRead =>
              exact follows_computed ready shallow areArguments isRead rfl asks fitsBelow

end ContentGraph.Query
