import ContentGraph.Proofs.Graph.ReferenceName
import ContentGraph.Proofs.Shape.FieldOrder

/-!
Contract: content under graph names, and back under content keys.

Owns:
- `graphValue`, a value of a kind with graph names: the inverse that `contentValue` should have;
- `SinglesKept`, values that hold no single object with a renamed key in the place of a list;
- `Shape.contentFields_graphFields_iff`: which nodes come back from their graph names.

Payloads take a single object where a list of objects is expected, and content holds such objects.
`contentValue` does not look into them.
-/

namespace ContentGraph

open ContentGraph.Json

namespace Kind

/-- The shape of the objects of a kind, also of those in lists. -/
def heldShape : Kind -> Shape
  | .object shape => shape
  | .list element => heldShape element
  | _ => []

end Kind

/-! ### Graph names -/

mutual

/-- A value with graph names, also inside a single object that stands in the place of a list. -/
def graphValue : Value -> Kind -> Value
  | .object fields, kind => .object (graphFields kind.heldShape fields)
  | .array items, .list element => .array (graphItems element items)
  | value, _ => value

/-- The items of a list with graph names. -/
def graphItems (element : Kind) : List Value -> List Value
  | [] => []
  | item :: rest => graphValue item element :: graphItems element rest

/-- Fields under the graph names of the shape; keys that it does not read stay. -/
def graphFields (shape : Shape) : List (String × Value) -> Object
  | [] => []
  | (key, value) :: rest =>
      (match shape.fieldBySource? key with
        | some field => (field.name, graphValue value field.kind)
        | none => (key, value)) :: graphFields shape rest

end

mutual

/-- No single object in the place of a list has a key, at any depth, that is renamed. -/
def SinglesKept : Value -> Kind -> Prop
  | .object fields, .object shape => SinglesKeptFields shape fields
  | .object fields, .list element => graphFields element.heldShape fields = fields
  | .array items, .list element => SinglesKeptItems element items
  | _, _ => True

/-- The same of every item. -/
def SinglesKeptItems (element : Kind) : List Value -> Prop
  | [] => True
  | item :: rest => SinglesKept item element ∧ SinglesKeptItems element rest

/-- The same of every field, by the kind of the field that reads its key. -/
def SinglesKeptFields (shape : Shape) : List (String × Value) -> Prop
  | [] => True
  | (key, value) :: rest =>
      (match shape.fieldBySource? key with
        | some field => SinglesKept value field.kind
        | none => True) ∧ SinglesKeptFields shape rest

end

theorem singlesKeptItems_iff {element : Kind} {items : List Value} :
    SinglesKeptItems element items ↔ ∀ item ∈ items, SinglesKept item element := by
  induction items with
  | nil => simp [SinglesKeptItems]
  | cons item rest inductionHypothesis => simp [SinglesKeptItems, inductionHypothesis]

theorem singlesKeptFields_iff {shape : Shape} {fields : Object} :
    SinglesKeptFields shape fields ↔ ∀ entry ∈ fields, ∀ field,
      shape.fieldBySource? entry.1 = some field -> SinglesKept entry.2 field.kind := by
  induction fields with
  | nil => simp [SinglesKeptFields]
  | cons first rest inductionHypothesis =>
      obtain ⟨key, value⟩ := first
      rw [SinglesKeptFields, inductionHypothesis, List.forall_mem_cons]
      cases shape.fieldBySource? key <;> simp

/-- A shape without fields renames nothing. -/
theorem graphFields_nil (fields : Object) : graphFields [] fields = fields := by
  induction fields with
  | nil => rfl
  | cons first rest inductionHypothesis =>
      obtain ⟨key, value⟩ := first
      rw [graphFields, inductionHypothesis]
      rfl

/-! ### One level -/

section OneLevel

variable {shape : Shape} {element : Kind} {done fields : Object} {items : List Value}
  {key : String} {value : Value}

/-- The graph name of a key goes back to the key. -/
def KeyReturns (shape : Shape) (key : String) : Prop :=
  match shape.fieldBySource? key with
  | some field => shape.field? field.name = some field
  | none => shape.field? key = none

/-- What a value under a key is after it went under graph names and back. -/
def returnedValue (shape : Shape) (key : String) (value : Value) : Value :=
  match shape.fieldBySource? key with
  | some field => contentValue (graphValue value field.kind) field.kind
  | none => value

/-- Fields whose graph names go back to their keys come back in order, each under its key. -/
theorem contentFields_graphFields (returns : ∀ entry ∈ fields, KeyReturns shape entry.1)
    (distinct : (Object.keys (done ++ fields)).Nodup) :
    contentFields shape done (graphFields shape fields) =
      done ++ fields.map fun entry => (entry.1, returnedValue shape entry.1 entry.2) := by
  induction fields generalizing done with
  | nil => simp [graphFields, contentFields]
  | cons first rest inductionHypothesis =>
      obtain ⟨key, value⟩ := first
      obtain ⟨keyReturns, returnsRest⟩ := List.forall_mem_cons.mp returns
      have isNew : key ∉ Object.keys done := by
        intro isOld
        simp only [Object.keys, List.map_append, List.map_cons, List.nodup_append] at distinct
        exact distinct.2.2 key isOld key List.mem_cons_self rfl
      have goesOn : ∀ returned, contentFields shape (Object.insert done key returned)
          (graphFields shape rest) = done ++ (key, returned) ::
            rest.map fun entry => (entry.1, returnedValue shape entry.1 entry.2) := by
        intro returned
        rw [Object.insert_of_absent isNew, inductionHypothesis returnsRest, List.append_assoc]
        · rfl
        · simpa [Object.keys] using distinct
      rw [graphFields, List.map_cons, returnedValue]
      unfold KeyReturns at keyReturns
      cases found : shape.fieldBySource? key with
      | some field =>
          rw [found] at keyReturns
          rw [contentFields, keyReturns]
          dsimp only
          rw [(Shape.mem_of_fieldBySource? found).2, goesOn]
      | none =>
          rw [found] at keyReturns
          rw [contentFields, keyReturns]
          dsimp only
          rw [goesOn]

/-- Fields come back when their keys do and what they hold does. -/
theorem contentFields_graphFields_eq_iff (returns : ∀ entry ∈ fields, KeyReturns shape entry.1)
    (distinct : (Object.keys fields).Nodup) :
    contentFields shape [] (graphFields shape fields) = fields ↔
      ∀ entry ∈ fields, returnedValue shape entry.1 entry.2 = entry.2 := by
  have comesBack : contentFields shape [] (graphFields shape fields) = [] ++ _ :=
    contentFields_graphFields returns distinct
  rw [comesBack, List.nil_append]
  nth_rewrite 2 [← List.map_id fields]
  rw [List.map_inj_left]
  simp [Prod.ext_iff]

theorem contentItems_graphItems_eq_iff :
    contentItems element (graphItems element items) = items ↔
      ∀ item ∈ items, contentValue (graphValue item element) element = item := by
  induction items with
  | nil => simp [graphItems, contentItems]
  | cons item rest inductionHypothesis =>
      rw [graphItems, contentItems, List.cons.injEq, inductionHypothesis, List.forall_mem_cons]

end OneLevel

/-! ### All levels -/

namespace Kind

variable {transform : FieldTransform} {fields named : Shape} {field : Field} {key : String}
  {value : Value}

/-- An entry that a shape has a field for comes back under its key, and with its value if the value
comes back by the field's kind. -/
theorem returns_of_field? (nameable : Nameable transform (.object fields))
    (isNamed : rename transform (.object fields) = .ok (.object named))
    (found : fields.field? key = some field)
    (inside : ∀ renamed, rename transform field.kind = .ok renamed ->
      (contentValue (graphValue value renamed) renamed = value ↔ SinglesKept value renamed)) :
    KeyReturns named key ∧ (returnedValue named key value = value ↔
      ∀ renamed, named.fieldBySource? key = some renamed -> SinglesKept value renamed.kind) := by
  obtain ⟨renamed, isRead, isFound, isKind⟩ := exists_fieldBySource nameable isNamed found
  simp only [KeyReturns, returnedValue, isRead]
  refine ⟨isFound, (inside _ isKind).trans ?_⟩
  simp

/-- A value that a kind covers comes back from its graph names exactly when no single object in the
place of a list has a renamed key. -/
theorem contentValue_graphValue_eq_iff : ∀ value : Value, value.WellKeyed ->
    ∀ kind renamed : Kind, Every (Nameable transform) kind -> rename transform kind = .ok renamed ->
      Covers Except.ok value kind ->
      (contentValue (graphValue value renamed) renamed = value ↔ SinglesKept value renamed)
  | .object fields, wellKeyed, kind, renamed, nameable, isNamed, covers => by
      obtain ⟨distinct, wellKeyedFields⟩ := wellKeyed
      cases kind with
      | unknown => cases covers
      | scalar form =>
          cases isNamed
          exact iff_of_true (congrArg Value.object (graphFields_nil fields)) trivial
      | resolved resolver =>
          cases isNamed
          exact iff_of_true (congrArg Value.object (graphFields_nil fields)) trivial
      | list element =>
          -- The object is left as its graph names have it.
          obtain ⟨inner, _, rfl⟩ := rename_list_ok.mp isNamed
          rw [graphValue, heldShape, SinglesKept]
          simp [contentValue]
      | object shape =>
          obtain ⟨named, _, rfl⟩ := rename_object_ok.mp isNamed
          obtain ⟨nameableHere, nameableInside⟩ := every_object_iff.mp nameable
          have comesBack : ∀ entry ∈ fields, KeyReturns named entry.1 ∧
              (returnedValue named entry.1 entry.2 = entry.2 ↔ ∀ field,
                named.fieldBySource? entry.1 = some field -> SinglesKept entry.2 field.kind) := by
            rintro ⟨key, held⟩ member
            obtain ⟨_, field, isKey, found, covered⟩ := covers_object_iff.mp covers _ member
            cases isKey
            refine returns_of_field? nameableHere isNamed found fun renamed isRenamed => ?_
            have smaller : sizeOf (key, held) < sizeOf fields := List.sizeOf_lt_of_mem member
            exact contentValue_graphValue_eq_iff held
              (Object.wellKeyedFields_iff.mp wellKeyedFields _ member) field.kind renamed
              (nameableInside field (Shape.mem_of_field? found).1) isRenamed covered
          rw [graphValue, heldShape, contentValue, SinglesKept, Value.object.injEq,
            contentFields_graphFields_eq_iff (fun entry member => (comesBack entry member).1)
              distinct,
            singlesKeptFields_iff]
          exact forall₂_congr fun entry member => (comesBack entry member).2
  | .array items, wellKeyed, kind, renamed, nameable, isNamed, covers => by
      cases kind with
      | list element =>
          obtain ⟨inner, isInner, rfl⟩ := rename_list_ok.mp isNamed
          rw [graphValue, contentValue, SinglesKept, Value.array.injEq,
            contentItems_graphItems_eq_iff, singlesKeptItems_iff]
          refine forall₂_congr fun item member => ?_
          have smaller : sizeOf item < sizeOf items := List.sizeOf_lt_of_mem member
          exact contentValue_graphValue_eq_iff item
            (Object.wellKeyedItems_iff.mp wellKeyed item member) element inner nameable.2 isInner
            (covers_list_array.mp covers item member)
      | unknown => cases covers
      | object shape => cases covers
      | scalar form =>
          cases isNamed
          simp [graphValue, contentValue, SinglesKept]
      | resolved resolver =>
          cases isNamed
          simp [graphValue, contentValue, SinglesKept]
  | .null, _, _, _, _, _, _ | .bool _, _, _, _, _, _, _ | .number _, _, _, _, _, _, _
  | .string _, _, _, _, _, _, _ => by
      simp [graphValue, contentValue, SinglesKept]
termination_by value => sizeOf value
decreasing_by
  all_goals simp only [Prod.mk.sizeOf_spec, Value.object.sizeOf_spec, Value.array.sizeOf_spec] at *
  all_goals omega

end Kind

/-! ### Nodes -/

namespace Shape

open Kind

variable {overrides fragments : ResolverTree} {referenceField : String}
  {transform : FieldTransform} {nodes : List Value} {shape : Shape} {fields : Object}

/-- No payload sets the key that tells the name of the collection where another field has that
name. -/
theorem find?_collection_of_taken (wellKeyed : ∀ node ∈ nodes, node.WellKeyed)
    (reduced : reduce overrides fragments referenceField transform nodes = .ok shape)
    (taken : shape.field? "_collection" ≠ none) (payload : Object) :
    Object.find? (contentFields shape [] payload) "_collection" = none := by
  refine find?_contentFields_of_other fun entry _ => ?_
  unfold contentKey
  cases found : shape.field? entry.1 with
  | some field => exact sourceKey_ne_of_reduce wellKeyed reduced (mem_of_field? found).1
  | none => exact fun isCollection => taken (isCollection ▸ found)

/-- Where no two keys of one object get one graph name, the entries of a node come back under their
keys, with the value where no single object in the place of a list has a renamed key. -/
theorem returns_of_node (wellKeyed : ∀ node ∈ nodes, node.WellKeyed)
    (distinctOverrides : Every DistinctNames (.object (ofTree overrides)))
    (distinctFragments : Every DistinctNames (.object (ofTree fragments)))
    (reduced : reduce overrides fragments referenceField transform nodes = .ok shape)
    (apart : Every (Apart transform) (.object (observed overrides fragments referenceField nodes)))
    (member : Value.object fields ∈ nodes) {entry : String × Value} (inFields : entry ∈ fields)
    (isFree : entry.1 = "_collection" -> shape.field? "_collection" = none) :
    KeyReturns shape entry.1 ∧ (returnedValue shape entry.1 entry.2 = entry.2 ↔ ∀ field,
      shape.fieldBySource? entry.1 = some field -> SinglesKept entry.2 field.kind) := by
  have wellNamed : Every (WellNamed Except.ok)
      (.object (observed overrides fragments referenceField nodes)) :=
    (every_observed invariant_distinctNames distinctOverrides distinctFragments referenceField
      wellKeyed).and (namedBy_observed overrides fragments referenceField wellKeyed)
  have nameable := every_object_iff.mp (wellNamed.and apart)
  have isNamed : Kind.rename transform
      (.object (observed overrides fragments referenceField nodes)) = .ok (.object shape) :=
    rename_object_ok.mpr ⟨shape, reduced, rfl⟩
  obtain ⟨key, value⟩ := entry
  by_cases isCollection : key = "_collection"
  · -- No field is read from this key, and none has its name.
    subst isCollection
    have isUnread : shape.fieldBySource? "_collection" = none :=
      List.find?_eq_none.mpr fun field inShape => by
        simpa using sourceKey_ne_of_reduce wellKeyed reduced inShape
    simp [KeyReturns, returnedValue, isUnread, isFree rfl]
  · have inErased : (key, value) ∈ Object.erase fields "_collection" :=
      List.mem_filter.mpr ⟨inFields, by simpa using isCollection⟩
    obtain ⟨_, field, isKey, found, covered⟩ := covers_object_iff.mp
      (covers_observed overrides fragments referenceField wellKeyed member) _ inErased
    cases isKey
    refine returns_of_field? nameable.1 isNamed found fun renamed isRenamed => ?_
    exact contentValue_graphValue_eq_iff value
      (Object.wellKeyedFields_iff.mp (wellKeyed _ member).2 _ inFields) field.kind renamed
      (nameable.2 field (Shape.mem_of_field? found).1) isRenamed covered

/-- Where no two keys of one object get one graph name, nodes come back from their graph names,
except for two things: a single object in the place of a list keeps the graph names of its keys,
and what tells the name of the collection goes elsewhere where another field took that name. -/
theorem contentFields_graphFields_iff (wellKeyed : ∀ node ∈ nodes, node.WellKeyed)
    (distinctOverrides : Every DistinctNames (.object (ofTree overrides)))
    (distinctFragments : Every DistinctNames (.object (ofTree fragments)))
    (reduced : reduce overrides fragments referenceField transform nodes = .ok shape)
    (apart : Every (Apart transform) (.object (observed overrides fragments referenceField nodes)))
    (member : Value.object fields ∈ nodes) :
    contentFields shape [] (graphFields shape fields) = fields ↔
      ((Object.find? fields "_collection").isSome = true -> shape.field? "_collection" = none) ∧
        SinglesKeptFields shape fields := by
  have distinct : (Object.keys fields).Nodup := (wellKeyed _ member).1
  by_cases isFree : (Object.find? fields "_collection").isSome = true ->
      shape.field? "_collection" = none
  · have returns : ∀ entry ∈ fields, KeyReturns shape entry.1 ∧
        (returnedValue shape entry.1 entry.2 = entry.2 ↔ ∀ field,
          shape.fieldBySource? entry.1 = some field -> SinglesKept entry.2 field.kind) := by
      intro entry inFields
      refine returns_of_node wellKeyed distinctOverrides distinctFragments reduced apart member
        inFields fun isCollection => isFree ?_
      rw [← isCollection, (Object.find?_eq_some_iff distinct).mpr inFields]
      rfl
    rw [contentFields_graphFields_eq_iff (fun entry inFields => (returns entry inFields).1)
      distinct, singlesKeptFields_iff, and_iff_right isFree]
    exact forall₂_congr fun entry inFields => (returns entry inFields).2
  · refine iff_of_false (fun isBack => ?_) fun both => isFree both.1
    obtain ⟨isHeld, taken⟩ := Classical.not_imp.mp isFree
    have isLost := find?_collection_of_taken wellKeyed reduced taken (graphFields shape fields)
    rw [isBack] at isLost
    rw [isLost] at isHeld
    cases isHeld

private theorem apart_of_names (names : List String)
    (areNamed : (shape.names.map fun key => (transform.fieldName key).toOption) = names.map some)
    (distinct : names.Nodup) : Apart transform (.object shape) := by
  have distinctNames : (shape.names.map fun key => (transform.fieldName key).toOption).Nodup :=
    areNamed ▸ distinct.map fun _ _ same => Option.some.inj same
  intro first inFirst second inSecond name isFirst isSecond
  exact List.inj_on_of_nodup_map distinctNames inFirst inSecond
    (congrArg Except.toOption (isFirst.trans isSecond.symm))

/-- A node with a single object under a key. -/
def sampleSinglePart : Object :=
  [("id", .string "a"), ("main_part", .object [("part_size", .ofInt 1)])]

/-- A node with a list of such objects under the same key. -/
def samplePartList : Object :=
  [("id", .string "b"), ("main_part", .array [.object [("part_size", .ofInt 2)]])]

/-- Both nodes. -/
def samplePartNodes : List Value :=
  [.object sampleSinglePart, .object samplePartList]

/-- The representative shape of both. -/
def samplePartShape : Shape :=
  [.mk "id" "id" (.scalar .string),
   .mk "mainPart" "main_part" (.list (.object [.mk "partSize" "part_size" (.scalar .int)])),
   .mk "_filename" "_filename" (.scalar .string), .mk "_path" "_path" (.scalar .string),
   .mk "_slug" "_slug" (.scalar .string)]

private theorem wellKeyed_samplePartNodes : ∀ node ∈ samplePartNodes, node.WellKeyed := by
  simp [samplePartNodes, sampleSinglePart, samplePartList, Value.WellKeyed, Value.WellKeyedFields,
    Value.WellKeyedItems, Value.ofInt]

private theorem apart_samplePartNodes :
    Every (Apart .camelCase) (.object (observed [] [] "id" samplePartNodes)) := by
  have areObserved : observed [] [] "id" samplePartNodes =
      [.unnamed "id" (.scalar .string),
       .unnamed "main_part" (.list (.object [.unnamed "part_size" (.scalar .int)])),
       .unnamed "_filename" (.scalar .string), .unnamed "_path" (.scalar .string),
       .unnamed "_slug" (.scalar .string)] := by
    with_unfolding_all rfl
  have inside : Apart .camelCase (.object [.unnamed "part_size" (.scalar .int)]) :=
    apart_of_names ["partSize"] (by decide +kernel) (by decide)
  rw [areObserved]
  refine ⟨?_, trivial, ⟨trivial, inside, trivial, trivial⟩, trivial, trivial, trivial, trivial⟩
  exact apart_of_names ["id", "mainPart", "_filename", "_path", "_slug"] (by decide +kernel)
    (by decide)

/-- The list of objects comes back with its keys. -/
theorem contentFields_graphFields_iff_samplePartList :
    reduce [] [] "id" .camelCase samplePartNodes = .ok samplePartShape ∧
      graphFields samplePartShape samplePartList =
        [("id", .string "b"), ("mainPart", .array [.object [("partSize", .ofInt 2)]])] ∧
      contentFields samplePartShape [] (graphFields samplePartShape samplePartList) =
        samplePartList := by
  have noTree : Every DistinctNames (.object (ofTree [])) := ⟨List.nodup_nil, trivial⟩
  have reduced : reduce [] [] "id" .camelCase samplePartNodes = .ok samplePartShape := by
    with_unfolding_all rfl
  have isNode : Value.object samplePartList ∈ samplePartNodes := by simp [samplePartNodes]
  have comesBack := contentFields_graphFields_iff wellKeyed_samplePartNodes noTree noTree reduced
    apart_samplePartNodes isNode
  refine ⟨reduced, rfl, comesBack.mpr ⟨by decide, ?_⟩⟩
  simp [SinglesKeptFields, samplePartList, samplePartShape, fieldBySource?, Field.sourceKey,
    Field.kind, SinglesKept, SinglesKeptItems, Value.ofInt]

/-- The single object in the place of the list comes back with the graph names of its keys. -/
theorem single_part_keeps_graph_names :
    (∀ node ∈ samplePartNodes, node.WellKeyed) ∧
      reduce [] [] "id" .camelCase samplePartNodes = .ok samplePartShape ∧
      Every (Apart .camelCase) (.object (observed [] [] "id" samplePartNodes)) ∧
      Value.object sampleSinglePart ∈ samplePartNodes ∧
      graphFields samplePartShape sampleSinglePart =
        [("id", .string "a"), ("mainPart", .object [("partSize", .ofInt 1)])] ∧
      contentFields samplePartShape [] (graphFields samplePartShape sampleSinglePart) =
        [("id", .string "a"), ("main_part", .object [("partSize", .ofInt 1)])] ∧
      contentFields samplePartShape [] (graphFields samplePartShape sampleSinglePart) ≠
        sampleSinglePart := by
  refine ⟨wellKeyed_samplePartNodes, by with_unfolding_all rfl, apart_samplePartNodes,
    List.mem_cons_self, rfl, rfl, ?_⟩
  have comesBack : contentFields samplePartShape [] (graphFields samplePartShape sampleSinglePart) =
      [("id", .string "a"), ("main_part", .object [("partSize", .ofInt 1)])] := rfl
  rw [comesBack]
  simp [sampleSinglePart]

end Shape

end ContentGraph
