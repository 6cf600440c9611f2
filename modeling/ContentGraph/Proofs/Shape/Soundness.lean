import ContentGraph.Proofs.Shape.Naming

/-!
Contract: every stored value fits the kind that was inferred for it.

Owns:
- `fits_of_covers`: a value fits a well-named kind that covers it;
- `reduce_fits`: every object node fits the representative shape of its collection, and every key
  of a node has a field in it.
-/

namespace ContentGraph

open ContentGraph.Json

namespace Kind

variable {value : Value}

theorem fits_null : ∀ kind : Kind, Fits .null kind
  | .unknown => by rw [Fits]
  | .scalar form => by
      rw [Fits]
      cases form <;> simp [FitsScalar]
  | .list _ => .inl rfl
  | .object _ => .inl rfl
  | .resolved _ => trivial

theorem fitsFields_iff {fields : Shape} :
    FitsFields value fields ↔
      ∀ field ∈ fields, Fits ((value.field? field.sourceKey).getD .null) field.kind := by
  induction fields with
  | nil => simp [FitsFields]
  | cons first rest inductionHypothesis =>
      obtain ⟨name, sourceKey, kind⟩ := first
      simp [FitsFields, Field.sourceKey, Field.kind, inductionHypothesis]

theorem fits_list_array {items : List Value} {element : Kind} :
    Fits (.array items) (.list element) ↔ ∀ item ∈ items, Fits item element := by
  simp [Fits]

theorem fits_list_of_single {element : Kind} (noArray : value.items? = none)
    (fits : Fits value element) : Fits value (.list element) := by
  cases value <;> simp [Fits, Value.items?] at noArray ⊢
  all_goals exact fits

/-- What a well-named shape covers at a key, it covers by the field that is read from the key. -/
theorem covers_of_sourceKey {nameOf : String -> Except Failure String} {held : Object}
    {fields : Shape} {field : Field} {child : Value}
    (well : WellNamed nameOf (.object fields))
    (covers : Covers nameOf (.object held) (.object fields)) (member : field ∈ fields)
    (isHeld : Object.find? held field.sourceKey = some child) : Covers nameOf child field.kind := by
  obtain ⟨name, found, named, isFound, covered⟩ :=
    covers_object_iff.mp covers _ (Object.mem_of_find? isHeld)
  have sameName : name = field.name := Except.ok.inj (named.symm.trans (well.2 field member))
  rw [sameName, Shape.field?_of_mem well.1 member] at isFound
  cases isFound
  exact covered

mutual

/-- A value fits a well-named kind that covers it. -/
theorem fits_of_covers {nameOf : String -> Except Failure String} :
    ∀ kind : Kind, Every (WellNamed nameOf) kind -> ∀ value : Value,
      Covers nameOf value kind -> Fits value kind
  | .unknown, _, _, covers => covers
  | .scalar _, _, _, covers => covers
  | .resolved _, _, _, _ => trivial
  | .list element, well, value, covers => by
      have inside := fits_of_covers element well.2
      cases value with
      | array items =>
          rw [covers_list_array] at covers
          exact fits_list_array.mpr fun item member => inside item (covers item member)
      | _ => exact fits_list_of_single rfl (inside _ ((covers_list_of_single rfl).mp covers))
  | .object fields, well, value, covers => by
      rw [Fits]
      cases value with
      | null => exact .inl rfl
      | object held =>
          right
          refine ⟨rfl, fitsFields_iff.mpr fun field member => ?_⟩
          have fitsKind := fits_of_coversField fields well.2 field member
          cases isHeld : Object.find? held field.sourceKey with
          | none => simpa [Value.field?, Value.fields?, isHeld] using fits_null field.kind
          | some child =>
              have covered := covers_of_sourceKey well.1 covers member isHeld
              simpa [Value.field?, Value.fields?, isHeld] using fitsKind child covered
      | _ => simp [Covers] at covers

theorem fits_of_coversField {nameOf : String -> Except Failure String} :
    ∀ fields : List Field, EveryField (WellNamed nameOf) fields -> ∀ field ∈ fields,
      ∀ value : Value, Covers nameOf value field.kind -> Fits value field.kind
  | [], _ => by simp
  | .mk name sourceKey kind :: rest, well => by
      have first := fits_of_covers kind well.1
      have others := fits_of_coversField rest well.2
      exact List.forall_mem_cons.mpr ⟨first, others⟩

end

end Kind

namespace Shape

open Kind

variable {overrides fragments : ResolverTree} {referenceField : String}
  {transform : FieldTransform} {nodes : List Value} {shape : Shape}

/-- At every level of a representative shape the names are distinct, and each is the name of its
content key. -/
theorem wellNamed_reduce (wellKeyed : ∀ node ∈ nodes, node.WellKeyed)
    (reduced : reduce overrides fragments referenceField transform nodes = .ok shape) :
    Every (WellNamed transform.fieldName) (.object shape) :=
  wellNamed_rename (.object (observed overrides fragments referenceField nodes)) (.object shape)
    (namedBy_observed overrides fragments referenceField wellKeyed)
    (rename_object_ok.mpr ⟨shape, reduced, rfl⟩)

/-- A representative shape covers every object node without its `_collection` field. -/
theorem covers_reduce (wellKeyed : ∀ node ∈ nodes, node.WellKeyed)
    (reduced : reduce overrides fragments referenceField transform nodes = .ok shape)
    {held : Object} (member : Value.object held ∈ nodes) :
    Covers transform.fieldName (.object (held.erase "_collection")) (.object shape) :=
  covers_rename (.object (observed overrides fragments referenceField nodes)) (.object shape)
    (rename_object_ok.mpr ⟨shape, reduced, rfl⟩) _
    (covers_observed overrides fragments referenceField wellKeyed member)

/-- No field of a representative shape is read from `_collection`. -/
theorem sourceKey_ne_of_reduce (wellKeyed : ∀ node ∈ nodes, node.WellKeyed)
    (reduced : reduce overrides fragments referenceField transform nodes = .ok shape)
    {field : Field} (member : field ∈ shape) : field.sourceKey ≠ "_collection" := by
  obtain ⟨origin, inNone | isObserved, same⟩ := sourceKey_of_renameFields reduced member
  · cases inNone
  · have unnamed := (namedBy_observed overrides fragments referenceField wellKeyed).1
    have sameKey := Except.ok.inj (unnamed origin isObserved)
    have kept := (List.mem_filter.mp isObserved).2
    rw [same, sameKey]
    simpa using kept

/-- The kind of a field covers what every node holds under the field's key. -/
theorem covers_field_of_reduce (wellKeyed : ∀ node ∈ nodes, node.WellKeyed)
    (reduced : reduce overrides fragments referenceField transform nodes = .ok shape)
    {node value : Value} (member : node ∈ nodes) {field : Field} (inShape : field ∈ shape)
    (isHeld : node.field? field.sourceKey = some value) :
    Covers transform.fieldName value field.kind := by
  cases node with
  | object held =>
      have other := sourceKey_ne_of_reduce wellKeyed reduced inShape
      exact covers_of_sourceKey (wellNamed_reduce wellKeyed reduced).1
        (covers_reduce wellKeyed reduced member) inShape
        ((Object.find?_erase other).trans isHeld)
  | _ => cases isHeld

/-- Inference is sound.  Where no object holds a key twice, every object node of a collection fits
the representative shape, and each of its keys but `_collection` has a field in the shape, under
the name that the transform gives to the key. -/
theorem reduce_fits (overrides fragments : ResolverTree) (referenceField : String)
    (transform : FieldTransform) (nodes : List Value) (shape : Shape)
    (wellKeyed : ∀ node ∈ nodes, node.WellKeyed)
    (reduced : reduce overrides fragments referenceField transform nodes = .ok shape) :
    ∀ node ∈ nodes, node.isObject = true ->
      Fits node (.object shape) ∧
        ∀ key, key ≠ "_collection" -> (node.field? key).isSome = true ->
          ∃ name field, transform.fieldName key = .ok name ∧ shape.field? name = some field := by
  intro node member isObject
  cases node with
  | object held =>
      have well := wellNamed_reduce wellKeyed reduced
      have covers := covers_reduce wellKeyed reduced member
      constructor
      · refine .inr ⟨rfl, fitsFields_iff.mpr fun field inShape => ?_⟩
        cases isHeld : (Value.object held).field? field.sourceKey with
        | none => exact fits_null field.kind
        | some child =>
            have covered := covers_field_of_reduce wellKeyed reduced member inShape isHeld
            exact fits_of_covers field.kind ((every_object_iff.mp well).2 field inShape) child
              covered
      · intro key other present
        obtain ⟨child, isHeld⟩ := Option.isSome_iff_exists.mp present
        have isHeld : Object.find? (Object.erase held "_collection") key = some child :=
          (Object.find?_erase other).trans isHeld
        obtain ⟨name, field, named, found, _⟩ :=
          covers_object_iff.mp covers _ (Object.mem_of_find? isHeld)
        exact ⟨name, field, named, found⟩
  | _ => cases isObject

/-- Two nodes whose kinds widen in several ways, with two keys of one camel-case name and
an integer too large for a graph integer. -/
def sampleMixedNodes : List Value :=
  [.object [("id", .string "a"), ("word_count", .ofInt 3), ("_collection", .string "posts"),
     ("parts", .array [.object [("size", .ofInt 1)], .null])],
   .object [("id", .ofInt 2), ("wordCount", .array [.ofInt 4294967296]),
     ("parts", .object [("size", .string "large")])]]

/-- The representative shape of `sampleMixedNodes`. -/
def sampleMixedShape : Shape :=
  [.mk "id" "id" (.scalar .json), .mk "wordCount" "word_count" (.list (.scalar .float)),
   .mk "parts" "parts" (.list (.object [.mk "size" "size" (.scalar .json)])),
   .mk "_filename" "_filename" (.scalar .string), .mk "_path" "_path" (.scalar .string),
   .mk "_slug" "_slug" (.scalar .string)]

theorem reduce_fits_sampleMixedNodes :
    reduce [] [] "id" .camelCase sampleMixedNodes = .ok sampleMixedShape ∧
      ∀ node ∈ sampleMixedNodes, Fits node (.object sampleMixedShape) := by
  have wellKeyed : ∀ node ∈ sampleMixedNodes, node.WellKeyed := by
    simp [sampleMixedNodes, Value.WellKeyed, Value.WellKeyedFields, Value.WellKeyedItems,
      Value.ofInt]
  have reduced : reduce [] [] "id" .camelCase sampleMixedNodes = .ok sampleMixedShape := by
    with_unfolding_all rfl
  have objects : ∀ node ∈ sampleMixedNodes, node.isObject = true := by decide
  refine ⟨reduced, fun node member => ?_⟩
  exact (reduce_fits [] [] "id" .camelCase sampleMixedNodes sampleMixedShape wellKeyed reduced
    node member (objects node member)).1

end Shape

end ContentGraph
