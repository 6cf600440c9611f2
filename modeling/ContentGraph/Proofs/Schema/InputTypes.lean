import ContentGraph.Proofs.Schema.DistinctNames
import ContentGraph.Proofs.Schema.NestedTypes
import ContentGraph.Proofs.Shape.Coverage
import ContentGraph.Query.Validation

/-!
Contract: the input types of collections and the payloads that they admit.

Owns:
- `find?_of_registration`: where names are distinct, every registered type is in the table;
- `TakesInput`, that the input type of a collection is in the table and that its mutations take it,
  and `takesInput_of_assemble`: so it is for every collection whose content has an input;
- `DerivesInput.fits`: a reference value that a kind covers fits the input type of the kind;
- `TakesInput.fits_reference`: so does the payload with nothing but that value.
-/

namespace ContentGraph.Schema

open ContentGraph.Json ContentGraph.Query

variable {collections : List Collection} {collection : Collection} {parts : Parts}
  {table : TypeTable} {shape : Shape} {inputs : List (String × TypeRef)}
  {own : List (String × List (String × TypeRef))} {name : String}

/-! ### Registered types -/

theorem lookup_of_mem {Held : Type} {entries : List (String × Held)} {held : Held}
    (distinct : (entries.map Prod.fst).Nodup) (member : (name, held) ∈ entries) :
    entries.lookup name = some held := by
  induction entries with
  | nil => cases member
  | cons first rest inductionHypothesis =>
      obtain ⟨key, value⟩ := first
      obtain ⟨isNew, distinctRest⟩ := List.nodup_cons.mp distinct
      rcases List.mem_cons.mp member with isFirst | inRest
      · cases isFirst
        exact List.lookup_cons_self
      · have different : (name == key) = false := by
          rw [beq_eq_false_iff_ne]
          rintro rfl
          exact isNew (List.mem_map.mpr ⟨_, inRest, rfl⟩)
        rw [List.lookup_cons, different]
        exact inductionHypothesis distinctRest inRest

theorem find?_of_registration (distinct : parts.Distinct) {definition : TypeDef}
    (member : (name, definition) ∈ parts.registrations) :
    parts.table.find? name = some definition := by
  have types := distinct.types
  rw [List.nodup_append] at types
  obtain ⟨_, registered, apart⟩ := types
  have noSystem : ¬ systemScalars.contains name = true := by
    intro isSystem
    exact apart name (by simpa using isSystem) name (List.mem_map_of_mem member) rfl
  rw [TypeTable.find?, if_neg noSystem, table_of_distinct distinct]
  exact lookup_of_mem registered member

/-- The draft of assembled parts has the types of the collections added in turn. -/
theorem draft_of_assemble (isParts : assemble collections = .ok parts) :
    collections.foldlM TypeDraft.addCollection (.start collections) = .ok parts.draft := by
  have run : ∀ (added : List Collection) (start : Parts), added.foldlM Parts.add start = .ok parts ->
      added.foldlM TypeDraft.addCollection start.draft = .ok parts.draft := by
    intro added
    induction added with
    | nil =>
        intro start folded
        cases folded
        rfl
    | cons first rest inductionHypothesis =>
        intro start folded
        rw [List.foldlM_cons, bind_eq_ok] at folded
        obtain ⟨next, addedFirst, foldedRest⟩ := folded
        rw [List.foldlM_cons, (Parts.add_ok addedFirst).1]
        exact inductionHypothesis next foldedRest
  exact run collections _ isParts

/-! ### Fields of input types -/

/-- Every field with an input has one in the input type. -/
theorem DerivesInputs.exists_input (derives : DerivesInputs shape inputs own) {field : Field}
    (member : field ∈ shape) (given : hasInput field.kind = true) :
    ∃ type types, (field.name, type) ∈ inputs ∧ DerivesInput field.kind (some type) types := by
  induction shape generalizing inputs own with
  | nil => cases member
  | cons first rest inductionHypothesis =>
      cases derives with
      | @given _ _ _ type _ _ types _ derivesKind derivesRest =>
          rcases List.mem_cons.mp member with rfl | inRest
          · exact ⟨type, types, List.mem_cons_self, derivesKind⟩
          · obtain ⟨type, types, isInput, derivesField⟩ := inductionHypothesis derivesRest inRest
            exact ⟨type, types, List.mem_cons_of_mem _ isInput, derivesField⟩
      | computed derivesKind derivesRest =>
          rcases List.mem_cons.mp member with rfl | inRest
          · have noInput := derivesKind.isSome_eq
            rw [Field.kind] at given
            rw [given] at noInput
            cases noInput
          · exact inductionHypothesis derivesRest inRest

theorem DerivesInputs.names (derives : DerivesInputs shape inputs own) :
    inputs.map Prod.fst = Shape.names (shape.filter fun field => hasInput field.kind) := by
  have represents := derives.represents fun _ member => member
  clear derives
  generalize shape.filter _ = fields at represents
  induction represents with
  | nil => rfl
  | cons first _ inductionHypothesis =>
      rw [List.map_cons, inductionHypothesis, first.name]
      rfl

/-- No input has to be given. -/
theorem DerivesInputs.isNonNull_eq (derives : DerivesInputs shape inputs own) :
    ∀ input ∈ inputs, input.2.isNonNull = false := by
  induction shape generalizing inputs own with
  | nil =>
      cases derives
      exact List.forall_mem_nil _
  | cons first rest inductionHypothesis =>
      cases derives with
      | @given _ _ _ type _ _ _ _ derivesKind derivesRest =>
          refine List.forall_mem_cons.mpr ⟨?_, inductionHypothesis derivesRest⟩
          generalize isType : some type = given at derivesKind
          cases derivesKind with
          | @list _ inner _ _ =>
              cases inner with
              | none => cases isType
              | some inner =>
                  cases isType
                  rfl
          | resolved _ => cases isType
          | _ =>
              cases isType
              rfl
      | computed _ derivesRest => exact inductionHypothesis derivesRest

/-! ### The input type of a collection -/

/-- The input type of a collection is in the table, and the root has the three mutations of the
collection, each of which takes it. -/
structure TakesInput (table : TypeTable) (collection : Collection)
    (inputs : List (String × TypeRef)) : Prop where
  registered : table.find? (inputName collection.typeName) = some (.input inputs)
  mutations : ∃ fields, table.objectFields? mutationRoot = some fields ∧
    ∀ kind, mutationField collection kind ∈ fields
  taken : ∀ kind, ∃ argument, (mutationField collection kind).arguments = [argument] ∧
    argument.type.core = inputName collection.typeName

/-- Where names are distinct, a collection of whose content any field has an input has its input
type in the table, with exactly these fields. -/
theorem takesInput_of_assemble (isParts : assemble collections = .ok parts)
    (distinct : parts.Distinct) (member : collection ∈ collections)
    (given : ((contentFields collection).any fun field => hasInput field.kind) = true) :
    ∃ inputs own, TakesInput parts.table collection inputs ∧
      DerivesInputs (contentFields collection) inputs own := by
  obtain ⟨portions, claimed, rfl, adds⟩ := exists_portions (draft_of_assemble isParts)
  obtain ⟨portion, isPortion, rfl⟩ := List.mem_map.mp member
  refine ⟨portion.inputs, portion.nestedInputs, ⟨?_, ?_, ?_⟩, portion.derivesInputs⟩
  · have isGiven : portion.inputs ≠ [] := portion.derivesInputs.any_iff.mp given
    have isOwn : (inputName portion.collection.typeName, portion.inputs) ∈ parts.draft.inputs := by
      rw [adds.inputs]
      refine List.mem_append_right _ (List.mem_flatMap.mpr ⟨portion, isPortion, ?_⟩)
      simp [Portion.inputTypes, isGiven]
    exact find?_of_registration distinct (List.mem_append_right _ (List.mem_map_of_mem isOwn))
  · have isRoot : parts.table.find? mutationRoot = some (.object parts.mutation) :=
      find?_of_registration distinct (by simp [Parts.registrations])
    refine ⟨parts.mutation, by rw [TypeTable.objectFields?, isRoot], fun kind => ?_⟩
    rw [(assembled_of_assemble isParts).mutation]
    refine List.mem_flatMap.mpr ⟨portion.collection, member, List.mem_map_of_mem ?_⟩
    cases kind <;> decide
  · intro kind
    cases kind <;> exact ⟨_, rfl, rfl⟩

/-! ### Reference values -/

private theorem reference_cases {value : Value} (isReference : value.referenceKey?.isSome = true) :
    (∃ text, value = .string text) ∨ ∃ number, value = .number number := by
  cases value with
  | string text => exact .inl ⟨text, rfl⟩
  | number number => exact .inr ⟨number, rfl⟩
  | _ => cases isReference

private theorem fits_scalar {value : Value} (isReference : value.referenceKey?.isSome = true)
    (isScalar : table.find? name = some .scalar) :
    Literal.fits table (.named name) (.ofJson value) =
      Literal.fitsScalar name (.ofJson value) := by
  rcases reference_cases isReference with ⟨text, rfl⟩ | ⟨number, rfl⟩
  · rw [Literal.ofJson, Literal.fits]
    simp [isScalar]
    all_goals simp
  · rw [Literal.ofJson, Literal.fits]
    simp [isScalar]
    all_goals simp

private theorem fits_list {value : Value} (isReference : value.referenceKey?.isSome = true)
    (element : TypeRef) :
    Literal.fits table (.list element) (.ofJson value) =
      Literal.fits table element (.ofJson value) := by
  rcases reference_cases isReference with ⟨text, rfl⟩ | ⟨number, rfl⟩
  · rw [Literal.ofJson, Literal.fits]
    all_goals simp
  · rw [Literal.ofJson, Literal.fits]
    all_goals simp

private theorem fitsScalar_of_fits {value : Value} {form : Scalar}
    (isReference : value.referenceKey?.isSome = true) (fits : FitsScalar value form) :
    Literal.fitsScalar form.typeName (.ofJson value) = true := by
  cases form with
  | json => simp [Scalar.typeName, Literal.fitsScalar]
  | string =>
      rcases fits with rfl | ⟨text, rfl⟩
      · cases isReference
      · simp [Scalar.typeName, Literal.ofJson, Literal.fitsScalar]
  | int =>
      rcases fits with rfl | ⟨number, rfl, atLeast, below⟩
      · cases isReference
      · have isSmall : ((Nat.pow 2 31 : Nat) : Int) = 2147483648 := rfl
        simp [Scalar.typeName, Value.ofInt, Literal.ofJson, Literal.fitsScalar, Literal.isInteger]
        omega
  | float =>
      rcases fits with rfl | ⟨number, rfl⟩
      · cases isReference
      · simp [Scalar.typeName, Literal.ofJson, Literal.fitsScalar]
  | boolean =>
      rcases fits with rfl | ⟨truth, rfl⟩
      · cases isReference
      · cases isReference

/-- A reference value that a kind covers fits the input type of the kind. -/
theorem DerivesInput.fits {nameOf : String -> Except Failure String} {value : Value}
    (json : table.find? jsonScalar = some .scalar)
    (isReference : value.referenceKey?.isSome = true) :
    ∀ (kind : Kind) {type : TypeRef} {own : List (String × List (String × TypeRef))},
      DerivesInput kind (some type) own -> Kind.Covers nameOf value kind ->
        Literal.fits table type (.ofJson value) = true
  | .unknown, _, _, _, covers => by
      rw [Kind.Covers] at covers
      rw [covers] at isReference
      cases isReference
  | .scalar form, _, _, derives, covers => by
      cases derives
      have isScalar : table.find? form.typeName = some .scalar := by
        cases form with
        | json => exact json
        | _ => rfl
      rw [fits_scalar isReference isScalar]
      exact fitsScalar_of_fits isReference covers
  | .list element, type, _, derives, covers => by
      generalize isType : some type = given at derives
      cases derives with
      | @list _ inner _ inside =>
          cases inner with
          | none => cases isType
          | some inner =>
              cases isType
              have single : value.items? = none := by
                rcases reference_cases isReference with ⟨text, rfl⟩ | ⟨number, rfl⟩ <;> rfl
              rw [fits_list isReference]
              exact DerivesInput.fits json isReference element inside
                ((Kind.covers_list_of_single single).mp covers)
  | .object fields, _, _, _, covers => by
      rcases reference_cases isReference with ⟨text, rfl⟩ | ⟨number, rfl⟩ <;> cases covers
  | .resolved _, _, _, derives, _ => by cases derives

/-- The payload with one input that fits is admitted by all mutations of the collection. -/
theorem TakesInput.fits (takes : TakesInput table collection inputs)
    (distinct : (inputs.map Prod.fst).Nodup)
    (nullable : ∀ input ∈ inputs, input.2.isNonNull = false) {type : TypeRef} {value : Value}
    (member : (name, type) ∈ inputs) (fits : Literal.fits table type (.ofJson value) = true)
    (kind : MutationKind) {argument : Argument}
    (isArgument : argument ∈ (mutationField collection kind).arguments) :
    Literal.fits table argument.type (.ofJson (.object [(name, value)])) = true := by
  have isGiven : Literal.fits table (.named (inputName collection.typeName))
      (.ofJson (.object [(name, value)])) = true := by
    have noneRequired (given : List (String × Literal)) :
        Literal.hasRequired given inputs = true := by
      unfold Literal.hasRequired
      rw [List.all_eq_true]
      intro input isInput
      simp [nullable input isInput]
    have isInput := lookup_of_mem distinct member
    simp only [Literal.ofJson, Literal.ofFields]
    rw [Literal.fits]
    simp [takes.registered, noneRequired, Literal.fitsFields, isInput, fits]
  cases kind with
  | create | update =>
      cases List.mem_singleton.mp isArgument
      dsimp only
      simp only [Literal.ofJson, Literal.ofFields] at isGiven ⊢
      rw [Literal.fits]
      exact isGiven
      all_goals simp
  | upsert =>
      cases List.mem_singleton.mp isArgument
      exact isGiven

end ContentGraph.Schema
