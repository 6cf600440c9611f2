import ContentGraph.Proofs.Graph.MentionedFields
import ContentGraph.Proofs.Mutation.Payload
import ContentGraph.Proofs.Shape.ReferenceField
import ContentGraph.Proofs.Shape.Soundness
import Mathlib

/-!
Contract: what the graph name of the reference field is good for.

Owns:
- `find?_contentFields`: the value that a payload holds under a graph name is in the record under
  the content key of that name's field;
- `Collection.reference_kept`: when the graph name leads to the reference field, and that filters
  and payloads then find it;
- `Collection.reference_lost`: a collection in which it leads nowhere.
-/

namespace ContentGraph

open ContentGraph.Json ContentGraph.Filter

/-! ### Payloads -/

/-- The content key that a name in a payload goes to. -/
def contentKey (shape : Shape) (name : String) : String :=
  match shape.field? name with
  | some field => field.sourceKey
  | none => name

section Payload

variable {shape : Shape} {done : Object} {fields : List (String × Value)} {key name : String}
  {value : Value}

/-- A key that no name goes to stays as it is. -/
theorem find?_contentFields_of_other
    (other : ∀ field ∈ fields, contentKey shape field.1 ≠ key) :
    Object.find? (contentFields shape done fields) key = Object.find? done key := by
  induction fields generalizing done with
  | nil => rw [contentFields]
  | cons first rest inductionHypothesis =>
      obtain ⟨name, value⟩ := first
      obtain ⟨notFirst, notRest⟩ := List.forall_mem_cons.mp other
      unfold contentKey at notFirst
      rw [contentFields]
      split
      · next field found =>
          rw [found] at notFirst
          rw [inductionHypothesis notRest, Object.find?_insert_other (Ne.symm notFirst)]
      · next found =>
          rw [found] at notFirst
          rw [inductionHypothesis notRest, Object.find?_insert_other (Ne.symm notFirst)]

/-- A value goes to the content key of its name's field, when no other name of the payload goes
there. -/
theorem find?_contentFields {field : Field} (distinct : (Object.keys fields).Nodup)
    (isField : shape.field? name = some field) (held : Object.find? fields name = some value)
    (only : ∀ other ∈ Object.keys fields, contentKey shape other = field.sourceKey ->
      other = name) :
    Object.find? (contentFields shape done fields) field.sourceKey =
      some (contentValue value field.kind) := by
  induction fields generalizing done with
  | nil => cases held
  | cons first rest inductionHypothesis =>
      obtain ⟨firstName, firstValue⟩ := first
      obtain ⟨isNew, distinctRest⟩ := List.nodup_cons.mp distinct
      obtain ⟨_, onlyRest⟩ := List.forall_mem_cons.mp only
      by_cases same : firstName = name
      · subst same
        rw [Object.find?, if_pos rfl] at held
        cases held
        rw [contentFields, isField]
        dsimp only
        rw [find?_contentFields_of_other, Object.find?_insert_same]
        intro other member goesThere
        have isKey : other.1 ∈ Object.keys rest := List.mem_map_of_mem member
        exact isNew (onlyRest other.1 isKey goesThere ▸ isKey)
      · rw [Object.find?, if_neg same] at held
        rw [contentFields]
        split <;> exact inductionHypothesis distinctRest held onlyRest

/-- Reference values are the same under content keys. -/
theorem contentValue_of_reference (isReference : value.referenceKey?.isSome = true) (kind : Kind) :
    contentValue value kind = value := by
  cases value with
  | string text => cases kind <;> rfl
  | number number => cases kind <;> rfl
  | _ => cases isReference

end Payload

namespace Collection

variable {collection : Collection} {overrides fragments : ResolverTree}
  {transform : FieldTransform} {nodes : List Value}

/-- A payload's reference value gets to the reference field, unless the payload also holds the
content key of that field and this is no graph name. -/
theorem find?_payloadRecord_of_keepsReference
    (wellKeyed : ∀ node ∈ nodes, node.WellKeyed)
    (reduced : Shape.reduce overrides fragments collection.referenceField transform nodes =
      .ok collection.shape)
    (keeps : collection.KeepsReference) {fields : Object} {value : Value}
    (distinct : (Object.keys fields).Nodup)
    (held : Object.find? fields collection.referenceFieldName = some value)
    (isReference : value.referenceKey?.isSome = true)
    (noRawKey : Object.find? fields collection.referenceField = none ∨
      (collection.shape.field? collection.referenceField).isSome = true) :
    ∃ record, collection.payloadRecord (.object fields) = .ok record ∧
      Object.find? record collection.referenceField = some value := by
  obtain ⟨field, found, isSource⟩ := keeps
  have named := (Shape.wellNamed_reduce wellKeyed reduced).1.2
  have only : ∀ other ∈ Object.keys fields,
      contentKey collection.shape other = field.sourceKey ->
        other = collection.referenceFieldName := by
    intro other isKey goesThere
    unfold contentKey at goesThere
    cases isOther : collection.shape.field? other with
    | some second =>
        -- two fields that are read from one key have one name
        rw [isOther] at goesThere
        obtain ⟨inShape, isName⟩ := Shape.mem_of_field? isOther
        obtain ⟨firstInShape, isFirstName⟩ := Shape.mem_of_field? found
        have sameName := (named second inShape).symm.trans
          (goesThere ▸ named field firstInShape)
        rw [← isName, ← isFirstName]
        exact Except.ok.inj sameName
    | none =>
        rw [isOther] at goesThere
        dsimp only at goesThere
        rw [isSource] at goesThere
        subst goesThere
        rcases noRawKey with absent | isName
        · exact absurd isKey (Object.find?_eq_none_iff.mp absent)
        · rw [isOther] at isName
          cases isName
  refine ⟨_, rfl, ?_⟩
  rw [← isSource, find?_contentFields distinct found held only,
    contentValue_of_reference isReference]

/-- The graph name of the reference field leads to that field exactly when the field is not the one
that tells the name of the collection, and no key observed before it gets its name.  Then filters
that mention only what there is report no unknown field, although they always look at the reference
field, and the reference values of payloads get to the reference field. -/
theorem reference_kept (wellKeyed : ∀ node ∈ nodes, node.WellKeyed)
    (reduced : Shape.reduce overrides fragments collection.referenceField transform nodes =
      .ok collection.shape) :
    (collection.KeepsReference ↔ collection.referenceField ≠ "_collection" ∧
      ∀ earlier ∈ (Shape.observed overrides fragments collection.referenceField nodes).names.takeWhile
          (· ≠ collection.referenceField),
        transform.fieldName earlier ≠ transform.fieldName collection.referenceField) ∧
    (collection.KeepsReference ->
      (∀ (graph : Graph) (filter : Value), graph.Quiet ->
        graph.collection collection.name = .ok collection ->
        (∀ entry ∈ manifest filter,
          graph.Mentions entry.path collection.shape collection.relations) ->
        ∀ typeName field,
          graph.passing filter collection.name ≠ .error (.unknownField typeName field)) ∧
      ∀ (fields : Object) (value : Value), (Object.keys fields).Nodup ->
        Object.find? fields collection.referenceFieldName = some value ->
        value.referenceKey?.isSome = true ->
        (Object.find? fields collection.referenceField = none ∨
          (collection.shape.field? collection.referenceField).isSome = true) ->
        ∃ record, collection.payloadRecord (.object fields) = .ok record ∧
          Object.find? record collection.referenceField = some value) := by
  refine ⟨keepsReference_iff wellKeyed reduced, fun keeps => ⟨?_, ?_⟩⟩
  · intro graph filter quiet known mentions
    obtain ⟨field, found, _⟩ := keeps
    exact Graph.known_passing quiet known (Option.isSome_iff_exists.mpr ⟨field, found⟩) mentions
  · intro fields value distinct held isReference noRawKey
    exact find?_payloadRecord_of_keepsReference wellKeyed reduced keeps distinct held isReference
      noRawKey

/-! ### Posts whose reference field is renamed -/

/-- Posts that are identified by a field whose graph name differs from its key. -/
def sampleRenamed (source : String) : Collection where
  entry := { name := "Post", path := "posts", referenceField := "post_id" }
  shape := [
    .mk "postId" source (.scalar .string), .mk "title" "title" (.scalar .string),
    .mk "_filename" "_filename" (.scalar .string), .mk "_path" "_path" (.scalar .string),
    .mk "_slug" "_slug" (.scalar .string)]

/-- Posts with a title under a given key for their id. -/
def sampleIdentified (key id : String) : Value :=
  .object [(key, .string id), ("title", .string "T")]

/-- Asks for posts by their title. -/
def sampleTitle : Value :=
  .object [("title", .object [("eq", .string "T")])]

/-- The graph of such posts. -/
def sampleRenamedGraph (source : String) (nodes : List Value) : Graph where
  collections := [sampleRenamed source]
  store := [("Post", nodes)]

theorem reference_kept_sampleRenamed :
    Shape.reduce [] [] "post_id" .camelCase [sampleIdentified "post_id" "a"] =
        .ok (sampleRenamed "post_id").shape ∧
      (sampleRenamed "post_id").KeepsReference ∧
      (∀ typeName field,
        (sampleRenamedGraph "post_id" [sampleIdentified "post_id" "a"]).passing sampleTitle "Post" ≠
          .error (.unknownField typeName field)) ∧
      ∃ record, (sampleRenamed "post_id").payloadRecord (sampleIdentified "postId" "b") =
          .ok record ∧ Object.find? record "post_id" = some (.string "b") := by
  have reduced : Shape.reduce [] [] (sampleRenamed "post_id").referenceField .camelCase
      [sampleIdentified "post_id" "a"] = .ok (sampleRenamed "post_id").shape := by
    with_unfolding_all rfl
  have wellKeyed : ∀ node ∈ [sampleIdentified "post_id" "a"], node.WellKeyed := by
    simp [sampleIdentified, Value.WellKeyed, Value.WellKeyedFields]
  obtain ⟨isKept, useful⟩ := reference_kept wellKeyed reduced
  have keeps : (sampleRenamed "post_id").KeepsReference := by
    refine isKept.mpr ⟨by decide, ?_⟩
    have first : (Shape.observed [] [] "post_id" [sampleIdentified "post_id" "a"]).names.takeWhile
        (· ≠ "post_id") = [] := by
      with_unfolding_all rfl
    intro earlier member
    rw [show (sampleRenamed "post_id").referenceField = "post_id" from rfl, first] at member
    cases member
  obtain ⟨filters, payloads⟩ := useful keeps
  refine ⟨reduced, keeps, ?_, ?_⟩
  · refine filters (sampleRenamedGraph "post_id" _) sampleTitle ?_ rfl ?_
    · rintro collection member
      cases List.mem_singleton.mp member
      simp [sampleRenamed, Kind.Every, Kind.EveryField, Kind.Quiet]
    · rintro entry member
      cases List.mem_singleton.mp member
      exact .inr ⟨_, rfl, .inl rfl⟩
  · exact payloads [("postId", .string "b"), ("title", .string "T")] (.string "b") (by decide) rfl rfl
      (.inl rfl)

/-- Where an earlier key gets the graph name of the reference field, no name leads to that field.
The filter, which mentions a field of the shape, fails for a field that it does not mention, and a
payload's reference value does not get to the reference field. -/
theorem reference_lost :
    Shape.reduce [] [] "post_id" .camelCase
        [sampleIdentified "postId" "a", sampleIdentified "post_id" "b"] =
        .ok (sampleRenamed "postId").shape ∧
      (sampleRenamed "postId").referenceFieldName = "post_id" ∧
      (sampleRenamed "postId").shape.field? "post_id" = none ∧
      (sampleRenamedGraph "postId"
        [sampleIdentified "postId" "a", sampleIdentified "post_id" "b"]).passing sampleTitle "Post" =
        .error (.unknownField "Post" "post_id") ∧
      ∃ record, (sampleRenamed "postId").payloadRecord (sampleIdentified "postId" "b") =
          .ok record ∧ Object.find? record "post_id" = none := by
  refine ⟨by with_unfolding_all rfl, by decide, rfl, by cbv, _, rfl, by decide⟩

end Collection

end ContentGraph
