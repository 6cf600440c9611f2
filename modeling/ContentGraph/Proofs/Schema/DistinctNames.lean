import ContentGraph.Proofs.Schema.TypeFields

/-!
Contract: which names the building of a schema hands to the engine.

Owns:
- `assemble`, which gives the root fields and the types that are handed over;
- `HandsDistinct`, that no name is handed over twice: no type is given two fields of one name, and
  no two registered types have one name;
- `Apart`, the names of collections that do not fall together, and `handsDistinct_iff`: names of
  nested types, of relations, of mutations and of nested fields never fall together, so that these
  are the only ones that matter.

Does not own: where the names of collections and of their fields come from.
-/

namespace ContentGraph.Schema

open Kind (Every DistinctNames)

variable {collections done : List Collection} {collection : Collection} {parts next : Parts}
  {draft after : TypeDraft} {fields own : List FieldDef} {owned : List String} {typeName : String}

/-! ### What is handed over -/

/-- The root fields and the types of collections, before they are registered. -/
def assemble (collections : List Collection) : Except BuildProblem Parts :=
  collections.foldlM Parts.add { draft := .start collections }

/-- A type was given two fields of one name. -/
def Clashes {Outcome : Type} (outcome : Except BuildProblem Outcome) : Prop :=
  ∃ typeName field, outcome = .error (.fieldClash typeName field)

/-- No type has two fields of one name, and no type is registered under the name of another one or
under that of a scalar of the engine. -/
structure Parts.Distinct (parts : Parts) : Prop where
  query : (parts.query.map FieldDef.name).Nodup
  mutation : (parts.mutation.map FieldDef.name).Nodup
  fields : FieldsDistinct parts.draft
  types : (systemScalars ++ parts.registrations.map Prod.fst).Nodup

/-- Building the schema of collections never hands the engine two things of one name. -/
def HandsDistinct (collections : List Collection) : Prop :=
  ¬ Clashes (build collections) ∧ ∀ parts, assemble collections = .ok parts -> parts.Distinct

/-! ### Names that are apart -/

/-- The types that are there without any collection. -/
def reservedTypes : List String :=
  systemScalars ++ [jsonScalar, orderEnum, queryRoot, mutationRoot]

/-- The types of a collection under the names that are reserved for it: its own type, and its input
type where it has one. -/
def ownTypes (collection : Collection) : List String :=
  if (contentFields collection).any fun field => hasInput field.kind then
    [collection.typeName, inputName collection.typeName]
  else [collection.typeName]

/-- The names that come from collections do not fall together: those of their root fields, those of
their types, and the added field with the others of a type. -/
structure Apart (collections : List Collection) : Prop where
  roots : (collections.flatMap fun collection =>
    [collection.typeName, "all" ++ collection.plural]).Nodup
  fields : ∀ collection ∈ collections, "_collection" ∉ collection.shape.names
  types : (reservedTypes ++ collections.flatMap ownTypes).Nodup

/-! ### Clashes -/

theorem not_clashes_ok {Outcome : Type} (outcome : Outcome) :
    ¬ Clashes (.ok outcome : Except BuildProblem Outcome) := by
  rintro ⟨_, _, isClash⟩
  cases isClash

theorem not_clashes_failed {Outcome : Type} (failure : Failure) :
    ¬ Clashes (.error (.failed failure) : Except BuildProblem Outcome) := by
  rintro ⟨_, _, isClash⟩
  cases isClash

theorem not_clashes_bind {Source Target : Type} {step : Except BuildProblem Source}
    {next : Source -> Except BuildProblem Target} (first : ¬ Clashes step)
    (rest : ∀ source, step = .ok source -> ¬ Clashes (next source)) :
    ¬ Clashes (step >>= next) := by
  rintro ⟨typeName, field, isClash⟩
  rcases bind_eq_error.mp isClash with isFirst | ⟨source, isSource, isRest⟩
  · exact first ⟨typeName, field, isFirst⟩
  · exact rest source isSource ⟨typeName, field, isRest⟩

/-- Only while collections are added can fields clash. -/
theorem clashes_build_iff : Clashes (build collections) ↔ Clashes (assemble collections) := by
  have isBuild : build collections = assemble collections >>= fun parts =>
      if parts.table.isSound then .ok parts.table else .error (.failed (.graph .engine)) := rfl
  constructor
  · intro clashes
    by_contra none
    refine not_clashes_bind none (fun parts _ => ?_) (isBuild ▸ clashes)
    split
    · exact not_clashes_ok _
    · exact not_clashes_failed _
  · rintro ⟨typeName, field, isClash⟩
    exact ⟨typeName, field, by rw [isBuild, isClash]; rfl⟩

/-- Fields of distinct names are added one after another. -/
theorem addFields_of_distinct (distinct : ((fields ++ own).map FieldDef.name).Nodup) :
    own.foldlM (addField typeName) fields = .ok (fields ++ own) := by
  induction own generalizing fields with
  | nil => rw [List.append_nil]; rfl
  | cons first rest inductionHypothesis =>
      have isFree : ¬ (fields.any fun other => other.name = first.name) = true := by
        rw [List.map_append, List.map_cons, List.nodup_append] at distinct
        simpa using fun other member same =>
          distinct.2.2 _ (List.mem_map_of_mem member) _ List.mem_cons_self same
      rw [List.append_cons] at distinct ⊢
      rw [List.foldlM_cons, addField, if_neg isFree]
      exact inductionHypothesis distinct

theorem collectionFields_not_clashes {shape : Shape}
    (distinct : (fields.map FieldDef.name ++ shape.names).Nodup) :
    ¬ Clashes (collectionFields collection fields draft shape) := by
  induction shape generalizing fields draft with
  | nil => exact not_clashes_ok _
  | cons field rest inductionHypothesis =>
      rw [collectionFields]
      split
      · exact not_clashes_failed _
      · next added middle derived =>
          obtain ⟨_, definition, rfl, defines⟩ := collectionField_ok derived
          have isName : definition.name = field.name := (defines _ fun _ isType => isType).name_eq
          have distinctRest :
              ((fields ++ [definition]).map FieldDef.name ++ Shape.names rest).Nodup := by
            rw [List.map_append, List.append_assoc, List.map_singleton, isName]
            exact distinct
          rw [addFields_of_distinct distinctRest.of_append_left]
          exact inductionHypothesis distinctRest

theorem addCollection_not_clashes (distinct : "_collection" ∉ collection.shape.names)
    (named : collection.shape.names.Nodup) : ¬ Clashes (draft.addCollection collection) := by
  refine not_clashes_bind (collectionFields_not_clashes (List.nodup_cons.mpr ⟨distinct, named⟩)) ?_
  rintro ⟨fields, middle⟩ _
  dsimp only
  split <;> exact not_clashes_ok _

/-! ### One collection -/

theorem Parts.add_ok (added : parts.add collection = .ok next) :
    parts.draft.addCollection collection = .ok next.draft ∧
      next.query = parts.query ++ queryFields collection ∧
      next.mutation = parts.mutation ++ mutationFields collection := by
  simp only [Parts.add, bind_eq_ok] at added
  obtain ⟨draft, addedTypes, query, addedQuery, mutation, addedMutation, isNext⟩ := added
  cases isNext
  exact ⟨addedTypes, (addFields_ok addedQuery).1, (addFields_ok addedMutation).1⟩

theorem Parts.add_not_clashes (distinct : "_collection" ∉ collection.shape.names)
    (named : collection.shape.names.Nodup)
    (query : ((parts.query ++ queryFields collection).map FieldDef.name).Nodup)
    (mutation : ((parts.mutation ++ mutationFields collection).map FieldDef.name).Nodup) :
    ¬ Clashes (parts.add collection) := by
  refine not_clashes_bind (addCollection_not_clashes distinct named) fun draft _ => ?_
  rw [addFields_of_distinct query, addFields_of_distinct mutation]
  exact not_clashes_ok _

/-- The input type of a collection is left out when no field of its content has an input. -/
theorem ownTypes_eq {inputs : List (String × TypeRef)} {described last : TypeDraft}
    (derived : inputFields collection.typeName described (contentFields collection) =
      (inputs, last)) :
    ownTypes collection =
      if inputs = [] then [collection.typeName]
      else [collection.typeName, inputName collection.typeName] := by
  have names := names_inputFields (contentFields collection) collection.typeName described
  rw [derived] at names
  unfold ownTypes
  split
  · next given =>
      rw [if_neg]
      rintro rfl
      have noInput := List.filter_eq_nil_iff.mp (List.map_eq_nil_iff.mp names.symm)
      obtain ⟨field, member, isGiven⟩ := List.any_eq_true.mp given
      exact noInput field member isGiven
  · next noInput =>
      rw [if_pos]
      rw [Bool.not_eq_true, List.any_eq_false] at noInput
      rw [List.filter_eq_nil_iff.mpr noInput] at names
      exact List.map_eq_nil_iff.mp names

/-! ### Names of types -/

/-- The names of the types of a draft. -/
def typeNames (draft : TypeDraft) : List String :=
  draft.objects.map Prod.fst ++ draft.inputs.map Prod.fst

theorem typeNames_grow (grows : Grows draft after) :
    ∃ added, Took draft.names after.names added ∧
      List.Perm (typeNames after) (typeNames draft ++ added) := by
  obtain ⟨objects, inputs, isObjects, isInputs, took⟩ := grows.types
  refine ⟨_, took, ?_⟩
  rw [typeNames, typeNames, isObjects, isInputs, List.map_append, List.map_append,
    List.append_assoc, List.append_assoc]
  exact (List.perm_append_comm_assoc _ _ _).append_left _

theorem typeNames_addObject (name : String) :
    List.Perm (typeNames { draft with objects := draft.objects ++ [(name, fields)] })
      (name :: typeNames draft) := by
  rw [typeNames, List.map_append, List.append_assoc]
  exact List.perm_middle

theorem typeNames_addInput (name : String) {inputs : List (String × TypeRef)} :
    List.Perm (typeNames { draft with inputs := draft.inputs ++ [(name, inputs)] })
      (name :: typeNames draft) := by
  rw [typeNames, List.map_append, ← List.append_assoc]
  exact List.perm_append_singleton _ _

/-- The types of a draft have the given names, and nested ones of their own that no collection has
reserved. -/
structure Registers (collections : List Collection) (owned : List String) (draft : TypeDraft) :
    Prop where
  reserved : (TypeDraft.start collections).names ⊆ draft.names
  types : ∃ nested, Took (TypeDraft.start collections).names draft.names nested ∧
    List.Perm (typeNames draft) (owned ++ nested)

namespace Registers

theorem start (collections : List Collection) :
    Registers collections [] (TypeDraft.start collections) where
  reserved _ member := member
  types := ⟨[], ⟨List.nodup_nil, List.forall_mem_nil _, List.nil_subset _⟩, .nil⟩

theorem grow (registers : Registers collections owned draft) (grows : Grows draft after) :
    Registers collections owned after := by
  obtain ⟨nested, tookNested, same⟩ := registers.types
  obtain ⟨added, took, grown⟩ := typeNames_grow grows
  refine ⟨fun _ member => grows.names (registers.reserved member), nested ++ added,
    tookNested.append took registers.reserved grows.names, ?_⟩
  rw [← List.append_assoc]
  exact grown.trans (same.append_right added)

private theorem add {name : String} {names nested : List String}
    (same : List.Perm names (owned ++ nested)) :
    List.Perm (name :: names) (owned ++ [name] ++ nested) := by
  rw [← List.append_cons]
  exact (same.cons name).trans List.perm_middle.symm

theorem addObject (registers : Registers collections owned draft) (name : String)
    (fields : List FieldDef) :
    Registers collections (owned ++ [name])
      { draft with objects := draft.objects ++ [(name, fields)] } := by
  obtain ⟨nested, took, same⟩ := registers.types
  exact ⟨registers.reserved, nested, took, (typeNames_addObject name).trans (add same)⟩

theorem addInput (registers : Registers collections owned draft) (name : String)
    (inputs : List (String × TypeRef)) :
    Registers collections (owned ++ [name])
      { draft with inputs := draft.inputs ++ [(name, inputs)] } := by
  obtain ⟨nested, took, same⟩ := registers.types
  exact ⟨registers.reserved, nested, took, (typeNames_addInput name).trans (add same)⟩

theorem addCollection (registers : Registers collections owned draft)
    (added : draft.addCollection collection = .ok after) :
    Registers collections (owned ++ ownTypes collection) after := by
  obtain ⟨fields, middle, inputs, last, derived, derivedInputs, isAfter⟩ := addCollection_ok added
  have withType := (registers.grow (collectionFields_ok derived).1).addObject
    collection.typeName fields
  have growsInputs := inputFields_grows (contentFields collection) collection.typeName
    { middle with objects := middle.objects ++ [(collection.typeName, fields)] }
  rw [derivedInputs] at growsInputs
  rw [ownTypes_eq derivedInputs]
  rcases isAfter with ⟨noInput, rfl⟩ | ⟨hasInputs, rfl⟩
  · rw [if_pos noInput]
    exact withType.grow growsInputs
  · rw [if_neg hasInputs, List.append_cons]
    exact (withType.grow growsInputs).addInput _ _

/-- Nested types never fall together with others, so that the given names decide. -/
theorem nodup_iff (registers : Registers collections owned draft)
    (areOwned : owned ⊆ (TypeDraft.start collections).names) :
    (reservedTypes ++ typeNames draft).Nodup ↔ (reservedTypes ++ owned).Nodup := by
  obtain ⟨nested, took, same⟩ := registers.types
  have areReserved : reservedTypes ++ owned ⊆ (TypeDraft.start collections).names := by
    refine List.append_subset.mpr ⟨fun name member => List.mem_append_left _ ?_, areOwned⟩
    revert member
    revert name
    decide
  -- nested names were free when all names of collections were taken
  rw [(same.append_left reservedTypes).nodup_iff, ← List.append_assoc, List.nodup_append]
  constructor
  · exact fun distinct => distinct.1
  · refine fun distinct => ⟨distinct, took.distinct, fun name isOld other isNested same => ?_⟩
    exact took.free other isNested (same ▸ areReserved isOld)

end Registers

/-! ### Fields of types -/

theorem collectionFields_fieldsDistinct {shape : Shape} {all : List FieldDef}
    (named : ∀ field ∈ shape, Every DistinctNames field.kind) (distinct : FieldsDistinct draft)
    (derived : collectionFields collection fields draft shape = .ok (all, after)) :
    FieldsDistinct after := by
  induction shape generalizing fields draft with
  | nil =>
      cases derived
      exact distinct
  | cons field rest inductionHypothesis =>
      rw [collectionFields] at derived
      split at derived
      · cases derived
      · next added middle derivedFirst =>
          obtain ⟨extended, _, derivedRest⟩ := bind_eq_ok.mp derived
          obtain ⟨namedFirst, namedRest⟩ := List.forall_mem_cons.mp named
          refine inductionHypothesis namedRest ?_ derivedRest
          unfold collectionField at derivedFirst
          split at derivedFirst
          · cases derivedFirst
            exact distinct
          · exact outputFields_fieldsDistinct [field]
              (Kind.everyField_iff.mpr (List.forall_mem_singleton.mpr namedFirst)) distinct
              derivedFirst

theorem names_collectionFields {all : List FieldDef}
    (derived : collectionFields collection [collectionNameField collection] draft
      collection.shape = .ok (all, after)) :
    all.map FieldDef.name = "_collection" :: collection.shape.names := by
  obtain ⟨_, own, rfl, defines⟩ := collectionFields_ok derived
  rw [List.map_append, names_of_defines (defines _ fun _ isType => isType)]
  rfl

theorem addCollection_fieldsDistinct
    (named : Every DistinctNames (.object collection.shape))
    (apart : "_collection" ∉ collection.shape.names) (distinct : FieldsDistinct draft)
    (added : draft.addCollection collection = .ok after) : FieldsDistinct after := by
  obtain ⟨fields, middle, inputs, last, derived, derivedInputs, isAfter⟩ := addCollection_ok added
  have namedContent := Kind.invariant_distinctNames.every_filter
    (fun field => !metadataFields.contains field.sourceKey) named
  have inside := collectionFields_fieldsDistinct (Kind.every_object_iff.mp named).2 distinct derived
  have isOwn : (fields.map FieldDef.name).Nodup := by
    rw [names_collectionFields derived]
    exact List.nodup_cons.mpr ⟨apart, named.1⟩
  have distinctInputs := inputFields_fieldsDistinct (contentFields collection) collection.typeName
    namedContent.2 (@FieldsDistinct.addObject _ collection.typeName inside _ isOwn)
  have isInput := nodup_inputFields collection.typeName
    { middle with objects := middle.objects ++ [(collection.typeName, fields)] } namedContent.1
  rw [show collection.shape.filter _ = contentFields collection from rfl] at isInput
  rw [derivedInputs] at distinctInputs isInput
  rcases isAfter with ⟨_, rfl⟩ | ⟨_, rfl⟩
  · exact distinctInputs
  · exact distinctInputs.addInput isInput

/-- A collection's type joins the types that are there, with the added field before those of its
shape. -/
theorem objects_of_addCollection (added : draft.addCollection collection = .ok after) :
    draft.objects ⊆ after.objects ∧ ∃ fields, (collection.typeName, fields) ∈ after.objects ∧
      fields.map FieldDef.name = "_collection" :: collection.shape.names := by
  obtain ⟨fields, middle, inputs, last, derived, derivedInputs, isAfter⟩ := addCollection_ok added
  have growsInputs := inputFields_grows (contentFields collection) collection.typeName
    { middle with objects := middle.objects ++ [(collection.typeName, fields)] }
  rw [derivedInputs] at growsInputs
  have sameObjects : after.objects = last.objects := by
    rcases isAfter with ⟨_, rfl⟩ | ⟨_, rfl⟩ <;> rfl
  rw [sameObjects]
  have later := growsInputs.objects_subset
  refine ⟨fun _ member => later ?_, fields, later ?_, names_collectionFields derived⟩
  · exact List.mem_append_left _ ((collectionFields_ok derived).1.objects_subset member)
  · exact List.mem_append_right _ List.mem_cons_self

/-! ### All collections -/

/-- What is assembled of some of the collections. -/
structure Assembled (collections done : List Collection) (parts : Parts) : Prop where
  query : parts.query = done.flatMap queryFields
  mutation : parts.mutation = done.flatMap mutationFields
  types : Registers collections (done.flatMap ownTypes) parts.draft
  objects : ∀ collection ∈ done, ∃ fields, (collection.typeName, fields) ∈ parts.draft.objects ∧
    fields.map FieldDef.name = "_collection" :: collection.shape.names
  distinct : (∀ collection ∈ done, Every DistinctNames (.object collection.shape) ∧
    "_collection" ∉ collection.shape.names) -> FieldsDistinct parts.draft

namespace Assembled

theorem add (assembled : Assembled collections done parts)
    (added : parts.add collection = .ok next) :
    Assembled collections (done ++ [collection]) next := by
  obtain ⟨addedTypes, query, mutation⟩ := Parts.add_ok added
  obtain ⟨kept, isType⟩ := objects_of_addCollection addedTypes
  constructor
  case query => rw [query, assembled.query, List.flatMap_append, List.flatMap_singleton]
  case mutation => rw [mutation, assembled.mutation, List.flatMap_append, List.flatMap_singleton]
  case types =>
    rw [List.flatMap_append, List.flatMap_singleton]
    exact assembled.types.addCollection addedTypes
  case objects =>
    refine List.forall_mem_append.mpr ⟨fun other isDone => ?_, List.forall_mem_singleton.mpr isType⟩
    obtain ⟨fields, isOther, names⟩ := assembled.objects other isDone
    exact ⟨fields, kept isOther, names⟩
  case distinct =>
    intro apart
    obtain ⟨areApart, isApart⟩ := List.forall_mem_append.mp apart
    obtain ⟨named, noAdded⟩ := List.forall_mem_singleton.mp isApart
    exact addCollection_fieldsDistinct named noAdded (assembled.distinct areApart) addedTypes

theorem addAll {added : List Collection} {last : Parts}
    (assembled : Assembled collections done parts)
    (folded : added.foldlM Parts.add parts = .ok last) :
    Assembled collections (done ++ added) last := by
  induction added generalizing done parts with
  | nil =>
      cases folded
      rw [List.append_nil]
      exact assembled
  | cons first rest inductionHypothesis =>
      rw [List.foldlM_cons, bind_eq_ok] at folded
      obtain ⟨next, addedFirst, foldedRest⟩ := folded
      rw [List.append_cons]
      exact inductionHypothesis (assembled.add addedFirst) foldedRest

end Assembled

theorem assembled_of_assemble (isParts : assemble collections = .ok parts) :
    Assembled collections collections parts := by
  have start : Assembled collections [] { draft := .start collections } :=
    ⟨rfl, rfl, .start collections, List.forall_mem_nil _,
      fun _ => ⟨List.forall_mem_nil _, List.forall_mem_nil _⟩⟩
  exact start.addAll isParts

/-- The name of a mutation tells its kind and its type, as the words of all kinds are of one
length. -/
private theorem mutationField_injective {left right : MutationKind} {mine theirs : Collection}
    (same : (mutationField mine left).name = (mutationField theirs right).name) :
    left = right ∧ mine.typeName = theirs.typeName := by
  have sixLetters : ∀ kind : MutationKind, kind.word.toList.length = 6 := by
    intro kind
    cases kind <;> simp [MutationKind.word]
  have chars : (left.word ++ mine.typeName).toList = (right.word ++ theirs.typeName).toList :=
    congrArg String.toList same
  rw [String.toList_append, String.toList_append] at chars
  obtain ⟨sameWord, sameType⟩ := List.append_inj chars (by rw [sixLetters, sixLetters])
  refine ⟨?_, String.toList_inj.mp sameType⟩
  cases left <;> cases right <;> first | rfl | exact absurd sameWord (by decide)

/-- Mutations of different types have different names. -/
theorem nodup_mutationFields
    (apart : collections.Pairwise fun left right => left.typeName ≠ right.typeName) :
    ((collections.flatMap mutationFields).map FieldDef.name).Nodup := by
  rw [List.map_flatMap, List.nodup_flatMap]
  constructor
  · intro collection _
    simp only [mutationFields, List.map_map]
    exact List.Nodup.map (fun _ _ same => (mutationField_injective same).1) (by decide)
  · refine apart.imp fun {mine theirs} differ name inMine inTheirs => ?_
    simp only [mutationFields, List.map_map] at inMine inTheirs
    obtain ⟨_, _, rfl⟩ := List.mem_map.mp inMine
    obtain ⟨_, _, same⟩ := List.mem_map.mp inTheirs
    exact differ (mutationField_injective same).2.symm

theorem Apart.typeNames (apart : Apart collections) :
    collections.Pairwise fun left right => left.typeName ≠ right.typeName := by
  refine (List.nodup_flatMap.mp apart.roots).2.imp fun {left right} disjoint same => ?_
  have isLeft : left.typeName ∈ [left.typeName, "all" ++ left.plural] := List.mem_cons_self
  exact disjoint isLeft (same ▸ List.mem_cons_self)

/-- Where the names of collections are apart, no field clashes with another while they are added. -/
theorem assemble_not_clashes
    (named : ∀ collection ∈ collections, collection.shape.names.Nodup)
    (apart : Apart collections) : ¬ Clashes (assemble collections) := by
  -- what is still to be added must not meet what is there, so both stand in the statement
  suffices run : ∀ (added : List Collection) (parts : Parts), added ⊆ collections ->
      ((parts.query ++ added.flatMap queryFields).map FieldDef.name).Nodup ->
      ((parts.mutation ++ added.flatMap mutationFields).map FieldDef.name).Nodup ->
      ¬ Clashes (added.foldlM Parts.add parts) by
    refine run collections _ (fun _ member => member) ?_ (nodup_mutationFields apart.typeNames)
    rw [List.nil_append, List.map_flatMap]
    exact apart.roots
  intro added
  induction added with
  | nil =>
      intro parts _ _ _
      exact not_clashes_ok parts
  | cons first rest inductionHypothesis =>
      intro parts members query mutation
      obtain ⟨isFirst, areRest⟩ := List.cons_subset.mp members
      rw [List.flatMap_cons, ← List.append_assoc] at query mutation
      rw [List.foldlM_cons]
      refine not_clashes_bind ?_ fun next addedFirst => ?_
      · refine Parts.add_not_clashes (apart.fields first isFirst) (named first isFirst) ?_ ?_
        · exact (List.map_append ▸ query).of_append_left
        · exact (List.map_append ▸ mutation).of_append_left
      · obtain ⟨_, isQuery, isMutation⟩ := Parts.add_ok addedFirst
        exact inductionHypothesis next areRest (isQuery ▸ query) (isMutation ▸ mutation)

theorem registrations_names (parts : Parts) :
    systemScalars ++ parts.registrations.map Prod.fst =
      reservedTypes ++ typeNames parts.draft := by
  simp [Parts.registrations, reservedTypes, typeNames, Function.comp_def]

theorem ownTypes_subset : collections.flatMap ownTypes ⊆ (TypeDraft.start collections).names := by
  intro name member
  obtain ⟨collection, isCollection, isOwn⟩ := List.mem_flatMap.mp member
  refine List.mem_append_right _ (List.mem_flatMap.mpr ⟨collection, isCollection, ?_⟩)
  unfold ownTypes at isOwn
  split at isOwn
  · exact isOwn
  · exact List.mem_cons.mpr (.inl (List.mem_singleton.mp isOwn))

/-- The parts of collections have distinct names exactly where the collections are apart. -/
theorem distinct_iff
    (named : ∀ collection ∈ collections, Every DistinctNames (.object collection.shape))
    (isParts : assemble collections = .ok parts) : parts.Distinct ↔ Apart collections := by
  have assembled := assembled_of_assemble isParts
  have types := assembled.types.nodup_iff ownTypes_subset
  have query : parts.query.map FieldDef.name = collections.flatMap fun collection =>
      [collection.typeName, "all" ++ collection.plural] := by
    rw [assembled.query, List.map_flatMap]
    rfl
  constructor
  · intro distinct
    refine ⟨query ▸ distinct.query, fun collection member isAdded => ?_,
      types.mp (registrations_names parts ▸ distinct.types)⟩
    obtain ⟨fields, isType, names⟩ := assembled.objects collection member
    have isDistinct := distinct.fields.objects _ isType
    rw [names] at isDistinct
    exact (List.nodup_cons.mp isDistinct).1 isAdded
  · intro apart
    constructor
    case query => exact query ▸ apart.roots
    case mutation => exact assembled.mutation ▸ nodup_mutationFields apart.typeNames
    case fields =>
      exact assembled.distinct fun collection member =>
        ⟨named collection member, apart.fields collection member⟩
    case types => exact registrations_names parts ▸ types.mpr apart.types

/-! ### Registrations -/

private theorem register_of_absent {table : TypeTable} {name : String} (definition : TypeDef)
    (absent : name ∉ table.map Prod.fst) :
    TypeTable.register table name definition = table ++ [(name, definition)] := by
  induction table with
  | nil => rfl
  | cons entry rest inductionHypothesis =>
      obtain ⟨other, old⟩ := entry
      rw [List.map_cons, List.mem_cons, not_or] at absent
      rw [TypeTable.register, if_neg (Ne.symm absent.1), inductionHypothesis absent.2]
      rfl

private theorem registerAll_of_distinct {entries : List (String × TypeDef)} {table : TypeTable}
    (distinct : ((table ++ entries).map Prod.fst).Nodup) :
    entries.foldl (fun table (name, definition) => TypeTable.register table name definition)
      table = table ++ entries := by
  induction entries generalizing table with
  | nil => rw [List.append_nil]; rfl
  | cons entry rest inductionHypothesis =>
      obtain ⟨name, definition⟩ := entry
      have absent : name ∉ table.map Prod.fst := fun isOld => by
        rw [List.map_append, List.nodup_append] at distinct
        exact distinct.2.2 name isOld name List.mem_cons_self rfl
      rw [List.append_cons] at distinct ⊢
      have isAdded := register_of_absent definition absent
      rw [List.foldl_cons]
      dsimp only
      rw [isAdded]
      exact inductionHypothesis distinct

/-- Where names are distinct, the table holds every type as it was registered: none has taken the
place of another. -/
theorem table_of_distinct (distinct : parts.Distinct) : parts.table = parts.registrations :=
  registerAll_of_distinct distinct.types.of_append_right

/-! ### Distinct names -/

/-- Where no name comes twice in a shape, building hands no name over twice exactly where the names
of the collections are apart, unless a declared type cannot be read. -/
theorem handsDistinct_iff
    (named : ∀ collection ∈ collections, Every DistinctNames (.object collection.shape)) :
    HandsDistinct collections ↔
      (∃ failure, assemble collections = .error (.failed failure)) ∨ Apart collections := by
  have noClash : Apart collections -> ¬ Clashes (assemble collections) :=
    assemble_not_clashes fun collection member => (named collection member).1
  rw [HandsDistinct, clashes_build_iff]
  cases isAssembled : assemble collections with
  | error problem =>
      rw [isAssembled] at noClash
      cases problem with
      | failed failure =>
          exact ⟨fun _ => .inl ⟨failure, rfl⟩, fun _ => ⟨not_clashes_failed failure, nofun⟩⟩
      | fieldClash typeName field =>
          constructor
          · exact fun hands => absurd ⟨typeName, field, rfl⟩ hands.1
          · rintro (⟨_, isFailed⟩ | apart)
            · cases isFailed
            · exact absurd ⟨typeName, field, rfl⟩ (noClash apart)
  | ok parts =>
      have distinct := distinct_iff named isAssembled
      constructor
      · exact fun hands => .inr (distinct.mp (hands.2 parts rfl))
      · rintro (⟨_, isFailed⟩ | apart)
        · cases isFailed
        · refine ⟨not_clashes_ok parts, fun others same => ?_⟩
          cases same
          exact distinct.mpr apart

end ContentGraph.Schema
