import ContentGraph.Proofs.Schema.TypeDraft
import ContentGraph.Schema.Build

/-!
Contract: the object types of a built schema.

Owns:
- `Defines`, the definition of one field of a collection's type or of a nested one;
- `Settled`, what the draft holds after some of the collections: every object type has a name of
  its own, and every collection added so far has its type;
- `exists_types_of_build`: the table of a built schema has the types of its collections and the
  types nested in them, each field as the shape and the relations say;
- `exists_objectFields?_of_isOutput`: a collection type that can be that of a field is not hidden;
- `find?_of_scalar`: a scalar that no object type hides is one in the table.
-/

namespace ContentGraph.Schema

variable {types : List (String × List FieldDef)} {relations : List Relation}
  {collections done : List Collection} {collection : Collection} {draft after : TypeDraft}
  {fields own : List FieldDef} {name : String} {table : TypeTable}

/-! ### Fields -/

/-- The definition of a field: that of its relation where it has one, else that of its kind. -/
inductive Defines (types : List (String × List FieldDef)) (relations : List Relation)
    (field : Field) : FieldDef -> Prop where
  | relation {relation : Relation}
      (isRelation : Collection.relation? relations field.name = some relation) :
      Defines types relations field (relationField relation)
  | data {arguments : List Argument} {type : TypeRef}
      (noRelation : Collection.relation? relations field.name = none)
      (areArguments : kindArguments field.kind = .ok arguments)
      (describes : Describes types field.kind type) :
      Defines types relations field
        ⟨field.name, arguments, type, .data field.sourceKey (fieldKind field.kind)⟩

theorem Defines.name_eq {field : Field} {definition : FieldDef}
    (defines : Defines types relations field definition) : definition.name = field.name := by
  cases defines with
  | relation isRelation =>
      have isField := List.find?_some isRelation
      rw [← of_decide_eq_true isField]
      unfold relationField
      split <;> rfl
  | data => rfl

theorem DescribesFields.defines {shape : Shape} (describes : DescribesFields types shape fields) :
    List.Forall₂ (Defines types []) shape fields := by
  induction shape generalizing fields with
  | nil =>
      cases describes
      exact .nil
  | cons first rest inductionHypothesis =>
      cases describes with
      | cons areArguments describes describesRest =>
          exact .cons (.data rfl areArguments describes) (inductionHypothesis describesRest)

/-- The field that a definition is found for. -/
theorem exists_field_of_find? {shape : Shape} {definition : FieldDef}
    (defines : List.Forall₂ (Defines types relations) shape fields)
    (found : fields.find? (fun field => field.name = name) = some definition) :
    ∃ field, shape.field? name = some field ∧ field.name = name ∧
      Defines types relations field definition := by
  induction defines with
  | nil => cases found
  | @cons field first rest others definesFirst _ inductionHypothesis =>
      by_cases same : first.name = name
      · rw [List.find?_cons_of_pos (by simpa using same)] at found
        cases found
        have isName : field.name = name := definesFirst.name_eq ▸ same
        exact ⟨field, by rw [Shape.field?, if_pos isName], isName, definesFirst⟩
      · rw [List.find?_cons_of_neg (by simpa using same)] at found
        obtain ⟨other, isFound, isName, definesOther⟩ := inductionHypothesis found
        have notFirst : field.name ≠ name := definesFirst.name_eq ▸ same
        exact ⟨other, by rw [Shape.field?, if_neg notFirst, isFound], isName, definesOther⟩

/-! ### Types of collections -/

theorem collectionField_ok {field : Field}
    (derived : collectionField collection draft field = .ok (own, after)) :
    Grows draft after ∧ ∃ definition, own = [definition] ∧
      ∀ types, after.objects ⊆ types -> Defines types collection.relations field definition := by
  unfold collectionField at derived
  split at derived
  · next relation isRelation =>
      cases derived
      exact ⟨.refl _, relationField relation, rfl, fun _ _ => .relation isRelation⟩
  · next noRelation =>
      obtain ⟨grows, describes⟩ := outputFields_ok [field] derived
      obtain ⟨name, sourceKey, kind⟩ := field
      simp only [outputFields, bind_eq_ok] at derived
      obtain ⟨⟨type, middle⟩, derivedType, arguments, areArguments, ⟨others, last⟩, isRest,
        isOwn⟩ := derived
      cases isRest
      cases isOwn
      refine ⟨grows, _, rfl, fun types known => .data noRelation areArguments ?_⟩
      exact (outputType_ok kind derivedType).2 types known

/-- Fields are only added under new names, behind those that are there. -/
theorem addFields_ok {typeName : String} {all : List FieldDef}
    (added : own.foldlM (addField typeName) fields = .ok all) :
    all = fields ++ own ∧ ∀ field ∈ own, ∀ other ∈ fields, other.name ≠ field.name := by
  induction own generalizing fields with
  | nil =>
      cases added
      exact ⟨(List.append_nil _).symm, List.forall_mem_nil _⟩
  | cons first rest inductionHypothesis =>
      rw [List.foldlM_cons, bind_eq_ok] at added
      obtain ⟨extended, addedFirst, addedRest⟩ := added
      unfold addField at addedFirst
      split at addedFirst
      · cases addedFirst
      · next free =>
          cases addedFirst
          obtain ⟨rfl, areFree⟩ := inductionHypothesis addedRest
          refine ⟨by rw [List.append_assoc]; rfl, List.forall_mem_cons.mpr ⟨?_, ?_⟩⟩
          · simpa using free
          · exact fun field member other isOther =>
              areFree field member other (List.mem_append_left _ isOther)

theorem collectionFields_ok {shape : Shape} {all : List FieldDef}
    (derived : collectionFields collection fields draft shape = .ok (all, after)) :
    Grows draft after ∧ ∃ own, all = fields ++ own ∧ ∀ types, after.objects ⊆ types ->
      List.Forall₂ (Defines types collection.relations) shape own := by
  induction shape generalizing fields draft with
  | nil =>
      cases derived
      exact ⟨.refl _, [], (List.append_nil _).symm, fun _ _ => .nil⟩
  | cons field rest inductionHypothesis =>
      rw [collectionFields] at derived
      split at derived
      · cases derived
      · next added middle derivedFirst =>
          obtain ⟨growsFirst, definition, rfl, defines⟩ := collectionField_ok derivedFirst
          obtain ⟨extended, addedFirst, derivedRest⟩ := bind_eq_ok.mp derived
          obtain ⟨rfl, _⟩ := addFields_ok addedFirst
          obtain ⟨growsRest, own, rfl, definesRest⟩ := inductionHypothesis derivedRest
          refine ⟨growsFirst.trans growsRest, definition :: own, by simp, fun types known => ?_⟩
          have knownFirst : middle.objects ⊆ types := fun _ member =>
            known (growsRest.objects_subset member)
          exact .cons (defines types knownFirst) (definesRest types known)

/-- The fields that the input type of a collection may have: metadata is not written. -/
def contentFields (collection : Collection) : Shape :=
  collection.shape.filter fun field => !metadataFields.contains field.sourceKey

/-- A collection gets its object type behind the types that are nested in it, then its input type
behind those nested there, unless no field has an input. -/
theorem addCollection_ok (added : draft.addCollection collection = .ok after) :
    ∃ fields middle inputs last,
      collectionFields collection [collectionNameField collection] draft collection.shape =
        .ok (fields, middle) ∧
      inputFields collection.typeName
          { middle with objects := middle.objects ++ [(collection.typeName, fields)] }
          (contentFields collection) = (inputs, last) ∧
      (inputs = [] ∧ after = last ∨
        inputs ≠ [] ∧ after =
          { last with inputs := last.inputs ++ [(inputName collection.typeName, inputs)] }) := by
  obtain ⟨⟨fields, middle⟩, derived, isAfter⟩ := bind_eq_ok.mp added
  dsimp only at isAfter
  split at isAfter
  · next last derivedInputs =>
      cases isAfter
      exact ⟨fields, middle, [], after, derived, derivedInputs, .inl ⟨rfl, rfl⟩⟩
  · next inputs last hasInputs derivedInputs =>
      cases isAfter
      exact ⟨fields, middle, inputs, last, derived, derivedInputs, .inr ⟨hasInputs, rfl⟩⟩

/-- A collection's type is among the object types. -/
def Defined (types : List (String × List FieldDef)) (collection : Collection) : Prop :=
  ∃ own, (collection.typeName, collectionNameField collection :: own) ∈ types ∧
    List.Forall₂ (Defines types collection.relations) collection.shape own

/-- What a draft holds after some of the collections.  The names of object types are distinct and
taken; those that were taken from the start are the names of added collections, each of which has
its type. -/
structure Settled (collections done : List Collection) (draft : TypeDraft) : Prop where
  reserved : (TypeDraft.start collections).names ⊆ draft.names
  distinct : (draft.objects.map Prod.fst).Nodup
  taken : ∀ name ∈ draft.objects.map Prod.fst, name ∈ draft.names
  own : ∀ name ∈ draft.objects.map Prod.fst, name ∈ (TypeDraft.start collections).names ->
    name ∈ done.map Collection.typeName
  defined : ∀ collection ∈ done, ∃ own,
    (collection.typeName, collectionNameField collection :: own) ∈ draft.objects ∧
      ∀ types, draft.objects ⊆ types ->
        List.Forall₂ (Defines types collection.relations) collection.shape own

namespace Settled

theorem start (collections : List Collection) :
    Settled collections [] (TypeDraft.start collections) :=
  ⟨fun _ member => member, List.nodup_nil, List.forall_mem_nil _, List.forall_mem_nil _,
    List.forall_mem_nil _⟩

theorem grow (settled : Settled collections done draft) (grows : Grows draft after) :
    Settled collections done after := by
  obtain ⟨added, isAdded, took⟩ := grows.objects
  have names : after.objects.map Prod.fst = draft.objects.map Prod.fst ++ added.map Prod.fst := by
    rw [isAdded, List.map_append]
  constructor
  case reserved => exact fun _ member => grows.names (settled.reserved member)
  case distinct =>
    rw [names, List.nodup_append]
    refine ⟨settled.distinct, took.distinct, fun name isOld other isNew same => ?_⟩
    exact took.free other isNew (same ▸ settled.taken name isOld)
  case taken =>
    rw [names, List.forall_mem_append]
    exact ⟨fun name member => grows.names (settled.taken name member),
      fun _ member => took.taken member⟩
  case own =>
    rw [names, List.forall_mem_append]
    exact ⟨settled.own,
      fun name member isReserved => absurd (settled.reserved isReserved) (took.free name member)⟩
  case defined =>
    intro collection member
    obtain ⟨own, isType, defines⟩ := settled.defined collection member
    exact ⟨own, grows.objects_subset isType,
      fun types known => defines types fun _ old => known (grows.objects_subset old)⟩

theorem withInputs (settled : Settled collections done draft)
    (inputs : List (String × List (String × TypeRef))) :
    Settled collections done { draft with inputs } :=
  ⟨settled.reserved, settled.distinct, settled.taken, settled.own, settled.defined⟩

/-- A collection that was not added before gets its type. -/
theorem register (settled : Settled collections done draft) (member : collection ∈ collections)
    (isNew : collection.typeName ∉ done.map Collection.typeName)
    (defines : ∀ types, draft.objects ⊆ types ->
      List.Forall₂ (Defines types collection.relations) collection.shape own) :
    Settled collections (done ++ [collection])
      { draft with
        objects := draft.objects ++
          [(collection.typeName, collectionNameField collection :: own)] } := by
  have isReserved : collection.typeName ∈ (TypeDraft.start collections).names :=
    List.mem_append_right _ (List.mem_flatMap.mpr ⟨collection, member, List.mem_cons_self⟩)
  have isFree : collection.typeName ∉ draft.objects.map Prod.fst := fun isType =>
    isNew (settled.own _ isType isReserved)
  constructor
  case reserved => exact settled.reserved
  case distinct =>
    rw [List.map_append, List.nodup_append]
    refine ⟨settled.distinct, List.nodup_singleton _, fun name isOld other isOwn same => ?_⟩
    cases List.mem_singleton.mp isOwn
    subst same
    exact isFree isOld
  case taken =>
    rw [List.map_append, List.forall_mem_append]
    exact ⟨settled.taken, List.forall_mem_singleton.mpr (settled.reserved isReserved)⟩
  case own =>
    rw [List.map_append, List.map_append, List.forall_mem_append]
    exact ⟨fun name isOld reserved => List.mem_append_left _ (settled.own name isOld reserved),
      List.forall_mem_singleton.mpr fun _ => List.mem_append_right _ List.mem_cons_self⟩
  case defined =>
    rw [List.forall_mem_append]
    constructor
    · intro other isDone
      obtain ⟨fields, isType, definesOther⟩ := settled.defined other isDone
      exact ⟨fields, List.mem_append_left _ isType,
        fun types known => definesOther types fun _ old => known (List.mem_append_left _ old)⟩
    · exact List.forall_mem_singleton.mpr ⟨own, List.mem_append_right _ List.mem_cons_self,
        fun types known => defines types fun _ old => known (List.mem_append_left _ old)⟩

theorem addCollection (settled : Settled collections done draft) (member : collection ∈ collections)
    (isNew : collection.typeName ∉ done.map Collection.typeName)
    (added : draft.addCollection collection = .ok after) :
    Settled collections (done ++ [collection]) after := by
  obtain ⟨fields, middle, inputs, last, derived, derivedInputs, isAfter⟩ := addCollection_ok added
  obtain ⟨grows, own, isFields, defines⟩ := collectionFields_ok derived
  rw [List.singleton_append] at isFields
  subst isFields
  have withType := (settled.grow grows).register member isNew defines
  have growsInputs := inputFields_grows (contentFields collection) collection.typeName
    { middle with
      objects := middle.objects ++
        [(collection.typeName, collectionNameField collection :: own)] }
  rw [derivedInputs] at growsInputs
  rcases isAfter with ⟨_, rfl⟩ | ⟨_, rfl⟩
  · exact withType.grow growsInputs
  · exact (withType.grow growsInputs).withInputs _

end Settled

private theorem parts_add_ok {parts next : Parts} (settled : Settled collections done parts.draft)
    (listed : ∀ other ∈ done, ∃ field ∈ parts.query, field.name = other.typeName)
    (member : collection ∈ collections) (added : parts.add collection = .ok next) :
    Settled collections (done ++ [collection]) next.draft ∧
      ∀ other ∈ done ++ [collection], ∃ field ∈ next.query, field.name = other.typeName := by
  simp only [Parts.add, bind_eq_ok] at added
  obtain ⟨draft, addedTypes, query, addedQuery, mutation, _, isNext⟩ := added
  cases isNext
  obtain ⟨rfl, free⟩ := addFields_ok addedQuery
  -- the name of the field that finds a record is that of the type
  have isNew : collection.typeName ∉ done.map Collection.typeName := by
    intro isOld
    obtain ⟨other, isDone, same⟩ := List.mem_map.mp isOld
    obtain ⟨field, isField, isName⟩ := listed other isDone
    exact free (findField collection) List.mem_cons_self field isField (isName.trans same)
  refine ⟨settled.addCollection member isNew addedTypes, ?_⟩
  rw [List.forall_mem_append]
  constructor
  · intro other isDone
    obtain ⟨field, isField, isName⟩ := listed other isDone
    exact ⟨field, List.mem_append_left _ isField, isName⟩
  · exact List.forall_mem_singleton.mpr
      ⟨findField collection, List.mem_append_right _ List.mem_cons_self, rfl⟩

private theorem parts_addAll_ok {added : List Collection} {parts last : Parts}
    (settled : Settled collections done parts.draft)
    (listed : ∀ other ∈ done, ∃ field ∈ parts.query, field.name = other.typeName)
    (members : added ⊆ collections) (folded : added.foldlM Parts.add parts = .ok last) :
    Settled collections (done ++ added) last.draft := by
  induction added generalizing done parts with
  | nil =>
      cases folded
      rw [List.append_nil]
      exact settled
  | cons first rest inductionHypothesis =>
      rw [List.foldlM_cons, bind_eq_ok] at folded
      obtain ⟨next, addedFirst, foldedRest⟩ := folded
      obtain ⟨isFirst, areRest⟩ := List.cons_subset.mp members
      obtain ⟨settledNext, listedNext⟩ := parts_add_ok settled listed isFirst addedFirst
      have settledLast := inductionHypothesis settledNext listedNext areRest foldedRest
      rwa [List.append_assoc] at settledLast

/-! ### The table -/

private theorem lookup_register (table : TypeTable) (definition : TypeDef) (other : String) :
    (TypeTable.register table name definition).lookup other =
      if other = name then some definition else table.lookup other := by
  induction table with
  | nil =>
      by_cases same : other = name
      · simp [TypeTable.register, same]
      · simp [TypeTable.register, List.lookup_cons, same, beq_eq_false_iff_ne.mpr same]
  | cons entry rest inductionHypothesis =>
      obtain ⟨key, old⟩ := entry
      rw [TypeTable.register]
      by_cases isKey : key = name
      · subst isKey
        by_cases same : other = key
        · simp [same]
        · simp [List.lookup_cons, same, beq_eq_false_iff_ne.mpr same]
      · rw [if_neg isKey, List.lookup_cons, List.lookup_cons, inductionHypothesis]
        by_cases same : other = key
        · subst same
          simp [isKey]
        · simp [beq_eq_false_iff_ne.mpr same]

/-- The last definition of a name counts. -/
private theorem lookup_registerAll (entries : List (String × TypeDef)) (table : TypeTable) :
    (entries.foldl (fun table (name, definition) => TypeTable.register table name definition)
      table).lookup name = (entries.reverse.lookup name).or (table.lookup name) := by
  induction entries generalizing table with
  | nil => rfl
  | cons first rest inductionHypothesis =>
      obtain ⟨key, definition⟩ := first
      rw [List.foldl_cons, inductionHypothesis, lookup_register, List.reverse_cons,
        List.lookup_append, Option.or_assoc]
      congr 1
      by_cases same : name = key
      · simp [same]
      · simp [List.lookup_cons, same, beq_eq_false_iff_ne.mpr same]

private theorem mem_of_lookup {Held : Type} {entries : List (String × Held)} {held : Held}
    (found : entries.lookup name = some held) : (name, held) ∈ entries := by
  obtain ⟨before, rest, rfl, _⟩ := List.lookup_eq_some_iff.mp found
  exact List.mem_append_right _ List.mem_cons_self

theorem find?_of_objectFields? (found : table.objectFields? name = some fields) :
    table.find? name = some (.object fields) := by
  unfold TypeTable.objectFields? at found
  split at found
  · next isObject =>
      cases found
      exact isObject
  · cases found

private theorem lookup_of_objectFields? (found : table.objectFields? name = some fields) :
    table.lookup name = some (.object fields) := by
  have isFound := find?_of_objectFields? found
  unfold TypeTable.find? at isFound
  split at isFound
  · cases isFound
  · exact isFound

/-- The types that are registered, in order. -/
def Parts.registrations (parts : Parts) : List (String × TypeDef) :=
  [(jsonScalar, .scalar), (orderEnum, .enumeration ["ASC", "DESC"]),
    (queryRoot, .object parts.query), (mutationRoot, .object parts.mutation)]
  ++ parts.draft.objects.map (Prod.map id TypeDef.object)
  ++ parts.draft.inputs.map (Prod.map id TypeDef.input)

theorem table_eq (parts : Parts) :
    parts.table = parts.registrations.foldl
      (fun table (name, definition) => TypeTable.register table name definition) [] :=
  rfl

/-- The last of the types of one sort under a name, if there is one. -/
private theorem lookup_reverse_map {Held : Type} (name : String) (wrap : Held -> TypeDef)
    (entries : List (String × Held)) :
    (∃ held, (name, held) ∈ entries ∧
      (entries.map (Prod.map id wrap)).reverse.lookup name = some (wrap held)) ∨
    (name ∉ entries.map Prod.fst ∧
      (entries.map (Prod.map id wrap)).reverse.lookup name = none) := by
  cases found : (entries.map (Prod.map id wrap)).reverse.lookup name with
  | some definition =>
      obtain ⟨⟨_, held⟩, member, isEntry⟩ :=
        List.mem_map.mp (List.mem_reverse.mp (mem_of_lookup found))
      cases isEntry
      exact .inl ⟨held, member, rfl⟩
  | none =>
      refine .inr ⟨fun isName => ?_, rfl⟩
      obtain ⟨⟨_, held⟩, member, rfl⟩ := List.mem_map.mp isName
      have differ := List.lookup_eq_none_iff.mp found (_, wrap held)
        (List.mem_reverse.mpr (List.mem_map_of_mem member))
      simp at differ

/-- What the table of built parts says of a name that is none of the system's. -/
private theorem lookup_table (parts : Parts) :
    (∃ inputs, parts.table.lookup name = some (.input inputs)) ∨
      (∃ fields, (name, fields) ∈ parts.draft.objects ∧
        parts.table.lookup name = some (.object fields)) ∨
      (name ∉ parts.draft.objects.map Prod.fst ∧
        parts.table.lookup name = List.lookup name [
          (mutationRoot, .object parts.mutation), (queryRoot, .object parts.query),
          (orderEnum, .enumeration ["ASC", "DESC"]), (jsonScalar, .scalar)]) := by
  rw [table_eq, lookup_registerAll, Parts.registrations, List.reverse_append, List.reverse_append,
    List.lookup_append, List.lookup_append, List.lookup_nil, Option.or_none]
  rcases lookup_reverse_map name TypeDef.input parts.draft.inputs with
    ⟨inputs, _, isInput⟩ | ⟨_, noInput⟩
  · exact .inl ⟨inputs, by rw [isInput, Option.some_or]⟩
  · rw [noInput, Option.none_or]
    rcases lookup_reverse_map name TypeDef.object parts.draft.objects with
      ⟨fields, isType, isObject⟩ | ⟨noType, noObject⟩
    · exact .inr (.inl ⟨fields, isType, by rw [isObject, Option.some_or]⟩)
    · exact .inr (.inr ⟨noType, by rw [noObject, Option.none_or]; rfl⟩)

/-- The object types of a built schema.  There are distinct types among which every collection has
its own, and no object of the table has other fields than the type of its name. -/
theorem exists_types_of_build (built : build collections = .ok table) :
    ∃ types, (∀ collection ∈ collections, Defined types collection) ∧
      ∀ name fields, (name, fields) ∈ types ->
        ∀ found, table.objectFields? name = some found -> found = fields := by
  obtain ⟨parts, isParts, isTable⟩ := bind_eq_ok.mp built
  have settled := parts_addAll_ok (Settled.start collections) (List.forall_mem_nil _)
    (fun _ member => member) isParts
  dsimp only at isTable
  split at isTable
  · cases isTable
    refine ⟨parts.draft.objects, fun collection member => ?_, fun name fields isType found held => ?_⟩
    · obtain ⟨own, isType, defines⟩ := settled.defined collection member
      exact ⟨own, isType, defines _ fun _ isType => isType⟩
    · have isFound := lookup_of_objectFields? held
      rcases lookup_table parts with ⟨inputs, isInput⟩ | ⟨others, isOther, isObject⟩ | ⟨none, _⟩
      · cases isFound.symm.trans isInput
      · cases isFound.symm.trans isObject
        exact congrArg Prod.snd
          (List.inj_on_of_nodup_map settled.distinct isOther isType rfl)
      · exact absurd (List.mem_map_of_mem isType) none
  · cases isTable

/-- The definitions of a built table are sound, and none has the name of a system scalar. -/
private theorem sound_of_build (built : build collections = .ok table) {definition : TypeDef}
    (found : table.lookup name = some definition) :
    systemScalars.contains name = false ∧ table.isSoundDef definition = true := by
  obtain ⟨parts, _, isTable⟩ := bind_eq_ok.mp built
  dsimp only at isTable
  split at isTable
  · next sound =>
      cases isTable
      simp only [TypeTable.isSound, Bool.and_eq_true, List.all_eq_true] at sound
      simpa using sound.2 _ (mem_of_lookup found)
  · cases isTable

/-- The fields of objects have names that are not reserved and types that fit their place. -/
theorem soundField_of_build (built : build collections = .ok table)
    (isType : table.objectFields? name = some fields) {field : FieldDef} (member : field ∈ fields) :
    TypeTable.isReservedName field.name = false ∧ table.isOutput field.type = true := by
  have sound := (sound_of_build built (lookup_of_objectFields? isType)).2
  simp only [TypeTable.isSoundDef, Bool.and_eq_true, List.all_eq_true] at sound
  exact ⟨by simpa using (sound.2 field member).1.1, (sound.2 field member).1.2⟩

theorem isOutput_of_build (built : build collections = .ok table)
    (isType : table.objectFields? name = some fields) {field : FieldDef} (member : field ∈ fields) :
    table.isOutput field.type = true :=
  (soundField_of_build built isType member).2

/-- The type of a collection is hidden by no other where it can stand in the place of an output. -/
theorem exists_objectFields?_of_isOutput (built : build collections = .ok table)
    (member : collection ∈ collections)
    (isOutput : table.isOutput (.named collection.typeName) = true) :
    ∃ fields, table.objectFields? collection.typeName = some fields := by
  obtain ⟨parts, isParts, isTable⟩ := bind_eq_ok.mp built
  have settled := parts_addAll_ok (Settled.start collections) (List.forall_mem_nil _)
    (fun _ member => member) isParts
  obtain ⟨own, isType, _⟩ := settled.defined collection member
  have sameTable : table = parts.table := by
    dsimp only at isTable
    split at isTable <;> cases isTable
    rfl
  have isFound {definition : TypeDef} (found : table.lookup collection.typeName = some definition) :
      table.find? collection.typeName = some definition := by
    have noScalar := (sound_of_build built found).1
    rw [TypeTable.find?, noScalar, if_neg Bool.false_ne_true, found]
  rcases @lookup_table collection.typeName parts with
    ⟨inputs, isInput⟩ | ⟨fields, _, isObject⟩ | ⟨none, _⟩
  · rw [← sameTable] at isInput
    simp [TypeTable.isOutput, TypeRef.core, isFound isInput] at isOutput
  · rw [← sameTable] at isObject
    exact ⟨fields, by rw [TypeTable.objectFields?, isFound isObject]⟩
  · exact absurd (List.mem_map_of_mem isType) none

/-- A scalar that stands in the place of an output and is no object is a scalar in the table. -/
theorem find?_of_scalar (built : build collections = .ok table) (isScalar : name ∈ scalarNames)
    (isOutput : table.isOutput (.named name) = true)
    (noObject : table.objectFields? name = none) : table.find? name = some .scalar := by
  obtain ⟨parts, _, isTable⟩ := bind_eq_ok.mp built
  dsimp only at isTable
  split at isTable
  · cases isTable
    by_cases isSystem : name ∈ systemScalars
    · rw [TypeTable.find?, if_pos (by simpa using isSystem)]
    · have isJson : name = jsonScalar := by
        simp only [scalarNames, systemScalars, List.mem_cons, List.not_mem_nil] at isScalar isSystem
        tauto
      have isFound : parts.table.find? name = parts.table.lookup name := by
        rw [TypeTable.find?, if_neg (by simpa using isSystem)]
      rw [isFound]
      rcases @lookup_table name parts with
        ⟨inputs, isInput⟩ | ⟨others, _, isObject⟩ | ⟨_, isRoot⟩
      · simp [TypeTable.isOutput, TypeRef.core, isFound, isInput] at isOutput
      · simp [TypeTable.objectFields?, isFound, isObject] at noObject
      · rw [isRoot, isJson]
        rfl
  · cases isTable

end ContentGraph.Schema
