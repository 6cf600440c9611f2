import ContentGraph.Proofs.Schema.TypeFields

/-!
Contract: the types that are nested in those of collections.

Owns:
- `candidate` and `exists_candidate`: the search for a free name tries a name and its numbers in
  turn and ends at the first one that is free;
- `Derives` and `DerivesInput`: the type of a kind together with exactly the types registered for
  it, one for every object inside, in order;
- `Nests`, what deriving types adds to a draft under names that it claims;
- `Portion`, what one collection adds, and `exists_portions`, the draft after all of them;
- `TypeDraft.nested_types`: every nested object has a type of its own, and no claimed name is
  another's.

Does not own: the names of the collections' own types (`Proofs.Schema.DistinctNames`).
-/

namespace ContentGraph

/-- A kind in a number of lists. -/
def Kind.inLists : Nat -> Kind -> Kind
  | 0, kind => kind
  | layers + 1, kind => .list (inLists layers kind)

/-- A type in a number of lists. -/
def TypeRef.inLists : Nat -> TypeRef -> TypeRef
  | 0, type => type
  | layers + 1, type => .list (inLists layers type)

namespace Schema

/-! ### The search for a free name -/

/-- The names that are tried for a type, in turn. -/
def candidate (base : String) : Nat -> String
  | 0 => base
  | number + 1 => base ++ toString (number + 2)

/-- The search ends: all names before a certain one are taken, and that one is free. -/
theorem exists_candidate (names : List String) (base : String) :
    ∃ steps, freeName names base = candidate base steps ∧ candidate base steps ∉ names ∧
      ∀ earlier < steps, candidate base earlier ∈ names := by
  have isFree := freeName_not_mem names base
  unfold freeName at isFree ⊢
  by_cases taken : names.contains base = true
  · rw [if_pos taken] at isFree ⊢
    have isTaken : base ∈ names := by simpa using taken
    dsimp only at isFree ⊢
    cases found : ((List.range (names.length + 1)).map fun number =>
        base ++ toString (number + 2)).find? fun name => !names.contains name with
    | none =>
        rw [found] at isFree
        exact absurd isTaken isFree
    | some name =>
        rw [found] at isFree
        obtain ⟨_, steps, inRange, isName, earlierTaken⟩ := List.find?_eq_some_iff_getElem.mp found
        rw [List.getElem_map, List.getElem_range] at isName
        rw [Option.getD_some] at isFree
        subst isName
        refine ⟨steps + 1, rfl, isFree, ?_⟩
        intro earlier before
        cases earlier with
        | zero => exact isTaken
        | succ number =>
            have isEarlier := earlierTaken number (by omega)
            rw [List.getElem_map, List.getElem_range] at isEarlier
            simpa [candidate] using isEarlier
  · rw [if_neg taken] at isFree ⊢
    exact ⟨0, rfl, isFree, fun earlier before => absurd before (Nat.not_lt_zero earlier)⟩

/-! ### Types and what is registered for them -/

mutual

/-- The output type of a kind and the object types that are registered for it: every object with a
field gets one, behind those of the objects inside. -/
inductive Derives : Kind -> TypeRef -> List (String × List FieldDef) -> Prop where
  | unknown : Derives .unknown (.named "String") []
  | scalar (form : Scalar) : Derives (.scalar form) (.named form.typeName) []
  | list {element : Kind} {type : TypeRef} {own : List (String × List FieldDef)}
      (inside : Derives element type own) : Derives (.list element) (.list type) own
  | json : Derives (.object []) (.named jsonScalar) []
  | object {first : Field} {rest : Shape} {fields : List FieldDef}
      {own : List (String × List FieldDef)} (name : String)
      (inside : DerivesFields [] (first :: rest) fields own) :
      Derives (.object (first :: rest)) (.named name) (own ++ [(name, fields)])
  | resolved {resolver : Resolver} {type : TypeRef}
      (isRead : TypeRef.parse resolver.typeRef = .ok type) : Derives (.resolved resolver) type []

/-- The fields of an object type and the object types that are registered for them.  A field with a
relation has none. -/
inductive DerivesFields :
    List Relation -> Shape -> List FieldDef -> List (String × List FieldDef) -> Prop where
  | nil (relations : List Relation) : DerivesFields relations [] [] []
  | relation {relations : List Relation} {field : Field} {relation : Relation} {rest : Shape}
      {others : List FieldDef} {own : List (String × List FieldDef)}
      (isRelation : Collection.relation? relations field.name = some relation)
      (derivesRest : DerivesFields relations rest others own) :
      DerivesFields relations (field :: rest) (relationField relation :: others) own
  | data {relations : List Relation} {name sourceKey : String} {kind : Kind}
      {arguments : List Argument} {type : TypeRef} {rest : Shape} {others : List FieldDef}
      {own more : List (String × List FieldDef)}
      (noRelation : Collection.relation? relations name = none)
      (areArguments : kindArguments kind = .ok arguments)
      (derives : Derives kind type own) (derivesRest : DerivesFields relations rest others more) :
      DerivesFields relations (.mk name sourceKey kind :: rest)
        (⟨name, arguments, type, .data sourceKey (fieldKind kind)⟩ :: others) (own ++ more)

end

mutual

/-- The input type of a kind, if it has one, and the input types that are registered for it.  An
object without inputs is free-form. -/
inductive DerivesInput :
    Kind -> Option TypeRef -> List (String × List (String × TypeRef)) -> Prop where
  | unknown : DerivesInput .unknown (some (.named "String")) []
  | scalar (form : Scalar) : DerivesInput (.scalar form) (some (.named form.typeName)) []
  | list {element : Kind} {type : Option TypeRef} {own : List (String × List (String × TypeRef))}
      (inside : DerivesInput element type own) :
      DerivesInput (.list element) (type.map .list) own
  | json {fields : Shape} {own : List (String × List (String × TypeRef))}
      (inside : DerivesInputs fields [] own) :
      DerivesInput (.object fields) (some (.named jsonScalar)) own
  | object {fields : Shape} {inputs : List (String × TypeRef)}
      {own : List (String × List (String × TypeRef))} (name : String)
      (inside : DerivesInputs fields inputs own) (given : inputs ≠ []) :
      DerivesInput (.object fields) (some (.named name)) (own ++ [(name, inputs)])
  | resolved (resolver : Resolver) : DerivesInput (.resolved resolver) none []

/-- The fields of an input type and the input types that are registered for them.  Computed fields
have none. -/
inductive DerivesInputs :
    Shape -> List (String × TypeRef) -> List (String × List (String × TypeRef)) -> Prop where
  | nil : DerivesInputs [] [] []
  | given {name sourceKey : String} {kind : Kind} {type : TypeRef} {rest : Shape}
      {others : List (String × TypeRef)} {own more : List (String × List (String × TypeRef))}
      (derives : DerivesInput kind (some type) own) (derivesRest : DerivesInputs rest others more) :
      DerivesInputs (.mk name sourceKey kind :: rest) ((name, type) :: others) (own ++ more)
  | computed {name sourceKey : String} {kind : Kind} {rest : Shape}
      {others : List (String × TypeRef)} {own more : List (String × List (String × TypeRef))}
      (derives : DerivesInput kind none own) (derivesRest : DerivesInputs rest others more) :
      DerivesInputs (.mk name sourceKey kind :: rest) others (own ++ more)

end

/-! ### What is added to a draft -/

/-- The taken names are those from before and the claimed ones: each of these was free, and it is
taken once. -/
structure Claims (before after claimed : List String) : Prop where
  names : after = claimed ++ before
  distinct : claimed.Nodup
  free : ∀ name ∈ claimed, name ∉ before

namespace Claims

variable {before middle after claimed later : List String}

theorem refl (names : List String) : Claims names names [] :=
  ⟨rfl, List.nodup_nil, List.forall_mem_nil _⟩

theorem single (draft : TypeDraft) (base : String) :
    Claims draft.names (draft.claim base).2.names [(draft.claim base).1] :=
  ⟨rfl, List.nodup_singleton _, List.forall_mem_singleton.mpr (freeName_not_mem draft.names base)⟩

theorem trans (first : Claims before middle claimed) (second : Claims middle after later) :
    Claims before after (later ++ claimed) where
  names := by rw [second.names, first.names, List.append_assoc]
  distinct := by
    rw [List.nodup_append]
    refine ⟨second.distinct, first.distinct, fun name isLater other isClaimed same => ?_⟩
    apply second.free name isLater
    rw [first.names, same]
    exact List.mem_append_left _ isClaimed
  free := by
    rw [List.forall_mem_append]
    refine ⟨fun name isLater isOld => second.free name isLater ?_, first.free⟩
    rw [first.names]
    exact List.mem_append_right _ isOld

end Claims

/-- A draft has the types of an earlier one and the given ones, which are under names that were
claimed in between. -/
structure Nests (before after : TypeDraft) (claimed : List String)
    (types : List (String × List FieldDef)) (inputTypes : List (String × List (String × TypeRef))) :
    Prop where
  objects : after.objects = before.objects ++ types
  inputs : after.inputs = before.inputs ++ inputTypes
  claims : Claims before.names after.names claimed
  own : List.Subperm (types.map Prod.fst ++ inputTypes.map Prod.fst) claimed

namespace Nests

variable {before middle after draft : TypeDraft} {base : String} {claimed later : List String}
  {types moreTypes : List (String × List FieldDef)}
  {inputTypes moreInputTypes : List (String × List (String × TypeRef))}

theorem refl (draft : TypeDraft) : Nests draft draft [] [] [] where
  objects := (List.append_nil _).symm
  inputs := (List.append_nil _).symm
  claims := .refl _
  own := List.Subperm.refl _

theorem trans (first : Nests before middle claimed types inputTypes)
    (second : Nests middle after later moreTypes moreInputTypes) :
    Nests before after (later ++ claimed) (types ++ moreTypes) (inputTypes ++ moreInputTypes) where
  objects := by rw [second.objects, first.objects, List.append_assoc]
  inputs := by rw [second.inputs, first.inputs, List.append_assoc]
  claims := first.claims.trans second.claims
  own := by
    have both := (first.own.append second.own).trans List.perm_append_comm.subperm
    refine List.Perm.subperm ?_ |>.trans both
    rw [List.map_append, List.map_append, List.append_assoc, List.append_assoc]
    exact (List.perm_append_comm_assoc _ _ _).append_left _

/-- What is added after a claim is added to the draft before it, with the claimed name. -/
theorem ofClaim (inside : Nests (draft.claim base).2 after claimed types inputTypes) :
    Nests draft after (claimed ++ [(draft.claim base).1]) types inputTypes where
  objects := inside.objects
  inputs := inside.inputs
  claims := (Claims.single draft base).trans inside.claims
  own := inside.own.trans (List.sublist_append_left _ _).subperm

theorem registerObject (inside : Nests (draft.claim base).2 after claimed types inputTypes)
    (fields : List FieldDef) :
    Nests draft { after with objects := after.objects ++ [((draft.claim base).1, fields)] }
      (claimed ++ [(draft.claim base).1]) (types ++ [((draft.claim base).1, fields)])
      inputTypes where
  objects := by
    rw [← List.append_assoc]
    exact congrArg (· ++ _) inside.objects
  inputs := inside.inputs
  claims := inside.ofClaim.claims
  own := by
    rw [List.map_append, List.append_assoc]
    exact List.perm_middle.subperm.trans
      ((List.subperm_cons _).mpr inside.own |>.trans (List.perm_append_singleton _ _).symm.subperm)

theorem registerInput (inside : Nests (draft.claim base).2 after claimed types inputTypes)
    (fields : List (String × TypeRef)) :
    Nests draft { after with inputs := after.inputs ++ [((draft.claim base).1, fields)] }
      (claimed ++ [(draft.claim base).1]) types
      (inputTypes ++ [((draft.claim base).1, fields)]) where
  objects := inside.objects
  inputs := by
    rw [← List.append_assoc]
    exact congrArg (· ++ _) inside.inputs
  claims := inside.ofClaim.claims
  own := by
    rw [List.map_append, ← List.append_assoc]
    exact inside.own.append (List.Subperm.refl _)

end Nests

mutual

theorem outputType_nests : ∀ (kind : Kind) {base : String} {draft after : TypeDraft}
    {type : TypeRef}, outputType base draft kind = .ok (type, after) ->
      ∃ claimed own, Nests draft after claimed own [] ∧ Derives kind type own
  | .unknown, _, _, _, _, derived => by
      cases derived
      exact ⟨[], [], .refl _, .unknown⟩
  | .scalar form, _, _, _, _, derived => by
      cases derived
      exact ⟨[], [], .refl _, .scalar form⟩
  | .list element, _, _, _, _, derived => by
      rw [outputType, bind_eq_ok] at derived
      obtain ⟨⟨inner, middle⟩, derivedInner, isType⟩ := derived
      cases isType
      obtain ⟨claimed, own, nests, inside⟩ := outputType_nests element derivedInner
      exact ⟨claimed, own, nests, .list inside⟩
  | .object [], _, _, _, _, derived => by
      cases derived
      exact ⟨[], [], .refl _, .json⟩
  | .object (first :: rest), _, _, _, _, derived => by
      rw [outputType, bind_eq_ok] at derived
      obtain ⟨⟨fields, middle⟩, derivedFields, isType⟩ := derived
      cases isType
      obtain ⟨claimed, own, nests, inside⟩ := outputFields_nests (first :: rest) derivedFields
      exact ⟨_, _, nests.registerObject fields, .object _ inside⟩
  | .resolved resolver, _, _, _, _, derived => by
      rw [outputType, bind_eq_ok] at derived
      obtain ⟨read, isRead, isType⟩ := derived
      cases isType
      exact ⟨[], [], .refl _, .resolved isRead⟩

theorem outputFields_nests : ∀ (shape : Shape) {parent : String} {draft after : TypeDraft}
    {fields : List FieldDef}, outputFields parent draft shape = .ok (fields, after) ->
      ∃ claimed own, Nests draft after claimed own [] ∧ DerivesFields [] shape fields own
  | [], _, _, _, _, derived => by
      cases derived
      exact ⟨[], [], .refl _, .nil _⟩
  | .mk name sourceKey kind :: rest, _, _, _, _, derived => by
      simp only [outputFields, bind_eq_ok] at derived
      obtain ⟨⟨type, middle⟩, derivedType, arguments, areArguments, ⟨others, last⟩, derivedRest,
        isFields⟩ := derived
      cases isFields
      obtain ⟨claimed, own, nests, derives⟩ := outputType_nests kind derivedType
      obtain ⟨later, more, nestsRest, derivesRest⟩ := outputFields_nests rest derivedRest
      exact ⟨_, _, nests.trans nestsRest, .data rfl areArguments derives derivesRest⟩

end

mutual

theorem inputType_nests : ∀ (kind : Kind) (base : String) (draft : TypeDraft),
    ∃ claimed own, Nests draft (inputType base draft kind).2 claimed [] own ∧
      DerivesInput kind (inputType base draft kind).1 own
  | .unknown, _, _ => ⟨[], [], .refl _, .unknown⟩
  | .scalar form, _, _ => ⟨[], [], .refl _, .scalar form⟩
  | .resolved resolver, _, _ => ⟨[], [], .refl _, .resolved resolver⟩
  | .list element, base, draft => by
      obtain ⟨claimed, own, nests, inside⟩ := inputType_nests element base draft
      rw [inputType]
      exact ⟨claimed, own, nests, .list inside⟩
  | .object fields, base, draft => by
      obtain ⟨claimed, own, nests, inside⟩ :=
        inputFields_nests fields base (draft.claim (inputName base)).2
      simp only [inputType]
      split
      · next isDerived =>
          rw [isDerived] at nests inside
          exact ⟨_, own, nests.ofClaim, .json inside⟩
      · next inputs after given isDerived =>
          rw [isDerived] at nests inside
          exact ⟨_, _, nests.registerInput inputs, .object _ inside given⟩

theorem inputFields_nests : ∀ (shape : Shape) (parent : String) (draft : TypeDraft),
    ∃ claimed own, Nests draft (inputFields parent draft shape).2 claimed [] own ∧
      DerivesInputs shape (inputFields parent draft shape).1 own
  | [], _, _ => ⟨[], [], .refl _, .nil⟩
  | .mk name _ kind :: rest, parent, draft => by
      obtain ⟨claimed, own, nests, derives⟩ :=
        inputType_nests kind (nestedName parent name) draft
      obtain ⟨later, more, nestsRest, derivesRest⟩ :=
        inputFields_nests rest parent (inputType (nestedName parent name) draft kind).2
      refine ⟨later ++ claimed, own ++ more, ?_⟩
      simp only [inputFields]
      split
      · next type isType =>
          rw [isType] at derives
          exact ⟨nests.trans nestsRest, .given derives derivesRest⟩
      · next noType =>
          rw [noType] at derives
          exact ⟨nests.trans nestsRest, .computed derives derivesRest⟩

end

/-! ### What one collection adds -/

/-- What a collection adds to a draft: its own types, without the field of the collection's name,
and those that are nested in them. -/
structure Portion where
  collection : Collection
  fields : List FieldDef
  nested : List (String × List FieldDef)
  inputs : List (String × TypeRef)
  nestedInputs : List (String × List (String × TypeRef))
  derives : DerivesFields collection.relations collection.shape fields nested
  derivesInputs : DerivesInputs (contentFields collection) inputs nestedInputs

namespace Portion

/-- The object types, in the order of their registration. -/
def objects (portion : Portion) : List (String × List FieldDef) :=
  portion.nested ++
    [(portion.collection.typeName, collectionNameField portion.collection :: portion.fields)]

/-- The input types, in the order of their registration.  The collection has none of its own where
no field has an input. -/
def inputTypes (portion : Portion) : List (String × List (String × TypeRef)) :=
  portion.nestedInputs ++
    if portion.inputs = [] then [] else [(inputName portion.collection.typeName, portion.inputs)]

/-- The names of the types that are nested in those of the collection. -/
def nestedNames (portion : Portion) : List String :=
  portion.nested.map Prod.fst ++ portion.nestedInputs.map Prod.fst

end Portion

/-- A draft has the types of an earlier one and those of the given collections. -/
structure Adds (before after : TypeDraft) (claimed : List String) (portions : List Portion) :
    Prop where
  objects : after.objects = before.objects ++ portions.flatMap Portion.objects
  inputs : after.inputs = before.inputs ++ portions.flatMap Portion.inputTypes
  claims : Claims before.names after.names claimed
  own : List.Subperm (portions.flatMap Portion.nestedNames) claimed

theorem Adds.trans {before middle after : TypeDraft} {claimed later : List String}
    {portions more : List Portion} (first : Adds before middle claimed portions)
    (second : Adds middle after later more) :
    Adds before after (later ++ claimed) (portions ++ more) where
  objects := by rw [second.objects, first.objects, List.flatMap_append, List.append_assoc]
  inputs := by rw [second.inputs, first.inputs, List.flatMap_append, List.append_assoc]
  claims := first.claims.trans second.claims
  own := by
    rw [List.flatMap_append]
    exact (first.own.append second.own).trans List.perm_append_comm.subperm

section Collections

variable {collection : Collection} {draft after : TypeDraft} {fields own : List FieldDef}

theorem collectionField_nests {field : Field}
    (derived : collectionField collection draft field = .ok (own, after)) :
    ∃ claimed types, Nests draft after claimed types [] ∧ ∀ {rest others more},
      DerivesFields collection.relations rest others more ->
        DerivesFields collection.relations (field :: rest) (own ++ others) (types ++ more) := by
  unfold collectionField at derived
  split at derived
  · next relation isRelation =>
      cases derived
      exact ⟨[], [], .refl _, fun derivesRest => .relation isRelation derivesRest⟩
  · next noRelation =>
      obtain ⟨claimed, types, nests, derives⟩ := outputFields_nests [field] derived
      refine ⟨claimed, types, nests, fun {rest others more} derivesRest => ?_⟩
      cases derives with
      | relation isRelation _ => cases isRelation
      | data _ areArguments derivesKind derivesNone =>
          cases derivesNone
          rw [List.append_nil]
          exact .data noRelation areArguments derivesKind derivesRest

theorem collectionFields_nests {shape : Shape} {all : List FieldDef}
    (derived : collectionFields collection fields draft shape = .ok (all, after)) :
    ∃ claimed own types, all = fields ++ own ∧ Nests draft after claimed types [] ∧
      DerivesFields collection.relations shape own types := by
  induction shape generalizing fields draft with
  | nil =>
      cases derived
      exact ⟨[], [], [], (List.append_nil _).symm, .refl _, .nil _⟩
  | cons field rest inductionHypothesis =>
      rw [collectionFields] at derived
      split at derived
      · cases derived
      · next added middle derivedFirst =>
          obtain ⟨extended, addedFirst, derivedRest⟩ := bind_eq_ok.mp derived
          obtain ⟨rfl, _⟩ := addFields_ok addedFirst
          obtain ⟨claimed, types, nests, derives⟩ := collectionField_nests derivedFirst
          obtain ⟨later, own, more, rfl, nestsRest, derivesRest⟩ :=
            inductionHypothesis derivedRest
          refine ⟨later ++ claimed, added ++ own, types ++ more, ?_, nests.trans nestsRest,
            derives derivesRest⟩
          rw [List.append_assoc]

/-- One collection adds its portion. -/
theorem exists_portion (added : draft.addCollection collection = .ok after) :
    ∃ portion claimed, portion.collection = collection ∧ Adds draft after claimed [portion] := by
  obtain ⟨fields, middle, inputs, last, derived, derivedInputs, isAfter⟩ := addCollection_ok added
  obtain ⟨claimed, own, types, rfl, nests, derives⟩ := collectionFields_nests derived
  obtain ⟨later, inputTypes, nestsInputs, derivesInputs⟩ :=
    inputFields_nests (contentFields collection) collection.typeName
      { middle with
        objects := middle.objects ++ [(collection.typeName, [collectionNameField collection] ++ own)] }
  rw [derivedInputs] at nestsInputs derivesInputs
  refine ⟨⟨collection, own, types, inputs, inputTypes, derives, derivesInputs⟩,
    later ++ claimed, rfl, ?_⟩
  have objects : last.objects = draft.objects ++ (types ++
      [(collection.typeName, collectionNameField collection :: own)]) := by
    rw [nestsInputs.objects, List.append_nil, ← List.append_assoc]
    exact congrArg (· ++ _) nests.objects
  have inputsOfLast : last.inputs = draft.inputs ++ inputTypes := by
    rw [nestsInputs.inputs]
    exact congrArg (· ++ inputTypes) (nests.inputs.trans (List.append_nil _))
  have claims := nests.claims.trans nestsInputs.claims
  have isOwn : List.Subperm (types.map Prod.fst ++ inputTypes.map Prod.fst) (later ++ claimed) := by
    have ownTypes := nests.own
    have ownInputs := nestsInputs.own
    rw [List.map_nil, List.append_nil] at ownTypes
    exact (ownTypes.append ownInputs).trans List.perm_append_comm.subperm
  rcases isAfter with ⟨rfl, rfl⟩ | ⟨given, rfl⟩
  · exact ⟨by simpa [Portion.objects] using objects, by simpa [Portion.inputTypes] using inputsOfLast,
      claims, by simpa [Portion.nestedNames] using isOwn⟩
  · exact ⟨by simpa [Portion.objects] using objects,
      by simp [Portion.inputTypes, given, inputsOfLast], claims,
      by simpa [Portion.nestedNames] using isOwn⟩

/-- Collections that are added in turn add a portion each. -/
theorem exists_portions {collections : List Collection}
    (added : collections.foldlM TypeDraft.addCollection draft = .ok after) :
    ∃ portions claimed, portions.map Portion.collection = collections ∧
      Adds draft after claimed portions := by
  induction collections generalizing draft with
  | nil =>
      cases added
      exact ⟨[], [], rfl, (List.append_nil _).symm, (List.append_nil _).symm, .refl _,
        List.Subperm.refl _⟩
  | cons first rest inductionHypothesis =>
      rw [List.foldlM_cons, bind_eq_ok] at added
      obtain ⟨middle, addedFirst, addedRest⟩ := added
      obtain ⟨portion, claimed, rfl, adds⟩ := exists_portion addedFirst
      obtain ⟨portions, later, rfl, addsRest⟩ := inductionHypothesis addedRest
      exact ⟨portion :: portions, later ++ claimed, rfl, adds.trans addsRest⟩

end Collections

/-! ### What the types represent -/

mutual

/-- The objects with a field inside of a kind, in the order of their types: inner ones first. -/
def nestedObjects : Kind -> List Shape
  | .unknown | .scalar _ | .resolved _ | .object [] => []
  | .list element => nestedObjects element
  | .object (first :: rest) => nestedObjectsIn [] (first :: rest) ++ [first :: rest]

/-- The objects inside of the fields of a shape that have no relation. -/
def nestedObjectsIn (relations : List Relation) : Shape -> List Shape
  | [] => []
  | .mk name _ kind :: rest =>
      match Collection.relation? relations name with
      | some _ => nestedObjectsIn relations rest
      | none => nestedObjects kind ++ nestedObjectsIn relations rest

end

mutual

/-- The objects inside of a kind that have a field with an input, in the order of their types. -/
def nestedInputs : Kind -> List Shape
  | .unknown | .scalar _ | .resolved _ => []
  | .list element => nestedInputs element
  | .object fields =>
      nestedInputsIn fields ++ if fields.any fun field => hasInput field.kind then [fields] else []

/-- The objects inside of the fields of a shape that have a field with an input. -/
def nestedInputsIn : Shape -> List Shape
  | [] => []
  | .mk _ _ kind :: rest => nestedInputs kind ++ nestedInputsIn rest

end

/-- The definition of a field represents it: it has its name, and where the field holds objects
without a relation, its type is the registered one of these objects inside of as many lists. -/
structure Represents (types : List (String × List FieldDef)) (relations : List Relation)
    (field : Field) (definition : FieldDef) : Prop where
  name : definition.name = field.name
  nested {layers : Nat} {first : Field} {rest : Shape}
    (noRelation : Collection.relation? relations field.name = none)
    (isObject : field.kind = .inLists layers (.object (first :: rest))) :
    ∃ name fields, definition.type = .inLists layers (.named name) ∧ (name, fields) ∈ types ∧
      fields.map FieldDef.name = Shape.names (first :: rest)

/-- An input represents a field: it has its name, and where the field holds objects, its type is
free JSON or a registered one inside of as many lists. -/
structure RepresentsInput (types : List (String × List (String × TypeRef))) (field : Field)
    (input : String × TypeRef) : Prop where
  name : input.1 = field.name
  nested {layers : Nat} {fields : Shape}
    (isObject : field.kind = .inLists layers (.object fields)) :
    ∃ name, input.2 = .inLists layers (.named name) ∧
      (name = jsonScalar ∨ name ∈ types.map Prod.fst)

section Reading

variable {relations : List Relation} {shape : Shape} {fields : List FieldDef}
  {own types : List (String × List FieldDef)} {inputs : List (String × TypeRef)}
  {ownInputs inputTypes : List (String × List (String × TypeRef))}

theorem DerivesFields.names (derives : DerivesFields relations shape fields own) :
    fields.map FieldDef.name = shape.names := by
  induction shape generalizing fields own with
  | nil =>
      cases derives
      rfl
  | cons field rest inductionHypothesis =>
      cases derives with
      | relation isRelation derivesRest =>
          have defines : Defines [] relations field _ := .relation isRelation
          rw [List.map_cons, inductionHypothesis derivesRest, defines.name_eq]
          rfl
      | data _ _ _ derivesRest =>
          rw [List.map_cons, inductionHypothesis derivesRest]
          rfl

/-- The type of objects in lists is their own type in as many lists. -/
theorem Derives.of_inLists {layers : Nat} {first : Field} {rest : Shape} {type : TypeRef}
    (derives : Derives (.inLists layers (.object (first :: rest))) type own) :
    ∃ name fields, type = .inLists layers (.named name) ∧ (name, fields) ∈ own ∧
      fields.map FieldDef.name = Shape.names (first :: rest) := by
  induction layers generalizing type with
  | zero =>
      cases derives with
      | object name inside =>
          exact ⟨name, _, rfl, List.mem_append_right _ List.mem_cons_self, inside.names⟩
  | succ layers inductionHypothesis =>
      cases derives with
      | list inside =>
          obtain ⟨name, fields, rfl, isType, names⟩ := inductionHypothesis inside
          exact ⟨name, fields, rfl, isType, names⟩

theorem DerivesFields.represents (derives : DerivesFields relations shape fields own)
    (known : own ⊆ types) : List.Forall₂ (Represents types relations) shape fields := by
  induction shape generalizing fields own with
  | nil =>
      cases derives
      exact .nil
  | cons field rest inductionHypothesis =>
      cases derives with
      | relation isRelation derivesRest =>
          have defines : Defines [] relations field _ := .relation isRelation
          refine .cons ⟨defines.name_eq, ?_⟩ (inductionHypothesis derivesRest known)
          intro _ _ _ noRelation
          rw [isRelation] at noRelation
          cases noRelation
      | data _ _ derivesKind derivesRest =>
          obtain ⟨knownOwn, knownRest⟩ := List.append_subset.mp known
          refine .cons ⟨rfl, ?_⟩ (inductionHypothesis derivesRest knownRest)
          intro layers first others _ isObject
          simp only [Field.kind] at isObject
          subst isObject
          obtain ⟨name, fields, isType, member, names⟩ := derivesKind.of_inLists
          exact ⟨name, fields, isType, knownOwn member, names⟩

theorem DerivesInput.isSome_eq {kind : Kind} {type : Option TypeRef}
    (derives : DerivesInput kind type ownInputs) : type.isSome = hasInput kind := by
  match kind with
  | .unknown | .scalar _ | .resolved _ | .object _ =>
      cases derives <;> rfl
  | .list element =>
      cases derives with
      | list inside => rw [Option.isSome_map, inside.isSome_eq, hasInput]

theorem DerivesInput.of_inLists {layers : Nat} {fields : Shape} {type : TypeRef}
    (derives : DerivesInput (.inLists layers (.object fields)) (some type) ownInputs) :
    ∃ name, type = .inLists layers (.named name) ∧
      (name = jsonScalar ∨ name ∈ ownInputs.map Prod.fst) := by
  induction layers generalizing type with
  | zero =>
      cases derives with
      | json _ => exact ⟨jsonScalar, rfl, .inl rfl⟩
      | object name _ _ => exact ⟨name, rfl, .inr (by simp)⟩
  | succ layers inductionHypothesis =>
      generalize isType : some type = given at derives
      cases derives with
      | @list _ inner _ inside =>
          cases inner with
          | none => cases isType
          | some inner =>
              cases isType
              obtain ⟨name, rfl, refers⟩ := inductionHypothesis inside
              exact ⟨name, rfl, refers⟩

theorem DerivesInputs.represents (derives : DerivesInputs shape inputs ownInputs)
    (known : ownInputs ⊆ inputTypes) :
    List.Forall₂ (RepresentsInput inputTypes) (shape.filter fun field => hasInput field.kind)
      inputs := by
  induction shape generalizing inputs ownInputs with
  | nil =>
      cases derives
      exact .nil
  | cons field rest inductionHypothesis =>
      cases derives with
      | given derivesKind derivesRest =>
          obtain ⟨knownOwn, knownRest⟩ := List.append_subset.mp known
          rw [List.filter_cons_of_pos (by simp [Field.kind, ← derivesKind.isSome_eq])]
          refine .cons ⟨rfl, ?_⟩ (inductionHypothesis derivesRest knownRest)
          intro layers fields isObject
          simp only [Field.kind] at isObject
          subst isObject
          obtain ⟨name, isType, refers⟩ := derivesKind.of_inLists
          exact ⟨name, isType, refers.imp_right fun member => List.map_subset _ knownOwn member⟩
      | computed derivesKind derivesRest =>
          rw [List.filter_cons_of_neg (by simp [Field.kind, ← derivesKind.isSome_eq])]
          exact inductionHypothesis derivesRest (List.append_subset.mp known).2

theorem DerivesInputs.any_iff (derives : DerivesInputs shape inputs ownInputs) :
    (shape.any fun field => hasInput field.kind) = true ↔ inputs ≠ [] := by
  have sameLength := (derives.represents fun _ member => member).length_eq
  rw [← List.length_pos_iff, ← sameLength, List.length_pos_iff, ne_eq, List.filter_eq_nil_iff]
  simp

end Reading

mutual

/-- The types that are registered for a kind are those of the objects inside. -/
theorem Derives.represents_nested : ∀ (kind : Kind) {type : TypeRef}
    {own types : List (String × List FieldDef)}, Derives kind type own -> own ⊆ types ->
      List.Forall₂ (fun shape object => List.Forall₂ (Represents types []) shape object.2)
        (nestedObjects kind) own
  | .unknown, _, _, _, derives, _ => by cases derives; exact .nil
  | .scalar _, _, _, _, derives, _ => by cases derives; exact .nil
  | .resolved _, _, _, _, derives, _ => by cases derives; exact .nil
  | .object [], _, _, _, derives, _ => by cases derives; exact .nil
  | .list element, _, _, _, derives, known => by
      cases derives with
      | list inside => exact Derives.represents_nested element inside known
  | .object (first :: rest), _, _, _, derives, known => by
      cases derives with
      | object name inside =>
          obtain ⟨knownOwn, _⟩ := List.append_subset.mp known
          exact List.rel_append (DerivesFields.represents_nested (first :: rest) inside knownOwn)
            (.cons (inside.represents knownOwn) .nil)

theorem DerivesFields.represents_nested : ∀ (shape : Shape) {relations : List Relation}
    {fields : List FieldDef} {own types : List (String × List FieldDef)},
      DerivesFields relations shape fields own -> own ⊆ types ->
        List.Forall₂ (fun shape object => List.Forall₂ (Represents types []) shape object.2)
          (nestedObjectsIn relations shape) own
  | [], _, _, _, _, derives, _ => by cases derives; exact .nil
  | .mk name sourceKey kind :: rest, _, _, _, _, derives, known => by
      cases derives with
      | relation isRelation derivesRest =>
          simp only [Field.name] at isRelation
          rw [nestedObjectsIn, isRelation]
          exact DerivesFields.represents_nested rest derivesRest known
      | data noRelation _ derivesKind derivesRest =>
          obtain ⟨knownOwn, knownRest⟩ := List.append_subset.mp known
          rw [nestedObjectsIn, noRelation]
          exact List.rel_append (Derives.represents_nested kind derivesKind knownOwn)
            (DerivesFields.represents_nested rest derivesRest knownRest)

end

mutual

/-- The input types that are registered for a kind are those of the objects inside. -/
theorem DerivesInput.represents_nested : ∀ (kind : Kind) {type : Option TypeRef}
    {own types : List (String × List (String × TypeRef))}, DerivesInput kind type own ->
      own ⊆ types -> List.Forall₂ (fun shape input => List.Forall₂ (RepresentsInput types)
        (shape.filter fun field => hasInput field.kind) input.2) (nestedInputs kind) own
  | .unknown, _, _, _, derives, _ => by cases derives; exact .nil
  | .scalar _, _, _, _, derives, _ => by cases derives; exact .nil
  | .resolved _, _, _, _, derives, _ => by cases derives; exact .nil
  | .list element, _, _, _, derives, known => by
      cases derives with
      | list inside => exact DerivesInput.represents_nested element inside known
  | .object fields, _, _, _, derives, known => by
      cases derives with
      | json inside =>
          rw [nestedInputs, if_neg (fun given => inside.any_iff.mp given rfl), List.append_nil]
          exact DerivesInputs.represents_nested fields inside known
      | object name inside given =>
          obtain ⟨knownOwn, _⟩ := List.append_subset.mp known
          rw [nestedInputs, if_pos (inside.any_iff.mpr given)]
          exact List.rel_append (DerivesInputs.represents_nested fields inside knownOwn)
            (.cons (inside.represents knownOwn) .nil)

theorem DerivesInputs.represents_nested : ∀ (shape : Shape) {inputs : List (String × TypeRef)}
    {own types : List (String × List (String × TypeRef))}, DerivesInputs shape inputs own ->
      own ⊆ types -> List.Forall₂ (fun shape input => List.Forall₂ (RepresentsInput types)
        (shape.filter fun field => hasInput field.kind) input.2) (nestedInputsIn shape) own
  | [], _, _, _, derives, _ => by cases derives; exact .nil
  | .mk _ _ kind :: rest, _, _, _, derives, known => by
      cases derives with
      | given derivesKind derivesRest | computed derivesKind derivesRest =>
          obtain ⟨knownOwn, knownRest⟩ := List.append_subset.mp known
          exact List.rel_append (DerivesInput.represents_nested kind derivesKind knownOwn)
            (DerivesInputs.represents_nested rest derivesRest knownRest)

end

/-! ### All collections -/

/-- The types of a portion represent the collection: its own fields, those of every object inside,
and the same for its inputs.  Fields with a relation have no nested object types, but inputs. -/
structure Portion.Represents (portion : Portion) : Prop where
  fields : List.Forall₂ (Schema.Represents portion.nested portion.collection.relations)
    portion.collection.shape portion.fields
  nested : List.Forall₂
    (fun shape object => List.Forall₂ (Schema.Represents portion.nested []) shape object.2)
    (nestedObjectsIn portion.collection.relations portion.collection.shape) portion.nested
  inputs : List.Forall₂ (RepresentsInput portion.nestedInputs)
    ((contentFields portion.collection).filter fun field => hasInput field.kind) portion.inputs
  nestedInputs : List.Forall₂
    (fun shape input => List.Forall₂ (RepresentsInput portion.nestedInputs)
      (shape.filter fun field => hasInput field.kind) input.2)
    (nestedInputsIn (contentFields portion.collection)) portion.nestedInputs

theorem Portion.represents (portion : Portion) : portion.Represents where
  fields := portion.derives.represents fun _ member => member
  nested := DerivesFields.represents_nested _ portion.derives fun _ member => member
  inputs := portion.derivesInputs.represents fun _ member => member
  nestedInputs := DerivesInputs.represents_nested _ portion.derivesInputs fun _ member => member

/-- The types of collections that are added in turn are those of their portions.  In each, every
object inside of a field has a registered type of its own that represents it, and so has every
object with inputs.  The names that were claimed for these types are distinct, none is a name that
was reserved at the start, and the search for each of them ends. -/
theorem TypeDraft.nested_types {collections : List Collection} {draft : TypeDraft}
    (added : collections.foldlM TypeDraft.addCollection (.start collections) = .ok draft) :
    ∃ (portions : List Portion) (claimed : List String),
      portions.map Portion.collection = collections ∧
      draft.objects = portions.flatMap Portion.objects ∧
      draft.inputs = portions.flatMap Portion.inputTypes ∧
      (∀ portion ∈ portions, portion.Represents) ∧
      draft.names = claimed ++ (TypeDraft.start collections).names ∧ claimed.Nodup ∧
      (∀ name ∈ claimed, name ∉ (TypeDraft.start collections).names) ∧
      List.Subperm (portions.flatMap Portion.nestedNames) claimed ∧
      ∀ names base, ∃ steps, freeName names base = candidate base steps ∧
        candidate base steps ∉ names ∧ ∀ earlier < steps, candidate base earlier ∈ names := by
  obtain ⟨portions, claimed, areCollections, adds⟩ := exists_portions added
  exact ⟨portions, claimed, areCollections, adds.objects, adds.inputs,
    fun portion _ => portion.represents, adds.claims.names, adds.claims.distinct,
    adds.claims.free, adds.own, exists_candidate⟩

/-- Posts with objects in their field `meta`, next to a collection that has the name of its type. -/
def sampleNested : List Collection := [
  { entry := { name := "Post", path := "posts" }
    shape := [
      .mk "id" "id" (.scalar .string),
      .mk "meta" "meta" (.list (.object [
        .mk "author" "author" (.object [.mk "name" "name" (.scalar .string)]),
        .mk "tags" "tags" (.list (.scalar .string))]))] },
  { entry := { name := "PostMeta", path := "meta" }
    shape := [.mk "id" "id" (.scalar .string)] }]

theorem TypeDraft.nested_types_sampleNested :
    ∃ (draft : TypeDraft) (portions : List Portion),
      sampleNested.foldlM TypeDraft.addCollection (.start sampleNested) = .ok draft ∧
      draft.objects.map Prod.fst = ["PostMeta2Author", "PostMeta2", "Post", "PostMeta"] ∧
      draft.inputs.map Prod.fst =
        ["PostMetaAuthorInput", "PostMetaInput2", "PostInput", "PostMetaInput"] ∧
      portions.map Portion.collection = sampleNested ∧
      draft.objects = portions.flatMap Portion.objects ∧
      draft.inputs = portions.flatMap Portion.inputTypes ∧
      ∀ portion ∈ portions, portion.Represents := by
  have names : (sampleNested.foldlM TypeDraft.addCollection (.start sampleNested)).toOption.map
      (fun draft => (draft.objects.map Prod.fst, draft.inputs.map Prod.fst)) =
        some (["PostMeta2Author", "PostMeta2", "Post", "PostMeta"],
          ["PostMetaAuthorInput", "PostMetaInput2", "PostInput", "PostMetaInput"]) := by
    decide +kernel
  cases added : sampleNested.foldlM TypeDraft.addCollection (.start sampleNested) with
  | error problem =>
      rw [added] at names
      cases names
  | ok draft =>
      rw [added] at names
      obtain ⟨objectNames, inputNames⟩ := Prod.ext_iff.mp (Option.some.inj names)
      obtain ⟨portions, claimed, areCollections, objects, inputs, represent, _⟩ :=
        nested_types added
      exact ⟨draft, portions, rfl, objectNames, inputNames, areCollections, objects, inputs,
        represent⟩

end Schema

end ContentGraph
