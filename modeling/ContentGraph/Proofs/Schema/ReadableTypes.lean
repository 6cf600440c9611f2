import ContentGraph.Proofs.Schema.DistinctNames
import ContentGraph.Proofs.Schema.TypeText
import ContentGraph.Proofs.Shape.CompiledOverrides
import ContentGraph.Proofs.Shape.Naming

/-!
Contract: declared types that can be read.

Owns:
- `parse_of_scalar`: the scalars can be read, alone and in brackets;
- `every_rename`: naming keeps the invariants that all objects have;
- `Kind.Readable`, that the types of a computed field can be read, which compiling overrides and
  reducing content keep;
- `exists_assembled`: types are assembled for collections that can be read and whose names are
  apart.
-/

namespace ContentGraph

/-! ### Names of scalars -/

namespace TypeRef

/-- A scalar is read as the type of its name, and in brackets as the list of that. -/
theorem parse_of_scalar {name : String} (isScalar : name ∈ Schema.scalarNames) :
    parse name = .ok (.named name) ∧ parse ("[" ++ name ++ "]") = .ok (.list (.named name)) := by
  have areNames : ∀ name ∈ Schema.scalarNames, isName name.toList = true := by decide
  have isGraphName : Text.IsGraphName name := isName_iff.mp (areNames name isScalar)
  exact ⟨parseChars_of_derives (derives_text (.named name) isGraphName),
    parseChars_of_derives (derives_text (.list (.named name)) isGraphName)⟩

end TypeRef

/-! ### Invariants of computed fields -/

namespace Kind

variable {property : Kind -> Prop}

mutual

/-- Naming keeps what holds of all objects, whatever their fields are. -/
theorem MergeInvariant.every_rename {transform : FieldTransform}
    (invariant : MergeInvariant property) (objects : ∀ fields, property (.object fields)) :
    ∀ kind renamed : Kind, rename transform kind = .ok renamed -> Every property kind ->
      Every property renamed
  | .unknown, _, isNamed, every => by cases isNamed; exact every
  | .scalar _, _, isNamed, every => by cases isNamed; exact every
  | .resolved _, _, isNamed, every => by cases isNamed; exact every
  | .list element, _, isNamed, every => by
      obtain ⟨inner, isInner, rfl⟩ := rename_list_ok.mp isNamed
      exact ⟨invariant.list _, every_rename invariant objects element inner isInner every.2⟩
  | .object fields, _, isNamed, every => by
      obtain ⟨named, areNamed, rfl⟩ := rename_object_ok.mp isNamed
      exact every_object_iff.mpr ⟨objects named,
        every_renameFields invariant objects fields [] named areNamed every.2
          (List.forall_mem_nil _)⟩

theorem MergeInvariant.every_renameFields {transform : FieldTransform}
    (invariant : MergeInvariant property) (objects : ∀ fields, property (.object fields)) :
    ∀ fields named renamed : Shape, renameFields transform named fields = .ok renamed ->
      EveryField property fields -> (∀ field ∈ named, Every property field.kind) ->
      ∀ field ∈ renamed, Every property field.kind
  | [], _, _, areNamed, _, every => by cases areNamed; exact every
  | .mk key sourceKey kind :: rest, named, renamed, areNamed, everyFields, every => by
      obtain ⟨name, _, inner, isInner, isRest⟩ := renameFields_cons_ok.mp areNamed
      have everyInner := every_rename invariant objects kind inner isInner everyFields.1
      refine every_renameFields invariant objects rest _ renamed isRest everyFields.2 ?_
      have everyAdded : Every property (Field.mk name sourceKey inner).kind := everyInner
      obtain ⟨entry, isSet, everyEntry, _⟩ := addNamed_sets invariant every everyAdded
      rw [isSet]
      intro field member
      rcases Shape.mem_setField member with rfl | isOld
      · exact everyEntry
      · exact every field isOld

end

/-! ### Readable types -/

/-- The types of a computed field can be read. -/
def Readable : Kind -> Prop
  | .resolved resolver =>
      (∃ type, TypeRef.parse resolver.typeRef = .ok type) ∧
        ∃ arguments, Schema.resolverArguments resolver.arguments = .ok arguments
  | _ => True

theorem invariant_readable : Invariant Readable where
  unknown := trivial
  scalar _ := trivial
  list _ := trivial
  inferred _ _ := trivial
  merge _ _ _ _ := trivial
  setField _ _ _ _ := trivial
  filter _ _ _ := trivial

/-- Overrides that declare scalars can be read. -/
theorem readable_compile {overrides : List Override} {tree : ResolverTree}
    (scalars : ∀ override ∈ overrides, override.typeName ∈ Schema.scalarNames)
    (compiled : Override.compile overrides = .ok tree) :
    Every Readable (.object (ofTree tree)) := by
  refine invariant_readable.every_compile (fun override member => ?_) compiled
  obtain ⟨isRead, isList⟩ := TypeRef.parse_of_scalar (scalars override member)
  exact List.forall_mem_cons.mpr ⟨⟨⟨_, isRead⟩, _, rfl⟩,
    List.forall_mem_singleton.mpr ⟨⟨_, isList⟩, _, rfl⟩⟩

end Kind

theorem Shape.readable_reduce {overrides fragments : ResolverTree} {referenceField : String}
    {transform : FieldTransform} {nodes : List Json.Value} {shape : Shape}
    (readOverrides : Kind.Every Kind.Readable (.object (Kind.ofTree overrides)))
    (readFragments : Kind.Every Kind.Readable (.object (Kind.ofTree fragments)))
    (wellKeyed : ∀ node ∈ nodes, node.WellKeyed)
    (reduced : reduce overrides fragments referenceField transform nodes = .ok shape) :
    Kind.Every Kind.Readable (.object shape) :=
  Kind.invariant_readable.every_rename (fun _ => trivial) _ _
    (Kind.rename_object_ok.mpr ⟨shape, reduced, rfl⟩)
    (every_observed Kind.invariant_readable readOverrides readFragments referenceField wellKeyed)

namespace Schema

open Kind (Every EveryField Readable)

variable {collections : List Collection} {collection : Collection} {draft : TypeDraft}
  {parts : Parts}

mutual

/-- A kind that can be read has an output type. -/
theorem exists_outputType : ∀ (kind : Kind) (base : String) (draft : TypeDraft),
    Every Readable kind -> ∃ derived, outputType base draft kind = .ok derived
  | .unknown, _, _, _ => ⟨_, rfl⟩
  | .scalar _, _, _, _ => ⟨_, rfl⟩
  | .object [], _, _, _ => ⟨_, rfl⟩
  | .list element, base, draft, readable => by
      obtain ⟨derived, isDerived⟩ := exists_outputType element base draft readable.2
      rw [outputType, isDerived]
      exact ⟨_, rfl⟩
  | .object (first :: rest), base, draft, readable => by
      obtain ⟨derived, isDerived⟩ := exists_outputFields (first :: rest) (draft.claim base).1
        (draft.claim base).2 readable.2
      rw [outputType]
      exact ⟨_, bind_eq_ok.mpr ⟨derived, isDerived, rfl⟩⟩
  | .resolved resolver, _, _, readable => by
      obtain ⟨⟨type, isRead⟩, _⟩ := readable
      rw [outputType, isRead]
      exact ⟨_, rfl⟩

theorem exists_outputFields : ∀ (fields : List Field) (parent : String) (draft : TypeDraft),
    EveryField Readable fields -> ∃ derived, outputFields parent draft fields = .ok derived
  | [], _, _, _ => ⟨_, rfl⟩
  | .mk name sourceKey kind :: rest, parent, draft, readable => by
      obtain ⟨⟨type, middle⟩, isType⟩ :=
        exists_outputType kind (nestedName parent name) draft readable.1
      obtain ⟨others, areOthers⟩ := exists_outputFields rest parent middle readable.2
      have hasArguments : ∃ arguments, kindArguments kind = .ok arguments := by
        cases kind with
        | resolved resolver => exact readable.1.2
        | _ => exact ⟨[], rfl⟩
      obtain ⟨arguments, areArguments⟩ := hasArguments
      simp only [outputFields, isType, areArguments, areOthers, bind, Except.bind]
      exact ⟨_, rfl⟩

end

/-! ### Types of all collections -/

/-- Building stopped at a type that could not be read. -/
def Fails {Outcome : Type} (outcome : Except BuildProblem Outcome) : Prop :=
  ∃ failure, outcome = .error (.failed failure)

theorem not_fails_ok {Outcome : Type} (outcome : Outcome) :
    ¬ Fails (.ok outcome : Except BuildProblem Outcome) := by
  rintro ⟨_, isFailed⟩
  cases isFailed

theorem not_fails_bind {Source Target : Type} {step : Except BuildProblem Source}
    {next : Source -> Except BuildProblem Target} (first : ¬ Fails step)
    (rest : ∀ source, ¬ Fails (next source)) : ¬ Fails (step >>= next) := by
  rintro ⟨failure, isFailed⟩
  rcases bind_eq_error.mp isFailed with isFirst | ⟨source, _, isRest⟩
  · exact first ⟨failure, isFirst⟩
  · exact rest source ⟨failure, isRest⟩

theorem not_fails_foldlM {Source Target : Type} {step : Target -> Source -> Except BuildProblem Target}
    {sources : List Source} (each : ∀ source ∈ sources, ∀ target, ¬ Fails (step target source)) :
    ∀ start, ¬ Fails (sources.foldlM step start) := by
  induction sources with
  | nil => exact not_fails_ok
  | cons first rest inductionHypothesis =>
      obtain ⟨eachFirst, eachRest⟩ := List.forall_mem_cons.mp each
      intro start
      rw [List.foldlM_cons]
      exact not_fails_bind (eachFirst start) (inductionHypothesis eachRest)

theorem addField_not_fails (typeName : String) (fields : List FieldDef) (field : FieldDef) :
    ¬ Fails (addField typeName fields field) := by
  unfold addField
  split
  · rintro ⟨_, isFailed⟩
    cases isFailed
  · exact not_fails_ok _

theorem collectionFields_not_fails {shape : Shape}
    (readable : ∀ field ∈ shape, Every Readable field.kind) :
    ∀ (fields : List FieldDef) (draft : TypeDraft),
      ¬ Fails (collectionFields collection fields draft shape) := by
  induction shape with
  | nil => exact fun fields draft => not_fails_ok (fields, draft)
  | cons field rest inductionHypothesis =>
      obtain ⟨readableFirst, readableRest⟩ := List.forall_mem_cons.mp readable
      intro fields draft
      have derives : ∃ derived, collectionField collection draft field = .ok derived := by
        unfold collectionField
        split
        · exact ⟨_, rfl⟩
        · exact exists_outputFields [field] _ draft
            (Kind.everyField_iff.mpr (List.forall_mem_singleton.mpr readableFirst))
      obtain ⟨⟨own, after⟩, isDerived⟩ := derives
      rw [collectionFields, isDerived]
      exact not_fails_bind (not_fails_foldlM (fun field _ fields => addField_not_fails _ fields field) fields)
        fun extended => inductionHypothesis readableRest extended after

theorem Parts.add_not_fails (readable : Every Readable (.object collection.shape)) (parts : Parts) :
    ¬ Fails (parts.add collection) := by
  refine not_fails_bind (not_fails_bind ?_ ?_) fun draft => not_fails_bind ?_ fun query =>
    not_fails_bind ?_ fun mutation => not_fails_ok _
  · exact collectionFields_not_fails (Kind.every_object_iff.mp readable).2 _ _
  · rintro ⟨fields, draft⟩
    dsimp only
    split <;> exact not_fails_ok _
  · exact not_fails_foldlM (fun field _ fields => addField_not_fails _ fields field) _
  · exact not_fails_foldlM (fun field _ fields => addField_not_fails _ fields field) _

/-- Where all declared types can be read and no name is handed over twice, the types of all
collections are assembled, and their names are distinct. -/
theorem exists_assembled
    (readable : ∀ collection ∈ collections, Every Readable (.object collection.shape))
    (hands : HandsDistinct collections) :
    ∃ parts, assemble collections = .ok parts ∧ parts.Distinct := by
  have noFailure : ¬ Fails (assemble collections) :=
    not_fails_foldlM (fun collection member parts =>
      Parts.add_not_fails (readable collection member) parts) _
  have noClash := clashes_build_iff.not.mp hands.1
  cases isAssembled : assemble collections with
  | ok parts => exact ⟨parts, rfl, hands.2 parts isAssembled⟩
  | error problem =>
      rw [isAssembled] at noFailure noClash
      cases problem with
      | failed failure => exact absurd ⟨failure, rfl⟩ noFailure
      | fieldClash typeName field => exact absurd ⟨typeName, field, rfl⟩ noClash

end Schema

end ContentGraph
