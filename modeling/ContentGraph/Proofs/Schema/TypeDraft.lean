import ContentGraph.Proofs.Success
import ContentGraph.Schema.TypeDraft
import Mathlib.Data.List.Nodup
import Mathlib.Data.List.Perm.Subperm

/-!
Contract: the types that are derived from kinds.

Owns:
- `freeName_not_mem`: a claimed name was free;
- `Grows`, what deriving types does to a draft: it adds types, each under a name of its own that
  was free;
- `Describes`, which type is that of a kind, given the object types that there are;
- `outputType_ok` and `inputType_grows`: deriving the types of a kind makes the draft grow, and the
  derived output type describes the kind.
-/

namespace ContentGraph.Schema

/-! ### Free names -/

private theorem appendNumber_injective (base : String) :
    Function.Injective fun number : Nat => base ++ toString (number + 2) := by
  intro left right same
  have chars := congrArg String.toList same
  simp only [String.toList_append, List.append_cancel_left_eq] at chars
  have digits : Nat.toDigits 10 (left + 2) = Nat.toDigits 10 (right + 2) := by
    simpa [Nat.repr_eq_ofList_toDigits] using chars
  have sameNumber : left + 2 = right + 2 := by
    rw [← Nat.ofDigitChars_ten_toDigits (n := left + 2), digits, Nat.ofDigitChars_ten_toDigits]
  omega

/-- A name that is taken freely was not taken before. -/
theorem freeName_not_mem (names : List String) (base : String) :
    freeName names base ∉ names := by
  unfold freeName
  split
  · next taken =>
      dsimp only
      generalize isCandidates : (List.range (names.length + 1)).map (fun number =>
        base ++ toString (number + 2)) = candidates
      cases found : candidates.find? fun candidate => !names.contains candidate with
      | some candidate =>
          rw [Option.getD_some]
          simpa using List.find?_some found
      | none =>
          -- one more distinct candidate than there are names cannot all be taken
          have allTaken : candidates ⊆ names := by
            intro candidate member
            simpa using List.find?_eq_none.mp found candidate member
          have distinct : candidates.Nodup := by
            rw [← isCandidates]
            exact List.nodup_range.map (appendNumber_injective base)
          have atMost := distinct.length_le_of_subset allTaken
          have oneMore : candidates.length = names.length + 1 := by
            rw [← isCandidates, List.length_map, List.length_range]
          omega
  · next free => simpa using free

/-! ### Growing drafts -/

/-- Distinct names that are taken later and were free earlier. -/
structure Took (before after added : List String) : Prop where
  distinct : added.Nodup
  free : ∀ name ∈ added, name ∉ before
  taken : added ⊆ after

namespace Took

variable {before middle after own more : List String}

theorem append (first : Took before middle own) (second : Took middle after more)
    (kept : before ⊆ middle) (keptLater : middle ⊆ after) : Took before after (own ++ more) where
  distinct := by
    rw [List.nodup_append]
    refine ⟨first.distinct, second.distinct, fun name inOwn other inMore same => ?_⟩
    exact second.free other inMore (same ▸ first.taken inOwn)
  free := by
    rw [List.forall_mem_append]
    exact ⟨first.free, fun name inMore isOld => second.free name inMore (kept isOld)⟩
  taken := List.append_subset.mpr ⟨fun _ member => keptLater (first.taken member), second.taken⟩

theorem perm (took : Took before after own) (same : List.Perm own more) :
    Took before after more where
  distinct := same.nodup_iff.mp took.distinct
  free name member := took.free name (same.mem_iff.mpr member)
  taken _ member := took.taken (same.mem_iff.mpr member)

end Took

/-- A draft has the names and the types of an earlier one, and more types, each under a name of its
own that was free. -/
structure Grows (before after : TypeDraft) : Prop where
  names : before.names ⊆ after.names
  types : ∃ objects inputs, after.objects = before.objects ++ objects ∧
    after.inputs = before.inputs ++ inputs ∧
    Took before.names after.names (objects.map Prod.fst ++ inputs.map Prod.fst)

namespace Grows

variable {before middle after draft : TypeDraft} {base : String}

private theorem sameTypes (names : before.names ⊆ after.names)
    (objects : after.objects = before.objects) (inputs : after.inputs = before.inputs) :
    Grows before after where
  names
  types := by
    refine ⟨[], [], by rw [objects, List.append_nil], by rw [inputs, List.append_nil], ?_⟩
    exact ⟨List.nodup_nil, List.forall_mem_nil _, List.nil_subset _⟩

theorem refl (draft : TypeDraft) : Grows draft draft :=
  sameTypes (fun _ member => member) rfl rfl

theorem claim (draft : TypeDraft) (base : String) : Grows draft (draft.claim base).2 :=
  sameTypes (List.subset_cons_self _ _) rfl rfl

theorem trans (first : Grows before middle) (second : Grows middle after) :
    Grows before after := by
  obtain ⟨objects, inputs, isObjects, isInputs, took⟩ := first.types
  obtain ⟨moreObjects, moreInputs, areMoreObjects, areMoreInputs, tookMore⟩ := second.types
  refine ⟨fun _ member => second.names (first.names member), objects ++ moreObjects,
    inputs ++ moreInputs, ?_, ?_, ?_⟩
  · rw [areMoreObjects, isObjects, List.append_assoc]
  · rw [areMoreInputs, isInputs, List.append_assoc]
  · refine (took.append tookMore first.names second.names).perm ?_
    rw [List.map_append, List.map_append, List.append_assoc, List.append_assoc]
    exact (List.perm_append_comm_assoc _ _ _).append_left _

/-- The object types that were added have names of their own that were free. -/
theorem objects (grows : Grows before after) : ∃ added, after.objects = before.objects ++ added ∧
    Took before.names after.names (added.map Prod.fst) := by
  obtain ⟨objects, inputs, isObjects, _, took⟩ := grows.types
  refine ⟨objects, isObjects, took.distinct.of_append_left, ?_, ?_⟩
  · exact fun name member => took.free name (List.mem_append_left _ member)
  · exact fun _ member => took.taken (List.mem_append_left _ member)

theorem objects_subset (grows : Grows before after) : before.objects ⊆ after.objects := by
  obtain ⟨added, isAdded, _⟩ := grows.objects
  rw [isAdded]
  exact List.subset_append_left _ _

/-- A claimed name was free, and so were the names of the types that came after it. -/
private theorem took_claim {own : List String}
    (grows : Grows (draft.claim base).2 after)
    (took : Took (draft.claim base).2.names after.names own) :
    Took draft.names after.names ((draft.claim base).1 :: own) := by
  have isFree : (draft.claim base).1 ∉ draft.names := freeName_not_mem draft.names base
  have claimed : Took draft.names (draft.claim base).2.names [(draft.claim base).1] :=
    ⟨List.nodup_singleton _, List.forall_mem_singleton.mpr isFree,
      List.cons_subset.mpr ⟨List.mem_cons_self, List.nil_subset _⟩⟩
  exact claimed.append took (Grows.claim draft base).names grows.names

/-- The object type of a claimed name comes after the types that are nested in it. -/
theorem registerObject (grows : Grows (draft.claim base).2 after) (fields : List FieldDef) :
    Grows draft { after with objects := after.objects ++ [((draft.claim base).1, fields)] } := by
  obtain ⟨objects, inputs, isObjects, isInputs, took⟩ := grows.types
  refine ⟨fun _ member => grows.names (List.mem_cons_of_mem _ member),
    objects ++ [((draft.claim base).1, fields)], inputs, ?_, isInputs, ?_⟩
  · rw [isObjects, List.append_assoc]
    rfl
  · refine (took_claim grows took).perm ?_
    rw [List.map_append, List.append_assoc]
    exact List.perm_middle.symm

/-- The input type of a claimed name comes after the types that are nested in it. -/
theorem registerInput (grows : Grows (draft.claim base).2 after)
    (fields : List (String × TypeRef)) :
    Grows draft { after with inputs := after.inputs ++ [((draft.claim base).1, fields)] } := by
  obtain ⟨objects, inputs, isObjects, isInputs, took⟩ := grows.types
  refine ⟨fun _ member => grows.names (List.mem_cons_of_mem _ member),
    objects, inputs ++ [((draft.claim base).1, fields)], isObjects, ?_, ?_⟩
  · rw [isInputs, List.append_assoc]
    rfl
  · refine (took_claim grows took).perm ?_
    rw [List.map_append, ← List.append_assoc]
    exact (List.perm_append_singleton _ _).symm

end Grows

/-! ### The types of kinds -/

mutual

/-- A type is that of a kind, given the object types that there are. -/
inductive Describes (types : List (String × List FieldDef)) : Kind -> TypeRef -> Prop where
  | unknown : Describes types .unknown (.named "String")
  | scalar (form : Scalar) : Describes types (.scalar form) (.named form.typeName)
  | list {element : Kind} {type : TypeRef} (inside : Describes types element type) :
      Describes types (.list element) (.list type)
  | json : Describes types (.object []) (.named jsonScalar)
  | object {first : Field} {rest : Shape} {name : String} {fields : List FieldDef}
      (isType : (name, fields) ∈ types) (describes : DescribesFields types (first :: rest) fields) :
      Describes types (.object (first :: rest)) (.named name)
  | resolved {resolver : Resolver} {type : TypeRef}
      (isRead : TypeRef.parse resolver.typeRef = .ok type) : Describes types (.resolved resolver) type

/-- The fields of an object type are those of a shape. -/
inductive DescribesFields (types : List (String × List FieldDef)) :
    Shape -> List FieldDef -> Prop where
  | nil : DescribesFields types [] []
  | cons {name sourceKey : String} {kind : Kind} {arguments : List Argument} {type : TypeRef}
      {rest : Shape} {others : List FieldDef} (areArguments : kindArguments kind = .ok arguments)
      (describes : Describes types kind type) (describesRest : DescribesFields types rest others) :
      DescribesFields types (.mk name sourceKey kind :: rest)
        (⟨name, arguments, type, .data sourceKey (fieldKind kind)⟩ :: others)

end

mutual

/-- Deriving the output type of a kind makes the draft grow, and the type describes the kind. -/
theorem outputType_ok : ∀ (kind : Kind) {base : String} {draft after : TypeDraft} {type : TypeRef},
    outputType base draft kind = .ok (type, after) ->
      Grows draft after ∧ ∀ types, after.objects ⊆ types -> Describes types kind type
  | .unknown, base, draft, after, type, derived => by
      simp only [outputType, Except.ok.injEq, Prod.mk.injEq] at derived
      obtain ⟨rfl, rfl⟩ := derived
      exact ⟨.refl _, fun _ _ => .unknown⟩
  | .scalar form, base, draft, after, type, derived => by
      simp only [outputType, Except.ok.injEq, Prod.mk.injEq] at derived
      obtain ⟨rfl, rfl⟩ := derived
      exact ⟨.refl _, fun _ _ => .scalar form⟩
  | .list element, base, draft, after, type, derived => by
      rw [outputType, bind_eq_ok] at derived
      obtain ⟨⟨inner, middle⟩, derivedInner, isType⟩ := derived
      cases isType
      obtain ⟨grows, describes⟩ := outputType_ok element derivedInner
      exact ⟨grows, fun types known => .list (describes types known)⟩
  | .object [], base, draft, after, type, derived => by
      simp only [outputType, Except.ok.injEq, Prod.mk.injEq] at derived
      obtain ⟨rfl, rfl⟩ := derived
      exact ⟨.refl _, fun _ _ => .json⟩
  | .object (first :: rest), base, draft, after, type, derived => by
      rw [outputType, bind_eq_ok] at derived
      obtain ⟨⟨fields, middle⟩, derivedFields, isType⟩ := derived
      cases isType
      obtain ⟨grows, describes⟩ := outputFields_ok (first :: rest) derivedFields
      refine ⟨grows.registerObject fields, fun types known => .object (known ?_) (describes types ?_)⟩
      · exact List.mem_append_right _ List.mem_cons_self
      · exact fun _ member => known (List.mem_append_left _ member)
  | .resolved resolver, base, draft, after, type, derived => by
      rw [outputType, bind_eq_ok] at derived
      obtain ⟨read, isRead, isType⟩ := derived
      cases isType
      exact ⟨.refl _, fun _ _ => .resolved isRead⟩

/-- Deriving the fields of a shape makes the draft grow, and they describe the shape. -/
theorem outputFields_ok : ∀ (shape : Shape) {parent : String} {draft after : TypeDraft}
    {fields : List FieldDef}, outputFields parent draft shape = .ok (fields, after) ->
      Grows draft after ∧ ∀ types, after.objects ⊆ types -> DescribesFields types shape fields
  | [], parent, draft, after, fields, derived => by
      simp only [outputFields, Except.ok.injEq, Prod.mk.injEq] at derived
      obtain ⟨rfl, rfl⟩ := derived
      exact ⟨.refl _, fun _ _ => .nil⟩
  | .mk name sourceKey kind :: rest, parent, draft, after, fields, derived => by
      simp only [outputFields, bind_eq_ok] at derived
      obtain ⟨⟨type, middle⟩, derivedType, arguments, areArguments, ⟨others, last⟩, derivedRest,
        isFields⟩ := derived
      cases isFields
      obtain ⟨growsFirst, describes⟩ := outputType_ok kind derivedType
      obtain ⟨growsRest, describesRest⟩ := outputFields_ok rest derivedRest
      refine ⟨growsFirst.trans growsRest, fun types known => ?_⟩
      have knownFirst : middle.objects ⊆ types := fun _ member =>
        known (growsRest.objects_subset member)
      exact .cons areArguments (describes types knownFirst) (describesRest types known)

end

mutual

/-- Deriving the input type of a kind makes the draft grow. -/
theorem inputType_grows : ∀ (kind : Kind) (base : String) (draft : TypeDraft),
    Grows draft (inputType base draft kind).2
  | .unknown, _, draft => .refl draft
  | .scalar _, _, draft => .refl draft
  | .resolved _, _, draft => .refl draft
  | .list element, base, draft => by
      rw [inputType]
      exact inputType_grows element base draft
  | .object fields, base, draft => by
      have inside := inputFields_grows fields base (draft.claim (inputName base)).2
      simp only [inputType]
      split
      · next isDerived =>
          rw [isDerived] at inside
          exact (Grows.claim draft (inputName base)).trans inside
      · next isDerived =>
          rw [isDerived] at inside
          exact inside.registerInput _

/-- Deriving the input types of a shape's fields makes the draft grow. -/
theorem inputFields_grows : ∀ (shape : Shape) (parent : String) (draft : TypeDraft),
    Grows draft (inputFields parent draft shape).2
  | [], _, draft => .refl draft
  | .mk name _ kind :: rest, parent, draft => by
      have grows := (inputType_grows kind (nestedName parent name) draft).trans
        (inputFields_grows rest parent (inputType (nestedName parent name) draft kind).2)
      simp only [inputFields]
      split <;> exact grows

end

end ContentGraph.Schema
