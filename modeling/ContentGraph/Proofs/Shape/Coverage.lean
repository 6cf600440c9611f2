import ContentGraph.Proofs.Shape.Invariant

/-!
Contract: kinds that leave nothing of a value out.

Owns:
- `Kind.Covers`: a kind admits a value, and every key of an object inside has a field under its
  name that covers what stands there;
- `Merged.covers`: merging never narrows, so a merge covers what either kind covers;
- `covers_infer` and `covers_overlay`: the kind of a value covers it, also when it is laid over
  declared fields.

`Fits` asks only for the values that fields read.  It does not survive a merge with a shape whose
further fields read keys that the first one passed over; coverage does, because no key is passed
over.
-/

namespace ContentGraph

open ContentGraph.Json

namespace Kind

/-! ### Coverage -/

mutual

/-- A kind admits a value and has, under its name, a field for every key of an object inside. -/
def Covers (nameOf : String -> Except Failure String) (value : Value) : Kind -> Prop
  | .unknown => value = .null
  | .scalar form => FitsScalar value form
  | .list element =>
      match value with
      | .array items => ∀ item ∈ items, Covers nameOf item element
      | single => Covers nameOf single element
  | .object fields =>
      match value with
      | .null => True
      | .object held =>
          ∀ entry ∈ held, ∃ name, nameOf entry.1 = .ok name ∧ CoversAt nameOf entry.2 name fields
      | _ => False
  | .resolved _ => True

/-- There is a field of a name, and it covers a value. -/
def CoversAt (nameOf : String -> Except Failure String) (value : Value) (name : String) :
    List Field -> Prop
  | [] => False
  | .mk other _ kind :: rest =>
      if other = name then Covers nameOf value kind else CoversAt nameOf value name rest

end

variable {nameOf : String -> Except Failure String} {value : Value}

theorem coversAt_iff {name : String} {fields : Shape} :
    CoversAt nameOf value name fields ↔
      ∃ field, fields.field? name = some field ∧ Covers nameOf value field.kind := by
  induction fields with
  | nil => simp [CoversAt, Shape.field?]
  | cons first rest inductionHypothesis =>
      obtain ⟨other, sourceKey, kind⟩ := first
      by_cases same : other = name
      · simp [CoversAt, Shape.field?, Field.name, Field.kind, same]
      · simpa [CoversAt, Shape.field?, Field.name, same] using inductionHypothesis

/-- An object is covered by a shape that has, for each of its keys, a field under the name of the
key that covers what stands there. -/
theorem covers_object_iff {held : Object} {fields : Shape} :
    Covers nameOf (.object held) (.object fields) ↔
      ∀ entry ∈ held, ∃ name field, nameOf entry.1 = .ok name ∧
        fields.field? name = some field ∧ Covers nameOf entry.2 field.kind := by
  simp only [Covers, coversAt_iff]
  refine forall₂_congr fun entry _ => exists_congr fun name => ?_
  exact exists_and_left.symm

theorem covers_null (nameOf : String -> Except Failure String) :
    ∀ kind : Kind, Covers nameOf .null kind
  | .unknown => by simp [Covers]
  | .scalar form => by cases form <;> simp [Covers, FitsScalar]
  | .list element => by simpa [Covers] using covers_null nameOf element
  | .object fields => by simp [Covers]
  | .resolved _ => by simp [Covers]

theorem covers_list_array {items : List Value} {element : Kind} :
    Covers nameOf (.array items) (.list element) ↔ ∀ item ∈ items, Covers nameOf item element := by
  rw [Covers]

theorem covers_list_of_single {element : Kind} (noArray : value.items? = none) :
    Covers nameOf value (.list element) ↔ Covers nameOf value element := by
  cases value <;> simp [Covers, Value.items?] at noArray ⊢

/-- What the kind of a single value covers is no array. -/
theorem Single.items?_of_covers {kind : Kind} (single : Single kind)
    (covers : Covers nameOf value kind) : value.items? = none := by
  cases value with
  | array items =>
      cases single with
      | @scalar form informative =>
          cases form <;> simp [Covers, FitsScalar, Value.ofInt] at covers informative
      | object fields => simp [Covers] at covers
  | _ => rfl

/-! ### Merges -/

/-- What either scalar admits, the widened scalar admits. -/
theorem fitsScalar_widen {left right : Scalar}
    (fits : FitsScalar value left ∨ FitsScalar value right) :
    FitsScalar value (left.widen right) := by
  have ofInt : FitsScalar value .int -> FitsScalar value .float := by
    rintro (isNull | ⟨number, isNumber, _⟩)
    · exact .inl isNull
    · exact .inr ⟨.int number, isNumber⟩
  unfold Scalar.widen
  split
  · next same => exact fits.elim id fun right => same ▸ right
  · split
    · next numeric =>
        rcases numeric with ⟨rfl, rfl⟩ | ⟨rfl, rfl⟩
        · exact fits.elim ofInt id
        · exact fits.elim id ofInt
    · trivial

/-- A list that takes a single value in covers what the list or the single value covers. -/
private theorem covers_list_taken {element single widened : Kind} (isSingle : Single single)
    (widens : ∀ value, Covers nameOf value element ∨ Covers nameOf value single ->
      Covers nameOf value widened) :
    Covers nameOf value (.list element) ∨ Covers nameOf value single ->
      Covers nameOf value (.list widened) := by
  rintro (inList | isTaken)
  · cases value with
    | array items =>
        rw [covers_list_array] at inList ⊢
        exact fun item member => widens item (.inl (inList item member))
    | _ =>
        rw [covers_list_of_single rfl] at inList ⊢
        exact widens _ (.inl inList)
  · rw [covers_list_of_single (isSingle.items?_of_covers isTaken)]
    exact widens value (.inr isTaken)

/-- A field that took another one in covers what either of them covers. -/
private theorem covers_merge? {mine theirs : Option Field} {field : Field}
    (found : mine = some field ∨ theirs = some field)
    (covers : Covers nameOf value field.kind)
    (widens : ∀ own other, mine = some own -> theirs = some other ->
      Covers nameOf value own.kind ∨ Covers nameOf value other.kind ->
      Covers nameOf value (own.kind.merge other.kind)) :
    ∃ merged, Field.merge? mine theirs = some merged ∧ Covers nameOf value merged.kind := by
  rcases found with rfl | rfl
  · cases theirs with
    | none => exact ⟨field, rfl, covers⟩
    | some other => exact ⟨_, rfl, widens field other rfl rfl (.inl covers)⟩
  · cases mine with
    | none => exact ⟨field, rfl, covers⟩
    | some own => exact ⟨_, rfl, widens own field rfl rfl (.inr covers)⟩

/-- What either kind covers, their merge covers. -/
theorem Merged.covers {left right merge : Kind} (merged : Merged left right merge) :
    ∀ value, Covers nameOf value left ∨ Covers nameOf value right ->
      Covers nameOf value merge := by
  induction merged with
  | computedLeft | computedRight | scalarObject | objectScalar | jsonList | listJson =>
      intro value _
      simp [Covers, FitsScalar]
  | unknownLeft other =>
      rintro value (isNull | covers)
      · exact isNull ▸ covers_null nameOf other
      · exact covers
  | unknownRight other =>
      rintro value (covers | isNull)
      · exact covers
      · exact isNull ▸ covers_null nameOf other
  | scalars left right =>
      intro value covers
      exact fitsScalar_widen covers
  | lists elements inductionHypothesis =>
      intro value covers
      cases value with
      | array items =>
          simp only [covers_list_array] at covers ⊢
          intro item member
          exact inductionHypothesis item (covers.imp (· item member) (· item member))
      | _ =>
          rw [covers_list_of_single rfl] at covers ⊢
          rw [covers_list_of_single rfl] at covers
          exact inductionHypothesis _ covers
  | listSingle isSingle taken inductionHypothesis =>
      intro value
      exact covers_list_taken isSingle inductionHypothesis
  | singleList isSingle taken inductionHypothesis =>
      intro value covers
      exact covers_list_taken isSingle inductionHypothesis covers.symm
  | @objects left right shared inductionHypothesis =>
      intro value covers
      cases value with
      | null => exact covers_null nameOf _
      | object held =>
          simp only [covers_object_iff] at covers ⊢
          intro entry member
          -- The key has its field in one of the shapes; the other can only widen that field.
          have found : ∃ name field, nameOf entry.1 = .ok name ∧
              (left.field? name = some field ∨ right.field? name = some field) ∧
              Covers nameOf entry.2 field.kind := by
            rcases covers with covers | covers <;>
              obtain ⟨name, field, named, found, covered⟩ := covers entry member
            · exact ⟨name, field, named, .inl found, covered⟩
            · exact ⟨name, field, named, .inr found, covered⟩
          obtain ⟨name, field, named, found, covered⟩ := found
          obtain ⟨merged, isMerged, coversMerged⟩ := covers_merge? found covered
            fun own other foundOwn foundOther =>
              have ⟨isOwn, ownName⟩ := Shape.mem_of_field? foundOwn
              inductionHypothesis own isOwn other (ownName ▸ foundOther) entry.2
          exact ⟨name, merged, named, Shape.field?_merge ▸ isMerged, coversMerged⟩
      | _ => simp [Covers] at covers

theorem covers_merge_left {kind : Kind} (other : Kind) (covers : Covers nameOf value kind) :
    Covers nameOf value (kind.merge other) :=
  (merged kind other).covers value (.inl covers)

theorem covers_merge_right {kind : Kind} (other : Kind) (covers : Covers nameOf value kind) :
    Covers nameOf value (other.merge kind) :=
  (merged other kind).covers value (.inr covers)

/-! ### Inference -/

mutual

/-- The kind of a value covers it, with every content key as its own name. -/
theorem covers_infer : ∀ value : Value, value.WellKeyed ->
    Covers Except.ok value (infer value)
  | .null, _ => by simp [infer, Covers]
  | .bool truth, _ => by simp [infer, Covers, FitsScalar]
  | .number (.int number), _ => by
      rw [infer]
      split
      · next inRange => exact .inr ⟨number, rfl, inRange⟩
      · exact .inr ⟨.int number, rfl⟩
  | .number (.double number), _ => by simp [infer, Covers, FitsScalar]
  | .string text, _ => by simp [infer, Covers, FitsScalar]
  | .array items, wellKeyed => by
      rw [infer, covers_list_array]
      rw [Value.WellKeyed] at wellKeyed
      exact (covers_inferItems items wellKeyed .unknown).2
  | .object fields, wellKeyed => by
      rw [infer, covers_object_iff]
      rw [Value.WellKeyed] at wellKeyed
      intro entry member
      obtain ⟨field, found, covers⟩ :=
        covers_inferFields fields wellKeyed.1 wellKeyed.2 entry member
      exact ⟨entry.1, field, rfl, found, covers⟩

/-- The common kind of items covers each of them, and what the kind seen before covers. -/
theorem covers_inferItems : ∀ items : List Value, Value.WellKeyedItems items -> ∀ seen : Kind,
    (∀ value, Covers Except.ok value seen -> Covers Except.ok value (inferItems seen items)) ∧
      ∀ item ∈ items, Covers Except.ok item (inferItems seen items)
  | [], _, seen => by simp [inferItems]
  | first :: rest, wellKeyed, seen => by
      rw [Value.WellKeyedItems] at wellKeyed
      rw [inferItems]
      have coversFirst := covers_infer first wellKeyed.1
      obtain ⟨kept, covered⟩ := covers_inferItems rest wellKeyed.2 (seen.merge (infer first))
      refine ⟨fun value covers => kept value (covers_merge_left _ covers), ?_⟩
      intro item member
      rcases List.mem_cons.mp member with rfl | inRest
      · exact kept _ (covers_merge_right _ coversFirst)
      · exact covered item inRest

/-- Every key of an object whose keys are distinct has a field that covers what stands there. -/
theorem covers_inferFields : ∀ fields : Object, (fields.map Prod.fst).Nodup ->
    Value.WellKeyedFields fields -> ∀ entry ∈ fields,
      ∃ field, (inferFields fields).field? entry.1 = some field ∧
        Covers Except.ok entry.2 field.kind
  | [], _, _ => by simp
  | (key, value) :: rest, distinct, wellKeyed => by
      rw [Value.WellKeyedFields] at wellKeyed
      rw [List.map_cons, List.nodup_cons] at distinct
      have coversFirst := covers_infer value wellKeyed.1
      intro entry member
      rw [inferFields, Shape.field?]
      rcases List.mem_cons.mp member with rfl | inRest
      · exact ⟨Field.unnamed key (infer value), if_pos rfl, coversFirst⟩
      · have different : (Field.unnamed key (infer value)).name ≠ entry.1 := fun same =>
          distinct.1 (List.mem_map.mpr ⟨entry, inRest, same.symm⟩)
        rw [if_neg different]
        exact covers_inferFields rest distinct.2 wellKeyed.2 entry inRest

end

/-! ### Overlays -/

mutual

/-- A node laid over declared fields covers what the node covers. -/
theorem covers_overlay : ∀ node : Kind, Every DistinctNames node ->
    ∀ (defaults : Kind) (value : Value), Covers nameOf value node ->
      Covers nameOf value (overlay defaults node)
  | .unknown, _, defaults, value, isNull => by
      rw [Covers] at isNull
      rw [overlay, isNull]
      exact covers_null nameOf defaults
  | .scalar _, _, _, _, covers => covers
  | .list _, _, _, _, covers => covers
  | .resolved _, _, _, _, covers => covers
  | .object fields, distinct, defaults, value, covers => by
      cases defaults with
      | object declared =>
          rw [overlay]
          cases value with
          | null => exact covers_null nameOf _
          | object held =>
              rw [Covers] at covers ⊢
              intro entry member
              obtain ⟨name, named, covered⟩ := covers entry member
              exact ⟨name, named,
                covers_overlayFields fields distinct.1 distinct.2 declared entry.2 name covered⟩
          | _ => simp [Covers] at covers
      | _ => exact covers

theorem covers_overlayFields : ∀ fields : List Field, (Shape.names fields).Nodup ->
    EveryField DistinctNames fields -> ∀ (declared : Shape) (value : Value) (name : String),
      CoversAt nameOf value name fields ->
      CoversAt nameOf value name (overlayFields declared fields)
  | [], _, _, _, _, _, covers => by cases covers
  | .mk key sourceKey kind :: rest, distinct, distinctInside, declared, value, name, covers => by
      rw [Shape.names, List.map_cons, List.nodup_cons] at distinct
      rw [CoversAt] at covers
      rw [overlayFields]
      split at covers
      · next same =>
          -- The fields after this one have other names and leave it alone.
          have coversLaid := covers_overlay kind distinctInside.1
          have absent : Shape.field? rest key = none := Shape.field?_eq_none_iff.mpr distinct.1
          subst same
          rw [coversAt_iff, Shape.field?_overlayFields_of_none absent, Shape.field?_setField]
          refine ⟨_, if_pos rfl, ?_⟩
          rw [Field.unnamed, Field.kind]
          split
          · next existing _ => exact coversLaid existing.kind value covers
          · exact covers
      · exact covers_overlayFields rest distinct.2 distinctInside.2 _ value name covers

end

end Kind

end ContentGraph
