import ContentGraph.Proofs.Shape.Observation
import ContentGraph.Proofs.Success

/-!
Contract: shapes after their fields got graph names.

Owns:
- what it takes to name a kind, and the lookup after a named field was added;
- `wellNamed_rename`: at every level of a named shape the names are distinct, and each is the
  name of its content key;
- `NamingInvariant`, the properties that naming brings about whatever keys are named, and
  `distinctNames_rename`: no name comes twice;
- `covers_rename`: naming keeps coverage, where keys that share a name merge.
-/

namespace ContentGraph

open ContentGraph.Json

/-! ### Adding a named field -/

namespace Shape

variable {shape : Shape} {field : Field} {name : String}

theorem addNamed_eq_setField :
    shape.addNamed field =
      shape.setField (((shape.field? field.name).map (·.absorb (some field))).getD field) := by
  unfold addNamed
  cases found : shape.field? field.name with
  | none => exact (setField_of_absent found).symm
  | some existing => rfl

/-- A field of a name that is there takes the kind of the added one in. -/
theorem field?_addNamed :
    (shape.addNamed field).field? name =
      if name = field.name then Field.merge? (shape.field? name) (some field)
      else shape.field? name := by
  rw [addNamed_eq_setField, field?_setField]
  cases found : shape.field? field.name with
  | none =>
      by_cases same : name = field.name
      · simp [same, found, Field.merge?]
      · simp [same]
  | some existing =>
      have named := (mem_of_field? found).2
      by_cases same : name = field.name
      · simp [same, found, Field.merge?, named]
      · simp [same, named]

end Shape

namespace Kind

variable {transform : FieldTransform}

/-! ### What naming does -/

theorem rename_object_ok {fields : Shape} {renamed : Kind} :
    rename transform (.object fields) = .ok renamed ↔
      ∃ named, renameFields transform [] fields = .ok named ∧ .object named = renamed := by
  rw [rename, bind_eq_ok]
  simp only [pure_eq_ok]

theorem rename_list_ok {element renamed : Kind} :
    rename transform (.list element) = .ok renamed ↔
      ∃ named, rename transform element = .ok named ∧ .list named = renamed := by
  rw [rename, bind_eq_ok]
  simp only [pure_eq_ok]

theorem renameFields_cons_ok {key sourceKey : String} {kind : Kind} {rest named renamed : Shape} :
    renameFields transform named (.mk key sourceKey kind :: rest) = .ok renamed ↔
      ∃ name, transform.fieldName key = .ok name ∧ ∃ inner, rename transform kind = .ok inner ∧
        renameFields transform (named.addNamed (.mk name sourceKey inner)) rest = .ok renamed := by
  rw [renameFields]
  simp only [bind_eq_ok]

/-! ### Names -/

/-- The fields of an object have distinct names, made from their content keys. -/
def WellNamed (nameOf : String -> Except Failure String) (kind : Kind) : Prop :=
  DistinctNames kind ∧ NamedBy nameOf kind

theorem mergeInvariant_wellNamed (nameOf : String -> Except Failure String) :
    MergeInvariant (WellNamed nameOf) :=
  invariant_distinctNames.toMergeInvariant.and (mergeInvariant_namedBy nameOf)

/-- Adding a named field sets one field: that one, or the one of its name with both kinds merged. -/
theorem addNamed_sets {property : Kind -> Prop} (invariant : MergeInvariant property)
    {named : Shape} {field : Field} (every : ∀ other ∈ named, Every property other.kind)
    (everyField : Every property field.kind) :
    ∃ entry, named.addNamed field = named.setField entry ∧ Every property entry.kind ∧
      ∃ origin, (origin = field ∨ origin ∈ named) ∧ entry.name = origin.name ∧
        entry.sourceKey = origin.sourceKey := by
  refine ⟨_, Shape.addNamed_eq_setField, ?_⟩
  cases found : named.field? field.name with
  | none => exact ⟨everyField, field, .inl rfl, rfl, rfl⟩
  | some existing =>
      have member := (Shape.mem_of_field? found).1
      have everyMerged := invariant.every_merge (every existing member) everyField
      exact ⟨everyMerged, existing, .inr member, rfl, rfl⟩

/-- A property of the kinds of a shape is one of the kinds of the shape with a field set. -/
theorem every_kinds_setField {property : Kind -> Prop} {named : Shape} {entry : Field}
    (every : ∀ other ∈ named, Every property other.kind) (everyEntry : Every property entry.kind) :
    ∀ other ∈ named.setField entry, Every property other.kind := by
  intro other member
  rcases Shape.mem_setField member with rfl | isOld
  · exact everyEntry
  · exact every other isOld

/-- A shape stays well named when a field is added under the name of its content key. -/
theorem wellNamed_addNamed {nameOf : String -> Except Failure String} {named : Shape}
    {field : Field} (well : Every (WellNamed nameOf) (.object named))
    (wellField : Every (WellNamed nameOf) field.kind)
    (isName : nameOf field.sourceKey = .ok field.name) :
    Every (WellNamed nameOf) (.object (named.addNamed field)) := by
  rw [every_object_iff] at well ⊢
  obtain ⟨entry, isSet, wellEntry, origin, isOrigin, name, sourceKey⟩ :=
    addNamed_sets (mergeInvariant_wellNamed nameOf) well.2 wellField
  have entryName : nameOf entry.sourceKey = .ok entry.name := by
    rw [name, sourceKey]
    rcases isOrigin with rfl | isOld
    · exact isName
    · exact well.1.2 origin isOld
  rw [isSet]
  refine ⟨⟨Shape.nodup_names_setField well.1.1, fun other member => ?_⟩,
    every_kinds_setField well.2 wellEntry⟩
  rcases Shape.mem_setField member with rfl | isOld
  · exact entryName
  · exact well.1.2 other isOld

mutual

/-- A kind whose fields stand under their content keys is well named after naming. -/
theorem wellNamed_rename : ∀ kind renamed : Kind, Every (NamedBy Except.ok) kind ->
    rename transform kind = .ok renamed -> Every (WellNamed transform.fieldName) renamed
  | .unknown, _, _, isNamed => by cases isNamed; exact ⟨trivial, trivial⟩
  | .scalar _, _, _, isNamed => by cases isNamed; exact ⟨trivial, trivial⟩
  | .resolved _, _, _, isNamed => by cases isNamed; exact ⟨trivial, trivial⟩
  | .list element, _, unnamed, isNamed => by
      obtain ⟨inner, isInner, rfl⟩ := rename_list_ok.mp isNamed
      exact ⟨⟨trivial, trivial⟩, wellNamed_rename element inner unnamed.2 isInner⟩
  | .object fields, _, unnamed, isNamed => by
      obtain ⟨named, areNamed, rfl⟩ := rename_object_ok.mp isNamed
      exact wellNamed_renameFields fields [] named unnamed.1 unnamed.2
        ⟨⟨List.nodup_nil, nofun⟩, trivial⟩ areNamed

theorem wellNamed_renameFields : ∀ fields named renamed : Shape,
    NamedBy Except.ok (.object fields) -> EveryField (NamedBy Except.ok) fields ->
    Every (WellNamed transform.fieldName) (.object named) ->
    renameFields transform named fields = .ok renamed ->
    Every (WellNamed transform.fieldName) (.object renamed)
  | [], _, _, _, _, well, isNamed => by cases isNamed; exact well
  | .mk key sourceKey kind :: rest, named, renamed, unnamed, unnamedInside, well, isNamed => by
      obtain ⟨name, isName, inner, isInner, isRest⟩ := renameFields_cons_ok.mp isNamed
      obtain ⟨ownKey, otherKeys⟩ := List.forall_mem_cons.mp unnamed
      have sameKey : sourceKey = key := Except.ok.inj ownKey
      have wellInner := wellNamed_rename kind inner unnamedInside.1 isInner
      have wellAdded : Every (WellNamed transform.fieldName)
          (.object (named.addNamed (.mk name sourceKey inner))) :=
        wellNamed_addNamed well wellInner (sameKey ▸ isName)
      exact wellNamed_renameFields rest _ renamed otherKeys unnamedInside.2 wellAdded isRest

end

/-- A property of kinds that naming brings about: kinds without fields have it, and adding a field
under the name of a key keeps it. -/
structure NamingInvariant (transform : FieldTransform) (property : Kind -> Prop) : Prop where
  fieldless {kind : Kind} : (∀ fields, kind ≠ .object fields) -> property kind
  empty : property (.object [])
  addNamed {named : Shape} {field : Field} {key : String} : Every property (.object named) ->
    Every property field.kind -> transform.fieldName key = .ok field.name ->
    Every property (.object (named.addNamed field))

namespace NamingInvariant

variable {property : Kind -> Prop}

mutual

/-- Naming brings the property about at every level, whatever is named. -/
theorem every_rename (invariant : NamingInvariant transform property) : ∀ kind renamed : Kind,
    rename transform kind = .ok renamed -> Every property renamed
  | .unknown, _, isNamed => by cases isNamed; exact invariant.fieldless nofun
  | .scalar _, _, isNamed => by cases isNamed; exact invariant.fieldless nofun
  | .resolved _, _, isNamed => by cases isNamed; exact invariant.fieldless nofun
  | .list element, _, isNamed => by
      obtain ⟨inner, isInner, rfl⟩ := rename_list_ok.mp isNamed
      exact ⟨invariant.fieldless nofun, invariant.every_rename element inner isInner⟩
  | .object fields, _, isNamed => by
      obtain ⟨named, areNamed, rfl⟩ := rename_object_ok.mp isNamed
      exact invariant.every_renameFields fields [] named ⟨invariant.empty, trivial⟩ areNamed

theorem every_renameFields (invariant : NamingInvariant transform property) :
    ∀ fields named renamed : Shape, Every property (.object named) ->
    renameFields transform named fields = .ok renamed -> Every property (.object renamed)
  | [], _, _, every, isNamed => by cases isNamed; exact every
  | .mk key sourceKey kind :: rest, named, renamed, every, isNamed => by
      obtain ⟨name, isName, inner, isInner, isRest⟩ := renameFields_cons_ok.mp isNamed
      have everyInner := invariant.every_rename kind inner isInner
      have everyAdded : Every property (.object (named.addNamed (.mk name sourceKey inner))) :=
        invariant.addNamed every everyInner isName
      exact invariant.every_renameFields rest _ renamed everyAdded isRest

end

end NamingInvariant

/-- Adding a field under its name repeats no name, at any level. -/
theorem distinctNames_addNamed {named : Shape} {field : Field}
    (distinct : Every DistinctNames (.object named))
    (distinctField : Every DistinctNames field.kind) :
    Every DistinctNames (.object (named.addNamed field)) := by
  rw [every_object_iff] at distinct ⊢
  obtain ⟨entry, isSet, distinctEntry, _⟩ :=
    addNamed_sets invariant_distinctNames.toMergeInvariant distinct.2 distinctField
  rw [isSet]
  exact ⟨Shape.nodup_names_setField distinct.1, every_kinds_setField distinct.2 distinctEntry⟩

theorem namingInvariant_distinctNames : NamingInvariant transform DistinctNames where
  fieldless {kind} noFields := by
    cases kind with
    | object fields => exact absurd rfl (noFields fields)
    | _ => trivial
  empty := List.nodup_nil
  addNamed distinct distinctField _ := distinctNames_addNamed distinct distinctField

/-- After naming no object has two fields of one name, whatever is named. -/
theorem distinctNames_rename {kind renamed : Kind}
    (isNamed : rename transform kind = .ok renamed) : Every DistinctNames renamed :=
  namingInvariant_distinctNames.every_rename kind renamed isNamed

theorem distinctNames_renameFields {fields renamed : Shape}
    (areNamed : renameFields transform [] fields = .ok renamed) :
    Every DistinctNames (.object renamed) :=
  namingInvariant_distinctNames.every_renameFields fields [] renamed ⟨List.nodup_nil, trivial⟩
    areNamed

/-- Naming takes its content keys from the fields that are named. -/
theorem sourceKey_of_renameFields {fields named renamed : Shape}
    (areNamed : renameFields transform named fields = .ok renamed) {field : Field}
    (member : field ∈ renamed) :
    ∃ origin, (origin ∈ named ∨ origin ∈ fields) ∧ field.sourceKey = origin.sourceKey := by
  induction fields generalizing named with
  | nil =>
      cases areNamed
      exact ⟨field, .inl member, rfl⟩
  | cons first rest inductionHypothesis =>
      obtain ⟨key, sourceKey, kind⟩ := first
      obtain ⟨name, _, inner, _, isRest⟩ := renameFields_cons_ok.mp areNamed
      obtain ⟨origin, isAdded | inRest, same⟩ := inductionHypothesis isRest
      · rw [Shape.addNamed_eq_setField] at isAdded
        rcases Shape.mem_setField isAdded with rfl | isOld
        · cases found : named.field? name with
          | none => exact ⟨.mk key sourceKey kind, .inr List.mem_cons_self, by
              simpa [Field.name, found, Field.sourceKey] using same⟩
          | some existing => exact ⟨existing, .inl (Shape.mem_of_field? found).1, by
              simpa [Field.name, found] using same⟩
        · exact ⟨origin, .inl isOld, same⟩
      · exact ⟨origin, .inr (List.mem_cons_of_mem _ inRest), same⟩

/-! ### Coverage -/

/-- Adding a field under its name keeps what was covered, and covers what the field covers. -/
theorem coversAt_addNamed {nameOf : String -> Except Failure String} {value : Value}
    {named : Shape} {field : Field} {name : String}
    (covers : CoversAt nameOf value name named ∨
      name = field.name ∧ Covers nameOf value field.kind) :
    CoversAt nameOf value name (named.addNamed field) := by
  rw [coversAt_iff, Shape.field?_addNamed]
  rw [coversAt_iff] at covers
  rcases covers with ⟨existing, found, covers⟩ | ⟨rfl, covers⟩
  · split
    · rw [found]
      exact ⟨_, rfl, covers_merge_left field.kind covers⟩
    · exact ⟨existing, found, covers⟩
  · rw [if_pos rfl]
    cases named.field? field.name with
    | none => exact ⟨field, rfl, covers⟩
    | some existing => exact ⟨_, rfl, covers_merge_right existing.kind covers⟩

mutual

/-- A named kind covers, under the names of keys, what it covered under the keys themselves. -/
theorem covers_rename : ∀ kind renamed : Kind, rename transform kind = .ok renamed ->
    ∀ value : Value, Covers Except.ok value kind -> Covers transform.fieldName value renamed
  | .unknown, _, isNamed, _, covers => by cases isNamed; exact covers
  | .scalar _, _, isNamed, _, covers => by cases isNamed; exact covers
  | .resolved _, _, isNamed, _, covers => by cases isNamed; exact covers
  | .list element, _, isNamed, value, covers => by
      obtain ⟨inner, isInner, rfl⟩ := rename_list_ok.mp isNamed
      have inside := covers_rename element inner isInner
      cases value with
      | array items =>
          rw [covers_list_array] at covers ⊢
          exact fun item member => inside item (covers item member)
      | _ =>
          rw [covers_list_of_single rfl] at covers ⊢
          exact inside _ covers
  | .object fields, _, isNamed, value, covers => by
      obtain ⟨named, areNamed, rfl⟩ := rename_object_ok.mp isNamed
      have inside := covers_renameFields fields [] named areNamed
      cases value with
      | null => exact covers_null _ _
      | object held =>
          rw [Covers] at covers ⊢
          intro entry member
          obtain ⟨key, isKey, covered⟩ := covers entry member
          cases isKey
          exact (inside entry.2).2 entry.1 covered
      | _ => simp [Covers] at covers

theorem covers_renameFields : ∀ fields named renamed : Shape,
    renameFields transform named fields = .ok renamed -> ∀ value : Value,
      (∀ name, CoversAt transform.fieldName value name named ->
        CoversAt transform.fieldName value name renamed) ∧
      ∀ key, CoversAt Except.ok value key fields ->
        ∃ name, transform.fieldName key = .ok name ∧
          CoversAt transform.fieldName value name renamed
  | [], _, _, isNamed, _ => by
      cases isNamed
      exact ⟨fun _ covers => covers, fun _ covers => by cases covers⟩
  | .mk key sourceKey kind :: rest, named, renamed, isNamed, value => by
      obtain ⟨name, isName, inner, isInner, isRest⟩ := renameFields_cons_ok.mp isNamed
      have coversInner := covers_rename kind inner isInner value
      obtain ⟨kept, covered⟩ := covers_renameFields rest _ renamed isRest value
      refine ⟨fun name covers => kept name (coversAt_addNamed (.inl covers)), ?_⟩
      intro other covers
      rw [CoversAt] at covers
      split at covers
      · next same =>
          subst same
          exact ⟨name, isName, kept name (coversAt_addNamed (.inr ⟨rfl, coversInner covers⟩))⟩
      · exact covered other covers

end

end Kind

end ContentGraph
