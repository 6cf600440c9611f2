import ContentGraph.Proofs.Shape.Meaning
import ContentGraph.Proofs.Shape.Naming

/-!
Contract: kinds that differ in the order of fields alone.

Owns:
- `Kind.SameUpTo`, kinds with the same fields in any order, where kinds of a given sort are not
  told apart;
- `sameUpTo_of_meaning`: observed kinds of one meaning are the same up to how deep free JSON is
  nested in lists;
- `Kind.Apart` and `Kind.Nameable`, what it takes for all fields to get names of their own, and the
  field that is then read from a content key (`exists_fieldBySource`);
- `rename_sameUpTo`: naming keeps kinds the same up to order, where no two fields of one object get
  one name.
-/

namespace ContentGraph

namespace Kind

/-! ### Kinds up to the order of fields -/

/-- Free JSON, nested in any number of lists. -/
inductive JsonNest : Kind -> Prop where
  | json : JsonNest (.scalar .json)
  | list {element : Kind} (inside : JsonNest element) : JsonNest (.list element)

/-- Kinds with the same fields in any order, where blurred kinds are not told apart. -/
inductive SameUpTo (blurred : Kind -> Prop) : Kind -> Kind -> Prop where
  | blurred {left right : Kind} (blurredLeft : blurred left) (blurredRight : blurred right) :
      SameUpTo blurred left right
  | unknown : SameUpTo blurred .unknown .unknown
  | scalar (form : Scalar) : SameUpTo blurred (.scalar form) (.scalar form)
  | resolved (resolver : Resolver) : SameUpTo blurred (.resolved resolver) (.resolved resolver)
  | list {left right : Kind} (elements : SameUpTo blurred left right) :
      SameUpTo blurred (.list left) (.list right)
  | object {left right : Shape} (names : left.names.Perm right.names)
      (sourceKeys : ∀ mine ∈ left, ∀ theirs ∈ right, mine.name = theirs.name ->
        mine.sourceKey = theirs.sourceKey)
      (kinds : ∀ mine ∈ left, ∀ theirs ∈ right, mine.name = theirs.name ->
        SameUpTo blurred mine.kind theirs.kind) :
      SameUpTo blurred (.object left) (.object right)

variable {blurred : Kind -> Prop} {transform : FieldTransform}

theorem JsonNest.holds_json {kind : Kind} (nest : JsonNest kind) :
    ¬ Every (· ≠ .scalar .json) kind := by
  induction nest with
  | json => exact fun noJson => noJson rfl
  | list inside inductionHypothesis => exact fun noJson => inductionHypothesis noJson.2

/-- Kinds without free JSON that are the same up to its nesting are the same up to order. -/
theorem SameUpTo.of_no_json {left right : Kind} (same : SameUpTo JsonNest left right) :
    Every (· ≠ .scalar .json) left -> SameUpTo (fun _ => False) left right := by
  induction same with
  | blurred nest _ => exact fun noJson => absurd noJson nest.holds_json
  | unknown => exact fun _ => .unknown
  | scalar form => exact fun _ => .scalar form
  | resolved resolver => exact fun _ => .resolved resolver
  | list elements inductionHypothesis => exact fun noJson => .list (inductionHypothesis noJson.2)
  | object names sourceKeys kinds inductionHypothesis =>
      intro noJson
      have inside := (every_object_iff.mp noJson).2
      exact .object names sourceKeys fun mine isMine theirs isTheirs named =>
        inductionHypothesis mine isMine theirs isTheirs named (inside mine isMine)

/-! ### Kinds of one meaning -/

/-- An observed kind whose fields stand once each, under their content keys. -/
def Plain (kind : Kind) : Prop :=
  Observed kind ∧ WellNamed Except.ok kind

theorem invariant_plain : Invariant Plain :=
  invariant_observed.and (invariant_distinctNames.and invariant_namedBy_ok)

theorem jsonNest_of_meaning : ∀ kind : Kind, Every Plain kind -> kind.meaning = .mixed ->
    JsonNest kind
  | .scalar form, _, mixed => by
      cases form with
      | json => exact .json
      | _ => cases mixed
  | .list element, plain, mixed => by
      have inside := jsonNest_of_meaning element plain.2
      rw [meaning] at mixed
      cases said : element.meaning <;> simp [said] at mixed inside
      exact .list inside
  | .resolved _, plain, _ => plain.1.elim

/-- Lists are told apart from single values by their meaning. -/
private theorem exists_list_of_meaning {element right : Kind}
    (same : element.meaning.deepen = right.meaning) (notMixed : right.meaning ≠ .mixed) :
    ∃ other, right = .list other ∧ element.meaning = other.meaning := by
  cases right with
  | list other =>
      refine ⟨other, rfl, ?_⟩
      rw [meaning] at same
      cases saidLeft : element.meaning <;> cases saidRight : other.meaning <;>
        simp [saidLeft, saidRight] at same ⊢
      all_goals exact same
  | scalar form =>
      cases form <;> cases said : element.meaning <;>
        simp [meaning, Meaning.ofScalar, said] at same notMixed
  | _ => cases said : element.meaning <;> simp [meaning, said] at same notMixed

private theorem eq_unknown_of_meaning {right : Kind} (same : .unknown 0 = right.meaning) :
    right = .unknown := by
  cases right with
  | unknown => rfl
  | scalar form => cases form <;> cases same
  | list element => cases said : element.meaning <;> simp [meaning, said] at same
  | _ => cases same

private theorem eq_scalar_of_meaning {form : Scalar} {right : Kind}
    (same : .ofScalar 0 form = right.meaning) (notMixed : right.meaning ≠ .mixed) :
    right = .scalar form := by
  cases right with
  | scalar other =>
      cases form <;> cases other <;> simp [meaning, Meaning.ofScalar] at same notMixed ⊢
  | list element =>
      cases form <;> cases said : element.meaning <;>
        simp [meaning, Meaning.ofScalar, said] at same notMixed
  | _ => cases form <;> simp [meaning, Meaning.ofScalar] at same notMixed

private theorem exists_object_of_meaning {left : Shape} {right : Kind}
    (same : (Kind.object left).meaning = right.meaning) :
    ∃ others, right = .object others ∧ meaningAt left = meaningAt others := by
  cases right with
  | object others => exact ⟨others, rfl, by simpa [meaning] using same⟩
  | scalar form => cases form <;> simp [meaning, Meaning.ofScalar] at same
  | list element => cases said : element.meaning <;> simp [meaning, said] at same
  | _ => simp [meaning] at same

theorem names_perm_of_meaning {left right : Shape} (distinctLeft : left.names.Nodup)
    (distinctRight : right.names.Nodup) (same : meaningAt left = meaningAt right) :
    left.names.Perm right.names := by
  rw [List.perm_ext_iff_of_nodup distinctLeft distinctRight]
  intro name
  rw [← not_iff_not, ← Shape.field?_eq_none_iff, ← Shape.field?_eq_none_iff,
    ← meaningAt_eq_absent_iff, ← meaningAt_eq_absent_iff, same]

mutual

/-- Observed kinds of one meaning are the same up to the nesting of free JSON. -/
theorem sameUpTo_of_meaning : ∀ left right : Kind, Every Plain left -> Every Plain right ->
    left.meaning = right.meaning -> SameUpTo JsonNest left right
  | .unknown, right, _, _, same => by
      rw [eq_unknown_of_meaning same]
      exact .unknown
  | .resolved _, _, plain, _, _ => plain.1.elim
  | .scalar form, right, plainLeft, plainRight, same => by
      -- Mixed kinds have no depth in common that could be compared.
      by_cases mixed : right.meaning = .mixed
      · exact .blurred (jsonNest_of_meaning _ plainLeft (same.trans mixed))
          (jsonNest_of_meaning _ plainRight mixed)
      · rw [eq_scalar_of_meaning same mixed]
        exact .scalar form
  | .list element, right, plainLeft, plainRight, same => by
      by_cases mixed : right.meaning = .mixed
      · exact .blurred (jsonNest_of_meaning _ plainLeft (same.trans mixed))
          (jsonNest_of_meaning _ plainRight mixed)
      · obtain ⟨other, rfl, sameInside⟩ := exists_list_of_meaning same mixed
        exact .list (sameUpTo_of_meaning element other plainLeft.2 plainRight.2 sameInside)
  | .object left, right, plainLeft, plainRight, same => by
      obtain ⟨others, rfl, sameAt⟩ := exists_object_of_meaning same
      have kinds := sameUpTo_of_meaningField left plainLeft.2
      rw [every_object_iff] at plainLeft plainRight
      obtain ⟨⟨_, distinctLeft, namedLeft⟩, _⟩ := plainLeft
      obtain ⟨⟨_, distinctRight, namedRight⟩, plainInside⟩ := plainRight
      refine .object (names_perm_of_meaning distinctLeft distinctRight sameAt) ?_ ?_
      · intro mine isMine theirs isTheirs named
        have mineKey := Except.ok.inj (namedLeft mine isMine)
        have theirKey := Except.ok.inj (namedRight theirs isTheirs)
        rw [mineKey, theirKey, named]
      · intro mine isMine theirs isTheirs named
        refine kinds mine isMine theirs.kind (plainInside theirs isTheirs) ?_
        have foundMine := named ▸ Shape.field?_of_mem distinctLeft isMine
        have foundTheirs := Shape.field?_of_mem distinctRight isTheirs
        have said := congrFun sameAt theirs.name
        rw [meaningAt_eq, meaningAt_eq, foundMine, foundTheirs] at said
        exact said

theorem sameUpTo_of_meaningField : ∀ fields : List Field, EveryField Plain fields ->
    ∀ mine ∈ fields, ∀ right : Kind, Every Plain right -> mine.kind.meaning = right.meaning ->
      SameUpTo JsonNest mine.kind right
  | [], _ => by simp
  | .mk _ _ kind :: rest, plain => by
      have first := fun right => sameUpTo_of_meaning kind right plain.1
      have others := sameUpTo_of_meaningField rest plain.2
      exact List.forall_mem_cons.mpr ⟨first, others⟩

end

/-! ### Naming -/

/-- No two fields of an object get one name. -/
def Apart (transform : FieldTransform) : Kind -> Prop
  | .object fields => ∀ first ∈ Shape.names fields, ∀ second ∈ Shape.names fields, ∀ name,
      transform.fieldName first = .ok name -> transform.fieldName second = .ok name ->
        first = second
  | _ => True

/-- A field and what naming makes of it when no other field gets its name. -/
structure Renamed (transform : FieldTransform) (field renamed : Field) : Prop where
  name : transform.fieldName field.name = .ok renamed.name
  sourceKey : renamed.sourceKey = field.sourceKey
  kind : rename transform field.kind = .ok renamed.kind

/-- Fields that get names of their own are named one by one. -/
theorem renameFields_of_apart (named : Shape) {fields renamed : Shape}
    (distinct : fields.names.Nodup) (apart : Apart transform (.object fields))
    (fresh : ∀ key ∈ fields.names, ∀ name, transform.fieldName key = .ok name ->
      name ∉ named.names) :
    renameFields transform named fields = .ok renamed ↔
      ∃ added, List.Forall₂ (Renamed transform) fields added ∧ named ++ added = renamed := by
  induction fields generalizing named with
  | nil => simp [renameFields, pure_eq_ok]
  | cons first rest inductionHypothesis =>
      obtain ⟨key, sourceKey, kind⟩ := first
      obtain ⟨isNew, distinctRest⟩ := List.nodup_cons.mp distinct
      have apartRest : Apart transform (.object rest) := fun first inFirst second inSecond =>
        apart first (List.mem_cons_of_mem _ inFirst) second (List.mem_cons_of_mem _ inSecond)
      have addNamed_eq : ∀ {name : String} {inner : Kind}, transform.fieldName key = .ok name ->
          named.addNamed (.mk name sourceKey inner) = named ++ [.mk name sourceKey inner] := by
        intro name inner isName
        have absent := Shape.field?_eq_none_iff.mpr (fresh key List.mem_cons_self name isName)
        simp [Shape.addNamed, Field.name, absent]
      -- A later key with the name just given would be the same key.
      have rest_iff : ∀ {name : String} {inner : Kind}, transform.fieldName key = .ok name ->
          (renameFields transform (named ++ [.mk name sourceKey inner]) rest = .ok renamed ↔
            ∃ added, List.Forall₂ (Renamed transform) rest added ∧
              named ++ [.mk name sourceKey inner] ++ added = renamed) := by
        intro name inner isName
        refine inductionHypothesis _ distinctRest apartRest ?_
        intro other inRest otherName isOther member
        rw [Shape.names, List.map_append, List.mem_append] at member
        rcases member with isOld | isOwn
        · exact fresh other (List.mem_cons_of_mem _ inRest) otherName isOther isOld
        · cases List.mem_singleton.mp isOwn
          have sameKey := apart key List.mem_cons_self other (List.mem_cons_of_mem _ inRest) _
            isName isOther
          exact isNew (sameKey ▸ inRest)
      rw [renameFields_cons_ok]
      constructor
      · rintro ⟨name, isName, inner, isInner, isRest⟩
        rw [addNamed_eq isName, rest_iff isName] at isRest
        obtain ⟨added, areAdded, rfl⟩ := isRest
        exact ⟨.mk name sourceKey inner :: added, .cons ⟨isName, rfl, isInner⟩ areAdded, by simp⟩
      · rintro ⟨_, areAdded, rfl⟩
        obtain ⟨⟨name, ownKey, inner⟩, added, isFirst, areRest, rfl⟩ :=
          List.forall₂_cons_left_iff.mp areAdded
        have isName : transform.fieldName key = .ok name := isFirst.name
        cases isFirst.sourceKey
        refine ⟨name, isName, inner, isFirst.kind, ?_⟩
        rw [addNamed_eq isName, rest_iff isName]
        exact ⟨added, areRest, by simp⟩

/-- Distinct fields that get names of their own are named to fields that are all found again. -/
theorem rename_object_of_apart {fields : Shape} {renamed : Kind} (distinct : fields.names.Nodup)
    (apart : Apart transform (.object fields)) :
    rename transform (.object fields) = .ok renamed ↔
      ∃ named, List.Forall₂ (Renamed transform) fields named ∧ .object named = renamed := by
  rw [rename_object_ok]
  simp only [renameFields_of_apart [] distinct apart (fun _ _ _ _ => List.not_mem_nil),
    List.nil_append, exists_eq_right]

/-- The name that naming gives to a key, where it gives any. -/
private def nameOf (transform : FieldTransform) (key : String) : String :=
  match transform.fieldName key with
  | .ok name => name
  | .error _ => key

private theorem names_of_renamed {fields named : Shape}
    (renamed : List.Forall₂ (Renamed transform) fields named) :
    named.names = fields.names.map (nameOf transform) := by
  induction renamed with
  | nil => rfl
  | cons isFirst areRest inductionHypothesis =>
      simp only [Shape.names, List.map_cons] at inductionHypothesis ⊢
      rw [inductionHypothesis, nameOf, isFirst.name]

theorem Renamed.unique {field first second : Field} (isFirst : Renamed transform field first)
    (isSecond : Renamed transform field second) : first = second := by
  obtain ⟨name, sourceKey, kind⟩ := first
  obtain ⟨otherName, otherKey, otherKind⟩ := second
  have sameName : name = otherName := Except.ok.inj (isFirst.name.symm.trans isSecond.name)
  have sameKey : sourceKey = otherKey := isFirst.sourceKey.trans isSecond.sourceKey.symm
  have sameKind : kind = otherKind := Except.ok.inj (isFirst.kind.symm.trans isSecond.kind)
  rw [sameName, sameKey, sameKind]

/-- Among named fields, the one from a content key is what became of the field under that key. -/
theorem fieldBySource?_of_renamed {fields named : Shape} {key : String} {field : Field}
    (areNamed : List.Forall₂ (Renamed transform) fields named)
    (underKeys : NamedBy Except.ok (.object fields)) (isField : fields.field? key = some field) :
    ∃ renamed, named.fieldBySource? key = some renamed ∧ Renamed transform field renamed := by
  induction areNamed with
  | nil => cases isField
  | @cons first renamed rest others isFirst areRest inductionHypothesis =>
      obtain ⟨ownKey, otherKeys⟩ := List.forall_mem_cons.mp underKeys
      have sourceKey : renamed.sourceKey = first.name :=
        isFirst.sourceKey.trans (Except.ok.inj ownKey)
      rw [Shape.field?] at isField
      split at isField
      · next same =>
          cases isField
          exact ⟨renamed, List.find?_cons_of_pos (by simp [sourceKey, same]), isFirst⟩
      · next different =>
          obtain ⟨found, isFound, isRenamed⟩ := inductionHypothesis otherKeys isField
          exact ⟨found, (List.find?_cons_of_neg (by simp [sourceKey, different])).trans isFound,
            isRenamed⟩

/-- A kind whose fields stand once each, under their content keys, and get names of their own. -/
def Nameable (transform : FieldTransform) (kind : Kind) : Prop :=
  WellNamed Except.ok kind ∧ Apart transform kind

/-- A key that a shape has a field for is read by one field of the named shape. -/
theorem exists_fieldBySource {fields named : Shape} {key : String} {field : Field}
    (nameable : Nameable transform (.object fields))
    (isNamed : rename transform (.object fields) = .ok (.object named))
    (found : fields.field? key = some field) :
    ∃ renamed, named.fieldBySource? key = some renamed ∧
      named.field? renamed.name = some renamed ∧ rename transform field.kind = .ok renamed.kind := by
  obtain ⟨⟨distinct, namedBy⟩, apart⟩ := nameable
  obtain ⟨_, areNamed, isSame⟩ := (rename_object_of_apart distinct apart).mp isNamed
  cases isSame
  obtain ⟨renamed, isSource, isRenamed⟩ := fieldBySource?_of_renamed areNamed namedBy found
  have distinctNamed : named.names.Nodup := (distinctNames_rename isNamed).1
  exact ⟨renamed, isSource,
    Shape.field?_of_mem distinctNamed (Shape.mem_of_fieldBySource? isSource).1, isRenamed.kind⟩

/-- Named shapes are the same up to order when any two fields of one name are named alike. -/
private theorem sameUpTo_renamed {left right named : Shape}
    (apart : Apart transform (.object left)) (names : left.names.Perm right.names)
    (areNamed : List.Forall₂ (Renamed transform) left named)
    (paired : ∀ mine ∈ left, ∀ theirs ∈ right, mine.name = theirs.name ->
      ∀ renamed, Renamed transform mine renamed -> ∃ other, Renamed transform theirs other ∧
        renamed.sourceKey = other.sourceKey ∧ SameUpTo blurred renamed.kind other.kind) :
    ∃ others, List.Forall₂ (Renamed transform) right others ∧
      SameUpTo blurred (.object named) (.object others) := by
  have partner : ∀ theirs ∈ right, ∃ mine ∈ left, mine.name = theirs.name := by
    intro theirs isTheirs
    exact List.mem_map.mp (names.mem_iff.mpr (List.mem_map_of_mem isTheirs))
  obtain ⟨others, areOthers⟩ : ∃ others, List.Forall₂ (Renamed transform) right others := by
    refine exists_targets fun theirs isTheirs => ?_
    obtain ⟨mine, isMine, sameName⟩ := partner theirs isTheirs
    obtain ⟨renamed, _, isRenamed⟩ := exists_target_of_mem areNamed isMine
    obtain ⟨other, isOther, _⟩ := paired mine isMine theirs isTheirs sameName renamed isRenamed
    exact ⟨other, isOther⟩
  have alike : ∀ renamed ∈ named, ∀ other ∈ others, renamed.name = other.name ->
      renamed.sourceKey = other.sourceKey ∧ SameUpTo blurred renamed.kind other.kind := by
    intro renamed inNamed other inOthers sameNamed
    obtain ⟨mine, isMine, isRenamed⟩ := exists_source_of_mem areNamed inNamed
    obtain ⟨theirs, isTheirs, isOther⟩ := exists_source_of_mem areOthers inOthers
    have sameName := apart mine.name (List.mem_map_of_mem isMine) theirs.name
      (names.mem_iff.mpr (List.mem_map_of_mem isTheirs)) other.name
      (sameNamed ▸ isRenamed.name) isOther.name
    obtain ⟨expected, isExpected, same⟩ :=
      paired mine isMine theirs isTheirs sameName renamed isRenamed
    exact isExpected.unique isOther ▸ same
  refine ⟨others, areOthers, .object ?_ ?_ ?_⟩
  · rw [names_of_renamed areNamed, names_of_renamed areOthers]
    exact names.map _
  · exact fun renamed inNamed other inOthers same => (alike renamed inNamed other inOthers same).1
  · exact fun renamed inNamed other inOthers same => (alike renamed inNamed other inOthers same).2

/-- Naming succeeds on both or on neither of two kinds that are the same up to order, and keeps
them so, where no two fields of an object get one name. -/
theorem rename_sameUpTo (fixed : ∀ kind, blurred kind -> rename transform kind = .ok kind)
    {left right : Kind} (same : SameUpTo blurred left right) :
    Every DistinctNames left -> Every (Apart transform) left -> ∀ named,
      rename transform left = .ok named ->
      ∃ other, rename transform right = .ok other ∧ SameUpTo blurred named other := by
  induction same with
  | blurred blurredLeft blurredRight =>
      intro _ _ named isNamed
      cases (fixed _ blurredLeft).symm.trans isNamed
      exact ⟨_, fixed _ blurredRight, .blurred blurredLeft blurredRight⟩
  | unknown =>
      intro _ _ named isNamed
      cases isNamed
      exact ⟨.unknown, rfl, .unknown⟩
  | scalar form =>
      intro _ _ named isNamed
      cases isNamed
      exact ⟨.scalar form, rfl, .scalar form⟩
  | resolved resolver =>
      intro _ _ named isNamed
      cases isNamed
      exact ⟨.resolved resolver, rfl, .resolved resolver⟩
  | list elements inductionHypothesis =>
      intro distinct apart named isNamed
      obtain ⟨inner, isInner, rfl⟩ := rename_list_ok.mp isNamed
      obtain ⟨other, isOther, same⟩ := inductionHypothesis distinct.2 apart.2 inner isInner
      exact ⟨.list other, rename_list_ok.mpr ⟨other, isOther, rfl⟩, .list same⟩
  | @object left right names sourceKeys kinds inductionHypothesis =>
      intro distinct apart _ isNamed
      rw [every_object_iff] at distinct apart
      obtain ⟨named, areNamed, rfl⟩ := (rename_object_of_apart distinct.1 apart.1).mp isNamed
      have distinctRight : right.names.Nodup := names.nodup_iff.mp distinct.1
      have apartRight : Apart transform (.object right) := fun first inFirst second inSecond =>
        apart.1 first (names.mem_iff.mpr inFirst) second (names.mem_iff.mpr inSecond)
      have renamed : ∃ others, List.Forall₂ (Renamed transform) right others ∧
          SameUpTo blurred (.object named) (.object others) := by
        refine sameUpTo_renamed apart.1 names areNamed ?_
        intro mine isMine theirs isTheirs sameName renamed isRenamed
        obtain ⟨kind, isKind, same⟩ := inductionHypothesis mine isMine theirs isTheirs sameName
          (distinct.2 mine isMine) (apart.2 mine isMine) renamed.kind isRenamed.kind
        have sameKey := sourceKeys mine isMine theirs isTheirs sameName
        exact ⟨.mk renamed.name theirs.sourceKey kind, ⟨sameName ▸ isRenamed.name, rfl, isKind⟩,
          isRenamed.sourceKey.trans sameKey, same⟩
      obtain ⟨others, areOthers, same⟩ := renamed
      exact ⟨.object others,
        (rename_object_of_apart distinctRight apartRight).mpr ⟨others, areOthers, rfl⟩, same⟩

theorem rename_jsonNest : ∀ kind, JsonNest kind -> rename transform kind = .ok kind := by
  intro kind nest
  induction nest with
  | json => rfl
  | @list element inside inductionHypothesis =>
      exact rename_list_ok.mpr ⟨element, inductionHypothesis, rfl⟩

end Kind

end ContentGraph
