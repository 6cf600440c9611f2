import ContentGraph.Proofs.Shape.Merge

/-!
Contract: properties that hold at every level of a kind.

Owns:
- `Kind.Every`, a property of a kind and of all kinds inside it;
- `Kind.MergeInvariant` and `Kind.Invariant`, what a property has to keep, and the lemmas that
  carry it through merging, inference and overlaying;
- three invariants: distinct names, names that are content keys, and no computed field.
-/

namespace ContentGraph

open ContentGraph.Json

namespace Kind

/-! ### Properties at every level -/

mutual

/-- A property of a kind and of every kind inside it. -/
def Every (property : Kind -> Prop) : Kind -> Prop
  | .unknown => property .unknown
  | .scalar form => property (.scalar form)
  | .list element => property (.list element) ∧ Every property element
  | .object fields => property (.object fields) ∧ EveryField property fields
  | .resolved resolver => property (.resolved resolver)

/-- A property of every kind inside of fields. -/
def EveryField (property : Kind -> Prop) : List Field -> Prop
  | [] => True
  | .mk _ _ kind :: rest => Every property kind ∧ EveryField property rest

end

variable {property : Kind -> Prop}

theorem everyField_iff {fields : Shape} :
    EveryField property fields ↔ ∀ field ∈ fields, Every property field.kind := by
  induction fields with
  | nil => simp [EveryField]
  | cons first rest inductionHypothesis =>
      obtain ⟨name, sourceKey, kind⟩ := first
      simp [EveryField, Field.kind, inductionHypothesis]

theorem every_object_iff {fields : Shape} :
    Every property (.object fields) ↔
      property (.object fields) ∧ ∀ field ∈ fields, Every property field.kind := by
  rw [Every, everyField_iff]

theorem Every.of_field? {fields : Shape} {name : String} {field : Field}
    (every : Every property (.object fields)) (found : fields.field? name = some field) :
    Every property field.kind :=
  (every_object_iff.mp every).2 field (Shape.mem_of_field? found).1

mutual

/-- Two properties that hold at every level hold together at every level. -/
theorem Every.and {first second : Kind -> Prop} : ∀ {kind : Kind}, Every first kind ->
    Every second kind -> Every (fun kind => first kind ∧ second kind) kind
  | .unknown, isFirst, isSecond => ⟨isFirst, isSecond⟩
  | .scalar _, isFirst, isSecond => ⟨isFirst, isSecond⟩
  | .resolved _, isFirst, isSecond => ⟨isFirst, isSecond⟩
  | .list _, isFirst, isSecond => ⟨⟨isFirst.1, isSecond.1⟩, isFirst.2.and isSecond.2⟩
  | .object _, isFirst, isSecond => ⟨⟨isFirst.1, isSecond.1⟩, isFirst.2.and isSecond.2⟩

theorem EveryField.and {first second : Kind -> Prop} : ∀ {fields : List Field},
    EveryField first fields -> EveryField second fields ->
    EveryField (fun kind => first kind ∧ second kind) fields
  | [], _, _ => trivial
  | .mk _ _ _ :: _, isFirst, isSecond =>
      ⟨isFirst.1.and isSecond.1, isFirst.2.and isSecond.2⟩

end

mutual

/-- What follows from a property at every level holds at every level. -/
theorem Every.imp {first second : Kind -> Prop} (implies : ∀ kind, first kind -> second kind) :
    ∀ {kind : Kind}, Every first kind -> Every second kind
  | .unknown, every => implies _ every
  | .scalar _, every => implies _ every
  | .resolved _, every => implies _ every
  | .list _, every => ⟨implies _ every.1, every.2.imp implies⟩
  | .object _, every => ⟨implies _ every.1, every.2.imp implies⟩

theorem EveryField.imp {first second : Kind -> Prop} (implies : ∀ kind, first kind -> second kind) :
    ∀ {fields : List Field}, EveryField first fields -> EveryField second fields
  | [], _ => trivial
  | .mk _ _ _ :: _, every => ⟨every.1.imp implies, every.2.imp implies⟩

end

/-- A property that scalars and lists have, and that objects keep when they merge. -/
structure MergeInvariant (property : Kind -> Prop) : Prop where
  scalar : ∀ form, property (.scalar form)
  list : ∀ element, property (.list element)
  merge : ∀ left right : Shape, property (.object left) -> property (.object right) ->
    property (.object (left.merge right))

/-- A property that inferred objects have, and that objects keep when they merge, take a field in
or leave fields out. -/
structure Invariant (property : Kind -> Prop) : Prop extends MergeInvariant property where
  unknown : property .unknown
  inferred : ∀ fields : Object, (fields.map Prod.fst).Nodup ->
    property (.object (inferFields fields))
  setField : ∀ (fields : Shape) (key : String) (kind : Kind), property (.object fields) ->
    property (.object (fields.setField (.unnamed key kind)))
  filter : ∀ (fields : Shape) (keep : Field -> Bool), property (.object fields) ->
    property (.object (fields.filter keep))

theorem MergeInvariant.and {other : Kind -> Prop} (first : MergeInvariant property)
    (second : MergeInvariant other) : MergeInvariant fun kind => property kind ∧ other kind where
  scalar form := ⟨first.scalar form, second.scalar form⟩
  list element := ⟨first.list element, second.list element⟩
  merge left right holdLeft holdRight :=
    ⟨first.merge left right holdLeft.1 holdRight.1, second.merge left right holdLeft.2 holdRight.2⟩

theorem Invariant.and {other : Kind -> Prop} (first : Invariant property)
    (second : Invariant other) : Invariant fun kind => property kind ∧ other kind where
  toMergeInvariant := first.toMergeInvariant.and second.toMergeInvariant
  unknown := ⟨first.unknown, second.unknown⟩
  inferred fields distinct := ⟨first.inferred fields distinct, second.inferred fields distinct⟩
  setField fields key kind hold :=
    ⟨first.setField fields key kind hold.1, second.setField fields key kind hold.2⟩
  filter fields keep hold := ⟨first.filter fields keep hold.1, second.filter fields keep hold.2⟩

/-- An invariant at every level of two kinds holds at every level of their merge. -/
theorem MergeInvariant.every_merged (invariant : MergeInvariant property)
    {left right merge : Kind} (merged : Merged left right merge) :
    Every property left -> Every property right -> Every property merge := by
  induction merged with
  | computedLeft => exact fun everyLeft _ => everyLeft
  | computedRight => exact fun _ everyRight => everyRight
  | unknownLeft => exact fun _ everyRight => everyRight
  | unknownRight => exact fun everyLeft _ => everyLeft
  | scalars | scalarObject | objectScalar | jsonList | listJson =>
      intro _ _
      exact invariant.scalar _
  | lists elements inductionHypothesis =>
      intro everyLeft everyRight
      exact ⟨invariant.list _, inductionHypothesis everyLeft.2 everyRight.2⟩
  | listSingle isSingle taken inductionHypothesis =>
      intro everyLeft everyRight
      exact ⟨invariant.list _, inductionHypothesis everyLeft.2 everyRight⟩
  | singleList isSingle taken inductionHypothesis =>
      intro everyLeft everyRight
      exact ⟨invariant.list _, inductionHypothesis everyRight.2 everyLeft⟩
  | @objects left right shared inductionHypothesis =>
      intro everyLeft everyRight
      rw [every_object_iff] at everyLeft everyRight ⊢
      refine ⟨invariant.merge left right everyLeft.1 everyRight.1, ?_⟩
      intro field member
      rcases Shape.mem_merge member with ⟨mine, isMine, rfl⟩ | isTheirs
      · cases found : right.field? mine.name with
        | none => exact everyLeft.2 mine isMine
        | some theirs =>
            exact inductionHypothesis mine isMine theirs found (everyLeft.2 mine isMine)
              (everyRight.2 theirs (Shape.mem_of_field? found).1)
      · exact everyRight.2 field isTheirs

theorem MergeInvariant.every_merge (invariant : MergeInvariant property) {left right : Kind}
    (everyLeft : Every property left) (everyRight : Every property right) :
    Every property (left.merge right) :=
  invariant.every_merged (merged left right) everyLeft everyRight

namespace Invariant

/-- An invariant of a shape is kept when a field with it is set. -/
theorem every_setField (invariant : Invariant property) {fields : Shape} {key : String}
    {kind : Kind} (everyFields : Every property (.object fields))
    (everyKind : Every property kind) :
    Every property (.object (fields.setField (.unnamed key kind))) := by
  rw [every_object_iff] at everyFields ⊢
  refine ⟨invariant.setField fields key kind everyFields.1, ?_⟩
  intro field member
  rcases Shape.mem_setField member with rfl | isOld
  · exact everyKind
  · exact everyFields.2 field isOld

/-- An invariant of a shape is kept when fields are left out. -/
theorem every_filter (invariant : Invariant property) {fields : Shape} (keep : Field -> Bool)
    (everyFields : Every property (.object fields)) :
    Every property (.object (fields.filter keep)) := by
  rw [every_object_iff] at everyFields ⊢
  exact ⟨invariant.filter fields keep everyFields.1,
    fun field member => everyFields.2 field (List.mem_filter.mp member).1⟩

/-! ### Inference and overlays -/

mutual

/-- An invariant holds at every level of the kind of a value. -/
theorem every_infer (invariant : Invariant property) :
    ∀ value : Value, value.WellKeyed -> Every property (infer value)
  | .null, _ => invariant.unknown
  | .bool _, _ => invariant.scalar _
  | .number (.int number), _ => by
      rw [infer]
      split
      · exact invariant.scalar _
      · exact invariant.scalar _
  | .number (.double _), _ => invariant.scalar _
  | .string _, _ => invariant.scalar _
  | .array items, wellKeyed => by
      rw [Value.WellKeyed] at wellKeyed
      exact ⟨invariant.list _,
        every_inferItems invariant items wellKeyed .unknown invariant.unknown⟩
  | .object fields, wellKeyed => by
      rw [Value.WellKeyed] at wellKeyed
      exact ⟨invariant.inferred fields wellKeyed.1,
        every_inferFields invariant fields wellKeyed.2⟩

theorem every_inferItems (invariant : Invariant property) :
    ∀ items : List Value, Value.WellKeyedItems items -> ∀ seen : Kind,
      Every property seen -> Every property (inferItems seen items)
  | [], _, _, everySeen => everySeen
  | first :: rest, wellKeyed, seen, everySeen => by
      rw [Value.WellKeyedItems] at wellKeyed
      rw [inferItems]
      exact every_inferItems invariant rest wellKeyed.2 _
        (invariant.every_merge everySeen (every_infer invariant first wellKeyed.1))

theorem every_inferFields (invariant : Invariant property) :
    ∀ fields : Object, Value.WellKeyedFields fields -> EveryField property (inferFields fields)
  | [], _ => trivial
  | (_, value) :: rest, wellKeyed => by
      rw [Value.WellKeyedFields] at wellKeyed
      exact ⟨every_infer invariant value wellKeyed.1,
        every_inferFields invariant rest wellKeyed.2⟩

end

mutual

/-- An invariant of declared fields and of a node is one of the node laid over them. -/
theorem every_overlay (invariant : Invariant property) :
    ∀ node defaults : Kind, Every property defaults -> Every property node ->
      Every property (overlay defaults node)
  | .unknown, _, everyDefaults, _ => by rwa [overlay]
  | .scalar _, _, _, everyNode => everyNode
  | .list _, _, _, everyNode => everyNode
  | .resolved _, _, _, everyNode => everyNode
  | .object fields, defaults, everyDefaults, everyNode => by
      cases defaults with
      | object declared =>
          exact every_overlayFields invariant fields everyNode.2 declared everyDefaults
      | _ => exact everyNode

theorem every_overlayFields (invariant : Invariant property) :
    ∀ fields : List Field, EveryField property fields -> ∀ declared : Shape,
      Every property (.object declared) ->
      Every property (.object (overlayFields declared fields))
  | [], _, _, everyDeclared => everyDeclared
  | .mk name _ kind :: rest, everyNode, declared, everyDeclared => by
      rw [overlayFields]
      refine every_overlayFields invariant rest everyNode.2 _
        (invariant.every_setField everyDeclared ?_)
      split
      · next existing found =>
          exact every_overlay invariant kind existing.kind (everyDeclared.of_field? found)
            everyNode.1
      · exact everyNode.1

end

end Invariant

/-! ### The invariants of shapes -/

/-- The fields of an object have distinct names. -/
def DistinctNames : Kind -> Prop
  | .object fields => (Shape.names fields).Nodup
  | _ => True

/-- The fields of an object have the names of their content keys. -/
def NamedBy (nameOf : String -> Except Failure String) : Kind -> Prop
  | .object fields => ∀ field ∈ fields, nameOf field.sourceKey = .ok field.name
  | _ => True

/-- A kind that is observed and not computed. -/
def Observed : Kind -> Prop
  | .resolved _ => False
  | _ => True

theorem names_inferFields (fields : Object) :
    (inferFields fields).names = fields.map Prod.fst := by
  induction fields with
  | nil => rfl
  | cons entry rest inductionHypothesis =>
      simpa [inferFields, Shape.names, Field.unnamed, Field.name] using inductionHypothesis

theorem invariant_distinctNames : Invariant DistinctNames where
  unknown := trivial
  scalar _ := trivial
  list _ := trivial
  inferred fields distinct := by rwa [DistinctNames, names_inferFields]
  merge _ _ distinctLeft distinctRight := Shape.nodup_names_merge distinctLeft distinctRight
  setField _ _ _ distinct := Shape.nodup_names_setField distinct
  filter fields keep distinct := distinct.sublist (List.filter_sublist.map Field.name)

theorem mergeInvariant_namedBy (nameOf : String -> Except Failure String) :
    MergeInvariant (NamedBy nameOf) where
  scalar _ := trivial
  list _ := trivial
  merge left right namedLeft namedRight := by
    intro field member
    rcases Shape.mem_merge member with ⟨mine, isMine, rfl⟩ | isTheirs
    · simpa using namedLeft mine isMine
    · exact namedRight field isTheirs

/-- Fields stand under their content keys until they are named. -/
theorem invariant_namedBy_ok : Invariant (NamedBy Except.ok) where
  toMergeInvariant := mergeInvariant_namedBy Except.ok
  unknown := trivial
  inferred fields distinct := by
    intro field member
    induction fields with
    | nil => cases member
    | cons entry rest inductionHypothesis =>
        rcases List.mem_cons.mp member with rfl | inRest
        · rfl
        · exact inductionHypothesis (List.nodup_cons.mp distinct).2 inRest
  setField fields key kind named := by
    intro field member
    rcases Shape.mem_setField member with rfl | isOld
    · rfl
    · exact named field isOld
  filter fields keep named field member := named field (List.mem_filter.mp member).1

theorem invariant_observed : Invariant Observed where
  unknown := trivial
  scalar _ := trivial
  list _ := trivial
  inferred _ _ := trivial
  merge _ _ _ _ := trivial
  setField _ _ _ _ := trivial
  filter _ _ _ := trivial

end Kind

end ContentGraph
