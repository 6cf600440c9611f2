import ContentGraph.Graph.Projection
import ContentGraph.Proofs.Shape.PlainContent

/-!
Contract: how the graph shows plain content.

Owns:
- `Kind.shownAt`, what the graph shows of a value at a path: a field that an object does not hold
  as null, a single value in a list field as a list of one, and `_collection` as the type's name;
- `Reads`, a shape whose fields are those of a stored object;
- `shownAt_eq_follow?`: at the paths of `Kind.storedAt` that is what the value holds.
-/

namespace ContentGraph

open ContentGraph.Json

namespace Kind

/-- A field's value as the graph shows it: a single value in a list field is a list of one. -/
def shown : Kind -> Value -> Value
  | .list element, value =>
      match value with
      | .array items => .array (items.map (shown element))
      | .null => .null
      | single => .array [shown element single]
  | _, value => value

/-- What the graph shows of a value at a path.  A field that the shape has and an object does not
hold is null, and `_collection` is the name of the type. -/
def shownAt (typeName : String) : Kind -> Value -> Value.Path -> Option Value
  | kind, value, [] => some (kind.shown value)
  | .object shape, .object held, step :: rest =>
      if step = "_collection" then (Value.string typeName).follow? rest
      else (Shape.field? shape step).bind fun field =>
        shownAt (Projection.nestedTypeName typeName step) field.kind
          ((Object.find? held field.sourceKey).getD .null) rest
  | .object _, _, _ :: _ => none
  | kind, value, path => (kind.shown value).follow? path

/-- Whether the graph shows a value at a path as it is stored: the path does not end at a field
that an object does not hold, does not go through `_collection`, and meets no single value in a
list field. -/
def storedAt : Kind -> Value -> Value.Path -> Bool
  | kind, value, [] => kind.shown value = value
  | .object shape, .object held, step :: rest =>
      step ≠ "_collection" &&
        match Shape.field? shape step, Object.find? held step with
        | some field, some value => storedAt field.kind value rest
        | some _, none => !rest.isEmpty
        | none, _ => true
  | .object _, _, _ :: _ => true
  | kind, value, _ => kind.shown value = value

theorem shownAt_of_not_object {kind : Kind} (noObject : ∀ shape, kind ≠ .object shape)
    {typeName step : String} {value : Value} {rest : Value.Path} :
    kind.shownAt typeName value (step :: rest) = (kind.shown value).follow? (step :: rest) := by
  cases kind with
  | object shape => exact absurd rfl (noObject shape)
  | _ => rfl

theorem shownAt_null {typeName step : String} {rest : Value.Path} (kind : Kind) :
    kind.shownAt typeName .null (step :: rest) = none := by
  cases kind <;> rfl

theorem shown_of_storedAt {kind : Kind} (noObject : ∀ shape, kind ≠ .object shape)
    {value : Value} {path : Value.Path} (stored : kind.storedAt value path = true) :
    kind.shown value = value := by
  cases kind with
  | object shape => exact absurd rfl (noObject shape)
  | _ => cases path <;> simpa [storedAt] using stored

/-! ### Shapes of stored objects -/

variable {shape : Shape} {held : Object}

/-- The fields of a shape are those of an object: each reads the key of its own name and covers
what stands there, and every key has a field, `_collection` apart. -/
structure Reads (shape : Shape) (held : Object) : Prop where
  key : ∀ name field, shape.field? name = some field -> field.sourceKey = name
  covers : ∀ name field, name ≠ "_collection" -> shape.field? name = some field ->
    Covers Except.ok ((Object.find? held name).getD .null) field.kind
  known : ∀ name value, name ≠ "_collection" -> Object.find? held name = some value ->
    ∃ field, shape.field? name = some field

theorem reads_of_covers (plain : Every Plain (.object shape))
    (covers : Covers Except.ok (.object (Object.erase held "_collection")) (.object shape)) :
    Reads shape held := by
  have ofKey : ∀ name value, name ≠ "_collection" -> Object.find? held name = some value ->
      ∃ field, shape.field? name = some field ∧ Covers Except.ok value field.kind := by
    intro name value noName found
    have kept : Object.find? (Object.erase held "_collection") name = some value := by
      rw [Object.find?_erase noName, found]
    obtain ⟨other, field, isName, foundField, covered⟩ :=
      covers_object_iff.mp covers _ (Object.mem_of_find? kept)
    cases isName
    exact ⟨field, foundField, covered⟩
  constructor
  case key =>
    intro name field found
    obtain ⟨member, sameName⟩ := Shape.mem_of_field? found
    exact (Except.ok.inj (plain.1.2.2 field member)).trans sameName
  case covers =>
    intro name field noName found
    cases read : Object.find? held name with
    | none => exact covers_null _ _
    | some value =>
        obtain ⟨own, foundOwn, covered⟩ := ofKey name value noName read
        cases found.symm.trans foundOwn
        exact covered
  case known =>
    intro name value noName found
    obtain ⟨field, foundField, _⟩ := ofKey name value noName found
    exact ⟨field, foundField⟩

theorem reads_of_covers_object (plain : Every Plain (.object shape))
    (covers : Covers Except.ok (.object held) (.object shape)) : Reads shape held := by
  refine reads_of_covers plain (covers_object_iff.mpr fun entry member => ?_)
  exact covers_object_iff.mp covers entry (List.mem_filter.mp member).1

private theorem absent_of_unknown {name : String} (reads : Reads shape held)
    (noName : name ≠ "_collection") (unknown : shape.field? name = none) :
    Object.find? held name = none := by
  cases read : Object.find? held name with
  | none => rfl
  | some value =>
      obtain ⟨field, found⟩ := reads.known name value noName read
      cases unknown.symm.trans found

/-- The first step into a stored object: what is shown there is stored there when that holds of the
field's value. -/
private theorem shownAt_step {typeName step : String} {rest : Value.Path}
    (reads : Reads shape held)
    (stored : storedAt (.object shape) (.object held) (step :: rest) = true)
    (inside : ∀ field value, shape.field? step = some field ->
      Object.find? held step = some value -> field.kind.storedAt value rest = true ->
      field.kind.shownAt (Projection.nestedTypeName typeName step) value rest =
        value.follow? rest) :
    shownAt typeName (.object shape) (.object held) (step :: rest) =
      (Value.object held).follow? (step :: rest) := by
  simp only [storedAt, Bool.and_eq_true, decide_eq_true_eq] at stored
  obtain ⟨noName, stored⟩ := stored
  rw [shownAt, if_neg noName, Value.follow?, Value.step?]
  split at stored
  · next field value found read =>
      rw [found, Option.bind_some, reads.key step field found, read, Option.getD_some,
        Option.bind_some, inside field value found read stored]
  · next field found read =>
      rw [found, Option.bind_some, reads.key step field found, read, Option.getD_none,
        Option.bind_none]
      cases rest with
      | nil => cases stored
      | cons next others => exact shownAt_null field.kind
  · next unknown =>
      rw [unknown, absent_of_unknown reads noName unknown, Option.bind_none, Option.bind_none]

private theorem shownAt_eq_follow?_of_covers {kind : Kind} {typeName : String} {value : Value}
    {path : Value.Path} (plain : Every Plain kind) (covers : Covers Except.ok value kind)
    (stored : kind.storedAt value path = true) :
    kind.shownAt typeName value path = value.follow? path := by
  induction path generalizing kind typeName value with
  | nil =>
      have same : kind.shown value = value := by simpa [storedAt] using stored
      rw [shownAt, same, Value.follow?]
  | cons step rest inductionHypothesis =>
      by_cases isObject : ∃ shape, kind = .object shape
      · obtain ⟨shape, rfl⟩ := isObject
        cases value with
        | null => rfl
        | object held =>
            have reads := reads_of_covers_object plain covers
            refine shownAt_step reads stored fun field value found read storedInside => ?_
            have member := (Shape.mem_of_field? found).1
            have coversInside : Covers Except.ok value field.kind := by
              obtain ⟨name, own, isName, foundOwn, covered⟩ :=
                covers_object_iff.mp covers _ (Object.mem_of_find? read)
              cases isName
              cases found.symm.trans foundOwn
              exact covered
            exact inductionHypothesis ((every_object_iff.mp plain).2 field member) coversInside
              storedInside
        | _ => simp [Covers] at covers
      · have noObject : ∀ shape, kind ≠ .object shape := fun shape same =>
          isObject ⟨shape, same⟩
        rw [shownAt_of_not_object noObject, shown_of_storedAt noObject stored]

/-- Where a path shows what is stored, following it finds what is shown. -/
theorem shownAt_eq_follow? {typeName step : String} {rest : Value.Path}
    (plain : Every Plain (.object shape)) (reads : Reads shape held)
    (stored : storedAt (.object shape) (.object held) (step :: rest) = true) :
    shownAt typeName (.object shape) (.object held) (step :: rest) =
      (Value.object held).follow? (step :: rest) := by
  have noName : step ≠ "_collection" := by
    simp only [storedAt, Bool.and_eq_true, decide_eq_true_eq] at stored
    exact stored.1
  refine shownAt_step reads stored fun field value found read storedInside => ?_
  have covers : Covers Except.ok value field.kind := by
    simpa [read] using reads.covers step field noName found
  exact shownAt_eq_follow?_of_covers
    ((every_object_iff.mp plain).2 field (Shape.mem_of_field? found).1) covers storedInside

end Kind

end ContentGraph
