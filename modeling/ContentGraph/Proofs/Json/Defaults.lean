import ContentGraph.Proofs.Json.MergeOrder

/-!
Contract: filling an object in from defaults, and its relation to overlays.

Owns:
- `find?_fillMissing`, what is under a key after defaults were filled in;
- `fillIn_reordered`: a value filled in from another is the other with the value laid over it, up
  to the order of fields;
- `at?_fillIn`: whatever a value holds at a path stays there, filled in at most;
- `defaults_and_overlays`, these laws together with the repeated use of the same defaults and of
  the same overlay.

Does not own: overlays that keep clear of each other (`Proofs.Json.MergeOrder`).
-/

namespace ContentGraph.Json.Value

variable {target defaults inner : Object} {key : String} {held default value : Value} {path : Path}

/-! ### One value filled in -/

theorem fillIn_of_default_leaf (isLeaf : default.isObject = false) (held : Value) :
    fillIn held default = held := by
  cases default with
  | object fields => cases isLeaf
  | _ => rfl

/-- Nothing is filled into a value that is no object, null included. -/
theorem fillIn_of_leaf (isLeaf : held.isObject = false) (default : Value) :
    fillIn held default = held := by
  cases default with
  | object fields =>
      cases held with
      | object fields => cases isLeaf
      | _ => rfl
  | _ => rfl

theorem fillIn_object (target defaults : Object) :
    fillIn (.object target) (.object defaults) = .object (fillMissing target defaults) := rfl

/-! ### Keys -/

theorem find?_fillMissing_of_absent (absent : key ∉ Object.keys defaults) :
    Object.find? (fillMissing target defaults) key = Object.find? target key := by
  induction defaults generalizing target with
  | nil => rw [fillMissing]
  | cons field rest inductionHypothesis =>
      obtain ⟨name, default⟩ := field
      obtain ⟨isOther, absentRest⟩ := List.ne_and_not_mem_of_not_mem_cons absent
      rw [fillMissing, inductionHypothesis absentRest, Object.find?_insert_other isOther]

/-- Under a key of the defaults stands what the target has there, filled in, or else the default. -/
theorem find?_fillMissing (distinct : (Object.keys defaults).Nodup) :
    Object.find? (fillMissing target defaults) key =
      match Object.find? defaults key with
      | none => Object.find? target key
      | some default =>
          some (match Object.find? target key with
            | some held => fillIn held default
            | none => default) := by
  induction defaults generalizing target with
  | nil => rfl
  | cons field rest inductionHypothesis =>
      obtain ⟨name, default⟩ := field
      obtain ⟨isNew, distinctRest⟩ := List.nodup_cons.mp distinct
      rw [fillMissing]
      by_cases isName : name = key
      · subst isName
        cases Object.find? target name <;>
          rw [find?_fillMissing_of_absent isNew, Object.find?_insert_same, Object.find?, if_pos rfl]
      · rw [inductionHypothesis distinctRest, Object.find?_insert_other (Ne.symm isName),
          Object.find?, if_neg isName]

/-- The keys of the target stay in front, in their order. -/
theorem keys_prefix_fillMissing (target defaults : Object) :
    Object.keys target <+: Object.keys (fillMissing target defaults) := by
  induction defaults generalizing target with
  | nil => exact List.prefix_rfl
  | cons field rest inductionHypothesis =>
      obtain ⟨name, default⟩ := field
      rw [fillMissing]
      refine List.IsPrefix.trans ?_ (inductionHypothesis _)
      rw [Object.keys_insert]
      split
      · exact List.prefix_rfl
      · exact List.prefix_append _ _

theorem nodup_keys_fillMissing (distinct : (Object.keys target).Nodup) (defaults : Object) :
    (Object.keys (fillMissing target defaults)).Nodup := by
  induction defaults generalizing target with
  | nil => exact distinct
  | cons field rest inductionHypothesis =>
      obtain ⟨name, default⟩ := field
      rw [fillMissing]
      exact inductionHypothesis (Object.nodup_keys_insert distinct)

/-! ### Filling in as an overlay -/

/-- A value that is filled in is the default with the value laid over it. -/
theorem fillIn_reordered (wellKeyed : held.WellKeyed) (wellKeyedDefault : default.WellKeyed) :
    Reordered (fillIn held default) (deepMerge default held) := by
  induction held using fieldInduction generalizing default with
  | leaf held isLeaf =>
      rw [fillIn_of_leaf isLeaf, deepMerge_of_leaf isLeaf]
      exact .same held
  | object target inductionHypothesis =>
      cases default with
      | object defaults =>
          obtain ⟨distinct, wellKeyedTarget⟩ := wellKeyed
          obtain ⟨distinctDefaults, wellKeyedDefaults⟩ := wellKeyedDefault
          rw [fillIn_object, deepMerge]
          refine reordered_of_find? (nodup_keys_fillMissing distinct defaults)
            (nodup_keys_deepMergeFields distinctDefaults) fun key => ?_
          rw [find?_fillMissing distinctDefaults]
          cases isHeld : Object.find? target key with
          | none =>
              rw [find?_deepMergeFields_of_absent isHeld]
              cases Object.find? defaults key with
              | none => exact .none
              | some default => exact .some (.same default)
          | some held =>
              have member := Object.mem_of_find? isHeld
              rw [find?_deepMergeFields_of_mem distinct member]
              cases isDefault : Object.find? defaults key with
              | none => exact .some (.same held)
              | some default =>
                  exact .some (inductionHypothesis (key, held) member
                    (Object.wellKeyedFields_iff.mp wellKeyedTarget _ member)
                    (Object.wellKeyedFields_iff.mp wellKeyedDefaults _
                      (Object.mem_of_find? isDefault)))
      | _ => exact .same (.object target)

/-- Whatever a value holds at a path stays there, filled in at most. -/
theorem at?_fillIn (wellKeyed : default.WellKeyed) (isAt : held.at? path = some value) :
    ∃ below, (fillIn held default).at? path = some (fillIn value below) := by
  induction path generalizing held default with
  | nil =>
      cases isAt
      exact ⟨default, rfl⟩
  | cons key rest inductionHypothesis =>
      have unchanged (same : fillIn held default = held) :
          ∃ below, (fillIn held default).at? (key :: rest) = some (fillIn value below) :=
        ⟨.null, by rw [same, isAt]; rfl⟩
      cases default with
      | object defaults =>
          cases held with
          | object target =>
              obtain ⟨one, isOne, inside⟩ := Option.bind_eq_some_iff.mp isAt
              have found : Object.find? target key = some one := isOne
              rw [fillIn_object, at?_cons]
              show ∃ below, (Object.find? (fillMissing target defaults) key).bind _ = _
              rw [find?_fillMissing wellKeyed.1, found]
              cases isDefault : Object.find? defaults key with
              | none => exact ⟨.null, inside⟩
              | some default =>
                  exact inductionHypothesis
                    (Object.wellKeyedFields_iff.mp wellKeyed.2 _ (Object.mem_of_find? isDefault))
                    inside
          | _ => exact unchanged rfl
      | _ => exact unchanged rfl

/-! ### The same defaults again -/

/-- Filling in defaults that the target has taken in changes nothing. -/
theorem fillMissing_of_absorbed
    (absorbed : ∀ field ∈ defaults, ∃ held,
      Object.find? target field.1 = some held ∧ fillIn held field.2 = held) :
    fillMissing target defaults = target := by
  induction defaults with
  | nil => rfl
  | cons field rest inductionHypothesis =>
      obtain ⟨name, default⟩ := field
      obtain ⟨⟨held, found, isTaken⟩, absorbedRest⟩ := List.forall_mem_cons.mp absorbed
      have isSame : Object.insert target name held = target := Object.insert_of_find? found
      rw [fillMissing, found]
      dsimp only
      rw [isTaken, isSame, inductionHypothesis absorbedRest]

theorem fillIn_self (value : Value) (wellKeyed : value.WellKeyed) : fillIn value value = value := by
  induction value using fieldInduction with
  | leaf value isLeaf => exact fillIn_of_leaf isLeaf value
  | object fields inductionHypothesis =>
      obtain ⟨distinct, wellKeyedFields⟩ := wellKeyed
      rw [fillIn_object, fillMissing_of_absorbed]
      intro field member
      have found := (Object.find?_eq_some_iff distinct).mpr member
      have wellKeyedField := Object.wellKeyedFields_iff.mp wellKeyedFields field member
      exact ⟨field.2, found, inductionHypothesis field member wellKeyedField⟩

/-- What was filled in once is not changed by the same default. -/
theorem fillIn_fillIn (default : Value) (wellKeyed : default.WellKeyed) (held : Value) :
    fillIn (fillIn held default) default = fillIn held default := by
  induction default using fieldInduction generalizing held with
  | leaf default isLeaf => rw [fillIn_of_default_leaf isLeaf, fillIn_of_default_leaf isLeaf]
  | object defaults inductionHypothesis =>
      obtain ⟨distinct, wellKeyedDefaults⟩ := wellKeyed
      cases held with
      | object target =>
          rw [fillIn_object, fillIn_object, fillMissing_of_absorbed]
          intro field member
          have wellKeyedField := Object.wellKeyedFields_iff.mp wellKeyedDefaults field member
          have isDefault := (Object.find?_eq_some_iff distinct).mpr member
          have found : Object.find? (fillMissing target defaults) field.1 = _ :=
            find?_fillMissing distinct
          rw [isDefault] at found
          refine ⟨_, found, ?_⟩
          cases Object.find? target field.1 with
          | some held => exact inductionHypothesis field member wellKeyedField held
          | none => exact fillIn_self field.2 wellKeyedField
      | _ => rfl

/-! ### Both views -/

/-- Filling a target in from defaults is laying the target over the defaults, up to the order of
fields.  It keeps every object of the target with its keys in front and in their order, and every
other value as it is, at every depth; and the same defaults, like the same overlay, have nothing to
add a second time. -/
theorem defaults_and_overlays :
    (∀ target defaults : Object, (Value.object target).WellKeyed →
      (Value.object defaults).WellKeyed →
      Reordered (.object (fillMissing target defaults))
          (deepMerge (.object defaults) (.object target)) ∧
        (∀ path inner, (Value.object target).at? path = some (.object inner) →
          ∃ filled, (Value.object (fillMissing target defaults)).at? path =
              some (.object filled) ∧
            Object.keys inner <+: Object.keys filled) ∧
        (∀ path leaf, leaf.isObject = false → (Value.object target).at? path = some leaf →
          (Value.object (fillMissing target defaults)).at? path = some leaf) ∧
        fillMissing (fillMissing target defaults) defaults = fillMissing target defaults) ∧
      ∀ base value : Value, value.WellKeyed →
        deepMerge (deepMerge base value) value = deepMerge base value := by
  refine ⟨fun target defaults wellKeyed wellKeyedDefaults => ⟨?_, ?_, ?_, ?_⟩,
    fun base value wellKeyed => deepMerge_deepMerge value wellKeyed base⟩
  · exact fillIn_reordered wellKeyed wellKeyedDefaults
  · intro path inner isAt
    obtain ⟨below, isFilled⟩ := at?_fillIn wellKeyedDefaults isAt
    rw [fillIn_object] at isFilled
    cases below with
    | object additions => exact ⟨_, isFilled, keys_prefix_fillMissing inner additions⟩
    | _ => exact ⟨inner, isFilled, List.prefix_rfl⟩
  · intro path leaf isLeaf isAt
    obtain ⟨below, isFilled⟩ := at?_fillIn wellKeyedDefaults isAt
    rwa [fillIn_object, fillIn_of_leaf isLeaf] at isFilled
  · have again := fillIn_fillIn (.object defaults) wellKeyedDefaults (.object target)
    rw [fillIn_object, fillIn_object] at again
    exact Value.object.inj again

/-- A record with a null, a list and a text where `sampleDefaults` has other things. -/
def sampleTarget : Object :=
  [("id", .string "a"), ("meta", .object [("lang", .null), ("tags", .array [.string "x"])]),
    ("seo", .string "none")]

/-- Defaults for `sampleTarget`, with an object that it has, a text for its null, and a field that
it lacks. -/
def sampleDefaults : Object :=
  [("seo", .object [("title", .string "T")]), ("kind", .string "post"),
    ("meta", .object [("code", .string "c"), ("tags", .object []), ("lang", .string "en")])]

/-- The fields that the target has come first in one view and last in the other. -/
theorem defaults_and_overlays_sampleTarget :
    (Value.object sampleTarget).WellKeyed ∧ (Value.object sampleDefaults).WellKeyed ∧
      Reordered
        (.object [("id", .string "a"),
          ("meta", .object [("lang", .null), ("tags", .array [.string "x"]),
            ("code", .string "c")]),
          ("seo", .string "none"), ("kind", .string "post")])
        (.object [("seo", .string "none"), ("kind", .string "post"),
          ("meta", .object [("code", .string "c"), ("tags", .array [.string "x"]),
            ("lang", .null)]),
          ("id", .string "a")]) ∧
      (∃ filled, (Value.object (fillMissing sampleTarget sampleDefaults)).at? ["meta"] =
          some (.object filled) ∧ ["lang", "tags"] <+: Object.keys filled) ∧
      (Value.object (fillMissing sampleTarget sampleDefaults)).at? ["meta", "lang"] =
        some .null ∧
      fillMissing (fillMissing sampleTarget sampleDefaults) sampleDefaults =
        fillMissing sampleTarget sampleDefaults ∧
      deepMerge (deepMerge (.object sampleDefaults) (.object sampleTarget))
          (.object sampleTarget) =
        deepMerge (.object sampleDefaults) (.object sampleTarget) := by
  have wellKeyed : (Value.object sampleTarget).WellKeyed := by
    simp [sampleTarget, WellKeyed, WellKeyedFields, WellKeyedItems]
  have wellKeyedDefaults : (Value.object sampleDefaults).WellKeyed := by
    simp [sampleDefaults, WellKeyed, WellKeyedFields]
  obtain ⟨fills, lays⟩ := defaults_and_overlays
  obtain ⟨reordered, objects, leaves, again⟩ :=
    fills sampleTarget sampleDefaults wellKeyed wellKeyedDefaults
  exact ⟨wellKeyed, wellKeyedDefaults, reordered, objects ["meta"] _ rfl,
    leaves ["meta", "lang"] .null rfl rfl, again, lays (.object sampleDefaults) _ wellKeyed⟩

end ContentGraph.Json.Value
