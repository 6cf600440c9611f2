import ContentGraph.Proofs.Json.KeyPaths

/-!
Contract: merges in either order.

Owns:
- `Value.Reordered`, equality up to the order of fields;
- `Value.Independent`, values that keep clear of each other's leaves;
- `deepMerge_right_comm`: such values can be laid over any value in either order.
-/

namespace ContentGraph.Json.Value

variable {left right leaf : Value} {mine theirs : Object} {path : Path}

/-! ### Values up to the order of fields -/

/-- Equality up to the order of fields.  Arrays are the same as they stand, together with the
objects inside them. -/
inductive Reordered : Value -> Value -> Prop where
  | same (value : Value) : Reordered value value
  | object {mine theirs : Object} (keys : (Object.keys mine).Perm (Object.keys theirs))
      (held : ∀ key one other, Object.find? mine key = some one ->
        Object.find? theirs key = some other -> Reordered one other) :
      Reordered (.object mine) (.object theirs)

theorem Reordered.at?_of_leaf (reordered : Reordered left right) (isLeaf : leaf.isObject = false)
    (isAt : left.at? path = some leaf) : right.at? path = some leaf := by
  induction path generalizing left right with
  | nil =>
      cases isAt
      cases reordered with
      | same => rfl
      | object => cases isLeaf
  | cons key rest inductionHypothesis =>
      cases reordered with
      | same => exact isAt
      | @object mine theirs keys held =>
          obtain ⟨one, found, inside⟩ := Option.bind_eq_some_iff.mp isAt
          have isOne : Object.find? mine key = some one := found
          have hasKey : key ∈ Object.keys theirs :=
            keys.mem_iff.mp (List.mem_map_of_mem (Object.mem_of_find? isOne))
          obtain ⟨other, isOther⟩ : ∃ other, Object.find? theirs key = some other := by
            rw [← Option.ne_none_iff_exists', ne_eq, Object.find?_eq_none_iff, not_not]
            exact hasKey
          show (Object.find? theirs key).bind _ = _
          rw [isOther]
          exact inductionHypothesis (held key one other isOne isOther) inside

/-- Objects that hold no key twice are equal up to order when what they hold under every key is. -/
theorem reordered_of_find? (distinct : (Object.keys mine).Nodup)
    (distinctOther : (Object.keys theirs).Nodup)
    (related : ∀ key, Option.Rel Reordered (Object.find? mine key) (Object.find? theirs key)) :
    Reordered (.object mine) (.object theirs) := by
  refine .object ((List.perm_ext_iff_of_nodup distinct distinctOther).mpr fun key => ?_) ?_
  · rw [← not_iff_not, ← Object.find?_eq_none_iff, ← Object.find?_eq_none_iff]
    have both := related key
    revert both
    generalize Object.find? mine key = one, Object.find? theirs key = other
    intro both
    cases both <;> simp
  · intro key one other isOne isOther
    have both := related key
    rw [isOne, isOther] at both
    cases both with
    | some reordered => exact reordered

/-! ### Values that keep clear of each other -/

/-- Wherever one of two values holds something other than an object, the other holds nothing.  In
particular it holds no such thing above that place, where the first one holds an object. -/
structure Independent (left right : Value) : Prop where
  absent {path : Path} {leaf : Value} (isAt : left.at? path = some leaf)
    (isLeaf : leaf.isObject = false) : right.at? path = none
  absentOther {path : Path} {leaf : Value} (isAt : right.at? path = some leaf)
    (isLeaf : leaf.isObject = false) : left.at? path = none

theorem Independent.symm (independent : Independent left right) : Independent right left :=
  ⟨independent.absentOther, independent.absent⟩

private theorem at?_below {key : String} {one : Value} (isOne : Object.find? mine key = some one)
    (rest : Path) : (Value.object mine).at? (key :: rest) = one.at? rest := by
  show (Object.find? mine key).bind _ = _
  rw [isOne]
  rfl

/-- Where both hold something under a key, these are objects that keep clear of each other. -/
theorem Independent.held {key : String} {one other : Value}
    (independent : Independent (.object mine) (.object theirs))
    (isOne : Object.find? mine key = some one) (isOther : Object.find? theirs key = some other) :
    one.isObject = true ∧ other.isObject = true ∧ Independent one other := by
  refine ⟨?_, ?_, ?_, ?_⟩
  · by_contra isLeaf
    have absent := independent.absent (at?_below isOne []) (by simpa using isLeaf)
    rw [at?_below isOther] at absent
    cases absent
  · by_contra isLeaf
    have absent := independent.absentOther (at?_below isOther []) (by simpa using isLeaf)
    rw [at?_below isOne] at absent
    cases absent
  · intro path leaf isAt isLeaf
    rw [← at?_below isOther]
    exact independent.absent ((at?_below isOne path).trans isAt) isLeaf
  · intro path leaf isAt isLeaf
    rw [← at?_below isOne]
    exact independent.absentOther ((at?_below isOther path).trans isAt) isLeaf

private theorem absent_of_shared (shared : ∀ field ∈ mine, ∀ other ∈ theirs, field.1 = other.1 ->
    field.2.isObject = true ∧ other.2.isObject = true ∧ Independent field.2 other.2)
    (isAt : (Value.object mine).at? path = some leaf) (isLeaf : leaf.isObject = false) :
    (Value.object theirs).at? path = none := by
  cases path with
  | nil =>
      cases isAt
      cases isLeaf
  | cons key rest =>
      obtain ⟨one, found, inside⟩ := Option.bind_eq_some_iff.mp isAt
      have isOne : Object.find? mine key = some one := found
      cases isOther : Object.find? theirs key with
      | none =>
          show (Object.find? theirs key).bind _ = _
          rw [isOther]
          rfl
      | some other =>
          rw [at?_below isOther]
          obtain ⟨_, _, independent⟩ := shared _ (Object.mem_of_find? isOne) _
            (Object.mem_of_find? isOther) rfl
          exact independent.absent inside isLeaf

/-- Objects keep clear of each other when, under every key that they share, both hold objects that
do. -/
theorem independent_of_shared (shared : ∀ field ∈ mine, ∀ other ∈ theirs, field.1 = other.1 ->
    field.2.isObject = true ∧ other.2.isObject = true ∧ Independent field.2 other.2) :
    Independent (.object mine) (.object theirs) where
  absent isAt isLeaf := absent_of_shared shared isAt isLeaf
  absentOther isAt isLeaf := absent_of_shared (fun other isOther field isField same =>
    let ⟨isObject, isObjectOther, independent⟩ := shared field isField other isOther same.symm
    ⟨isObjectOther, isObject, independent.symm⟩) isAt isLeaf

/-! ### Either order -/

theorem nodup_keys_deepMergeFields {base additions : Object}
    (distinct : (Object.keys base).Nodup) :
    (Object.keys (deepMergeFields base additions)).Nodup := by
  induction additions generalizing base with
  | nil => exact distinct
  | cons addition rest inductionHypothesis =>
      obtain ⟨key, value⟩ := addition
      rw [deepMergeFields]
      exact inductionHypothesis (Object.nodup_keys_insert distinct)

/-- Laying two objects over a value gives an object that holds no key twice. -/
theorem exists_deepMerge_deepMerge {base : Value} (mine theirs : Object)
    (wellKeyed : base.WellKeyed) (distinct : (Object.keys mine).Nodup) :
    ∃ merged, (base.deepMerge (.object mine)).deepMerge (.object theirs) = .object merged ∧
      (Object.keys merged).Nodup := by
  cases base with
  | object fields =>
      exact ⟨_, rfl, nodup_keys_deepMergeFields (nodup_keys_deepMergeFields wellKeyed.1)⟩
  | _ => exact ⟨_, rfl, nodup_keys_deepMergeFields distinct⟩

theorem wellKeyed_field? {base : Value} (wellKeyed : base.WellKeyed) (key : String) :
    ((base.field? key).getD .null).WellKeyed := by
  cases base with
  | object fields =>
      cases found : Object.find? fields key with
      | none => simp [field?, fields?, found, WellKeyed]
      | some held =>
          simpa [field?, fields?, found] using
            Object.wellKeyedFields_iff.mp wellKeyed.2 _ (Object.mem_of_find? found)
  | _ => simp [field?, fields?, WellKeyed]

/-- Objects that keep clear of each other can be laid over a value in either order. -/
theorem deepMerge_right_comm {base : Value} (wellKeyed : base.WellKeyed)
    (wellKeyedLeft : left.WellKeyed) (wellKeyedRight : right.WellKeyed)
    (isObject : left.isObject = true) (isOther : right.isObject = true)
    (independent : Independent left right) :
    Reordered ((base.deepMerge left).deepMerge right) ((base.deepMerge right).deepMerge left) := by
  induction left using fieldInduction generalizing base right with
  | leaf left isLeaf => cases isLeaf.symm.trans isObject
  | object mine inductionHypothesis =>
      cases right with
      | object theirs =>
          obtain ⟨distinct, wellKeyedMine⟩ := wellKeyedLeft
          obtain ⟨distinctOther, wellKeyedTheirs⟩ := wellKeyedRight
          obtain ⟨merged, isMerged, distinctMerged⟩ :=
            exists_deepMerge_deepMerge mine theirs wellKeyed distinct
          obtain ⟨turned, isTurned, distinctTurned⟩ :=
            exists_deepMerge_deepMerge theirs mine wellKeyed distinctOther
          rw [isMerged, isTurned]
          refine reordered_of_find? distinctMerged distinctTurned fun key => ?_
          show Option.Rel Reordered ((Value.object merged).field? key)
            ((Value.object turned).field? key)
          rw [← isMerged, ← isTurned, field?_deepMerge distinctOther, field?_deepMerge distinct,
            field?_deepMerge distinct, field?_deepMerge distinctOther]
          have same (held : Option Value) : Option.Rel Reordered held held := by
            cases held with
            | none => exact .none
            | some value => exact .some (.same value)
          cases isOne : Object.find? mine key with
          | none => cases Object.find? theirs key <;> exact same _
          | some one =>
              cases isTheirs : Object.find? theirs key with
              | none => exact same _
              | some other =>
                  -- Both are objects, laid over what the base has under this key.
                  obtain ⟨isObjectOne, isObjectOther, independentInside⟩ :=
                    independent.held isOne isTheirs
                  have memberOne := Object.mem_of_find? isOne
                  have memberOther := Object.mem_of_find? isTheirs
                  exact .some (inductionHypothesis (key, one) memberOne
                    (wellKeyed_field? wellKeyed key)
                    (Object.wellKeyedFields_iff.mp wellKeyedMine _ memberOne)
                    (Object.wellKeyedFields_iff.mp wellKeyedTheirs _ memberOther)
                    isObjectOne isObjectOther independentInside)
      | _ => cases isOther

end ContentGraph.Json.Value
