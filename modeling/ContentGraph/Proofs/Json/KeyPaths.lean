import ContentGraph.Proofs.Json.Merge

/-!
Contract: paths of object keys, and what a merge does along them.

Owns:
- `Value.at?`, the value at a path of object keys;
- `Value.Spares`, the paths that lead to null or to nothing below objects;
- what is under a key, and at a leaf of the overlay, after a value was laid over another.

Does not own: paths into arrays, which a merge replaces as a whole.
-/

namespace ContentGraph.Json.Value

/-! ### Paths of object keys -/

/-- The value at a path of object keys; `none` where the path leaves the objects. -/
def at? (value : Value) : Path -> Option Value
  | [] => some value
  | key :: rest => (value.field? key).bind (·.at? rest)

/-- Some step of a path leads from an object to null or to nothing. -/
def Spares (value : Value) (path : Path) : Prop :=
  ∃ above key below, path = above ++ key :: below ∧
    (∃ fields, value.at? above = some (.object fields)) ∧
    (value.at? (above ++ [key]) = none ∨ value.at? (above ++ [key]) = some .null)

theorem at?_cons (value : Value) (key : String) (rest : Path) :
    value.at? (key :: rest) = (value.field? key).bind (·.at? rest) :=
  rfl

theorem at?_singleton (value : Value) (key : String) : value.at? [key] = value.field? key := by
  rw [at?_cons]
  cases value.field? key <;> rfl

/-- The first step of a path either is the one that the value spares, or leads to an object that
spares the rest of the path. -/
theorem spares_cons {value : Value} {key : String} {rest : Path}
    (spares : value.Spares (key :: rest)) :
    ∃ fields, value = .object fields ∧
      (Object.find? fields key = none ∨ Object.find? fields key = some .null ∨
        ∃ inner next below, Object.find? fields key = some (.object inner) ∧
          rest = next :: below ∧ (Value.object inner).Spares rest) := by
  obtain ⟨above, last, below, isPath, ⟨inner, isObject⟩, isNothing⟩ := spares
  cases above with
  | nil =>
      obtain ⟨rfl, rfl⟩ := List.cons.inj isPath
      cases isObject
      rw [List.nil_append, at?_singleton] at isNothing
      exact ⟨inner, rfl, isNothing.imp_right .inl⟩
  | cons first above =>
      obtain ⟨rfl, rfl⟩ := List.cons.inj isPath
      cases value with
      | object fields =>
          rw [at?_cons] at isObject
          rw [List.cons_append, at?_cons] at isNothing
          refine ⟨fields, rfl, ?_⟩
          cases found : Object.find? fields key with
          | none => exact .inl rfl
          | some held =>
              have isHeld : (Value.object fields).field? key = some held := found
              rw [isHeld, Option.bind_some] at isObject isNothing
              have isInner : ∃ heldFields, held = .object heldFields := by
                cases above with
                | nil => exact ⟨inner, Option.some.inj isObject⟩
                | cons second above =>
                    cases held with
                    | object heldFields => exact ⟨heldFields, rfl⟩
                    | _ => cases isObject
              obtain ⟨heldFields, rfl⟩ := isInner
              obtain ⟨next, tail, isTail⟩ : ∃ next tail, above ++ last :: below = next :: tail :=
                List.exists_cons_of_ne_nil (by simp)
              exact .inr (.inr ⟨heldFields, next, tail, rfl, isTail,
                above, last, below, rfl, ⟨inner, isObject⟩, isNothing⟩)
      | _ => cases isObject

/-- Below an object, the value at a path only depends on the object's lookup. -/
theorem at?_of_find?_eq {left right : Object}
    (same : ∀ key, Object.find? left key = Object.find? right key) (key : String) (rest : Path) :
    (Value.object left).at? (key :: rest) = (Value.object right).at? (key :: rest) := by
  rw [at?_cons, at?_cons]
  show (Object.find? left key).bind _ = (Object.find? right key).bind _
  rw [same key]

theorem spares_of_find?_eq {left right : Object} {path : Path}
    (same : ∀ key, Object.find? left key = Object.find? right key)
    (spares : (Value.object left).Spares path) : (Value.object right).Spares path := by
  obtain ⟨above, key, below, isPath, ⟨inner, isObject⟩, isNothing⟩ := spares
  refine ⟨above, key, below, isPath, ?_, ?_⟩
  · cases above with
    | nil => exact ⟨right, rfl⟩
    | cons first above => exact ⟨inner, at?_of_find?_eq same first above ▸ isObject⟩
  · cases above with
    | nil => exact at?_of_find?_eq same key [] ▸ isNothing
    | cons first above => exact at?_of_find?_eq same first (above ++ [key]) ▸ isNothing

/-! ### A merge, key by key -/

/-- Null gives way to whatever is laid over it. -/
theorem deepMerge_null (value : Value) : deepMerge .null value = value := by
  cases value <;> rfl

/-- What is under a key after an object was laid over any value.  A base without the key acts as
one that holds null there. -/
theorem field?_deepMerge {additions : Object} (distinct : (Object.keys additions).Nodup)
    (base : Value) (key : String) :
    (base.deepMerge (.object additions)).field? key =
      match Object.find? additions key with
      | none => base.field? key
      | some added => some (((base.field? key).getD .null).deepMerge added) := by
  cases found : Object.find? additions key with
  | none =>
      cases base with
      | object fields => exact field?_deepMerge_of_absent found
      | _ => exact found
  | some added =>
      cases base with
      | object fields =>
          have member := (Object.find?_eq_some_iff distinct).mp found
          show Object.find? (deepMergeFields fields additions) key = some
            (((Object.find? fields key).getD .null).deepMerge added)
          rw [find?_deepMergeFields_of_mem distinct member]
          cases Object.find? fields key with
          | none => rw [Option.getD_none, deepMerge_null]
          | some held => rfl
      | _ =>
          show Object.find? additions key = some (deepMerge .null added)
          rw [found, deepMerge_null]

/-- A leaf of the overlay ends up at its path, whatever stood there. -/
theorem at?_deepMerge {path : Path} {leaf : Value} (isLeaf : leaf.isObject = false)
    (base overlay : Value) (wellKeyed : overlay.WellKeyed) (isAt : overlay.at? path = some leaf) :
    (base.deepMerge overlay).at? path = some leaf := by
  induction path generalizing base overlay with
  | nil =>
      cases isAt
      rw [deepMerge_of_leaf isLeaf]
      rfl
  | cons key rest inductionHypothesis =>
      cases overlay with
      | object fields =>
          obtain ⟨distinct, wellKeyedFields⟩ := wellKeyed
          obtain ⟨held, found, inside⟩ := Option.bind_eq_some_iff.mp isAt
          have isHeld : Object.find? fields key = some held := found
          have wellKeyedHeld := Object.wellKeyedFields_iff.mp wellKeyedFields _
            (Object.mem_of_find? isHeld)
          rw [at?_cons, field?_deepMerge distinct, isHeld]
          exact inductionHypothesis _ held wellKeyedHeld inside
      | _ => cases isAt

end ContentGraph.Json.Value
