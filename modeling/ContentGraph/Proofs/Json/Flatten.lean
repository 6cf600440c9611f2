import ContentGraph.Proofs.Json.KeyPaths

/-!
Contract: the leaves of a value with their paths.

Owns:
- `mem_flatten_iff`: the leaves are all that stands at a path of keys and is no object;
- `Value.Precedes`, the order of paths in a document, and `flatten_ordered`: the leaves come in it;
- `Object.setAll`, which sets values at paths in turn, and `setAll_flatten`: it builds an object
  from its leaves again, unless an empty object is nested in it.

Does not own: paths into arrays, which are leaves as they stand.
-/

namespace ContentGraph.Json

namespace Value

variable {value held leaf : Value} {fields : Object} {key : String} {path rest : Path}

/-! ### What the leaves are -/

/-- A leaf of the value under a key, as a leaf of the object that has the key. -/
def under (key : String) (leaf : Path × Value) : Path × Value :=
  (key :: leaf.1, leaf.2)

theorem leaves_of_leaf (isLeaf : value.isObject = false) : leaves value = [([], value)] := by
  cases value with
  | object fields => cases isLeaf
  | _ => rfl

theorem flatten_of_leaf (isLeaf : value.isObject = false) : value.flatten = [] := by
  cases value with
  | object fields => cases isLeaf
  | _ => rfl

theorem leavesOfFields_cons (field : String × Value) (rest : Object) :
    leavesOfFields (field :: rest) =
      (leaves field.2).map (under field.1) ++ leavesOfFields rest := rfl

theorem mem_leavesOfFields {entry : Path × Value} :
    entry ∈ leavesOfFields fields ↔
      ∃ field ∈ fields, ∃ inside ∈ leaves field.2, under field.1 inside = entry := by
  induction fields with
  | nil => simp [leavesOfFields]
  | cons field fields inductionHypothesis =>
      rw [leavesOfFields_cons, List.mem_append, List.mem_map, inductionHypothesis,
        List.exists_mem_cons_iff]

theorem path_ne_nil_of_mem_leavesOfFields {entry : Path × Value}
    (member : entry ∈ leavesOfFields fields) : entry.1 ≠ [] := by
  obtain ⟨field, _, inside, _, rfl⟩ := mem_leavesOfFields.mp member
  exact List.cons_ne_nil _ _

theorem path_ne_nil_of_mem_flatten {entry : Path × Value} (member : entry ∈ value.flatten) :
    entry.1 ≠ [] := by
  cases value with
  | object fields => exact path_ne_nil_of_mem_leavesOfFields member
  | _ => cases member

theorem cons_mem_leavesOfFields_iff :
    (key :: rest, leaf) ∈ leavesOfFields fields ↔
      ∃ held, (key, held) ∈ fields ∧ (rest, leaf) ∈ leaves held := by
  rw [mem_leavesOfFields]
  constructor
  · rintro ⟨⟨name, held⟩, isField, ⟨below, found⟩, isInside, same⟩
    cases same
    exact ⟨held, isField, isInside⟩
  · rintro ⟨held, isField, isInside⟩
    exact ⟨(key, held), isField, (rest, leaf), isInside, rfl⟩

theorem at?_cons_of_leaf (isLeaf : value.isObject = false) : value.at? (key :: rest) = none := by
  cases value with
  | object fields => cases isLeaf
  | _ => rfl

theorem at?_cons_eq_some (distinct : (Object.keys fields).Nodup) :
    (Value.object fields).at? (key :: rest) = some leaf ↔
      ∃ held, (key, held) ∈ fields ∧ held.at? rest = some leaf := by
  rw [at?_cons, Option.bind_eq_some_iff]
  exact exists_congr fun held => and_congr_left' (Object.find?_eq_some_iff distinct)

/-- The leaves of a value are all that stands at a path of keys and is no object. -/
theorem mem_leaves_iff (wellKeyed : value.WellKeyed) :
    (path, leaf) ∈ leaves value ↔ value.at? path = some leaf ∧ leaf.isObject = false := by
  induction value using fieldInduction generalizing path with
  | leaf value isLeaf =>
      rw [leaves_of_leaf isLeaf, List.mem_singleton, Prod.mk.injEq]
      cases path with
      | nil =>
          constructor
          · rintro ⟨-, rfl⟩
            exact ⟨rfl, isLeaf⟩
          · rintro ⟨isAt, -⟩
            exact ⟨rfl, (Option.some.inj isAt).symm⟩
      | cons key rest => simp [at?_cons_of_leaf isLeaf]
  | object fields inductionHypothesis =>
      obtain ⟨distinct, wellKeyedFields⟩ := wellKeyed
      have inside (field : String × Value) (isField : field ∈ fields) (rest : Path) :=
        @inductionHypothesis field isField rest
          (Object.wellKeyedFields_iff.mp wellKeyedFields field isField)
      rw [leaves]
      cases path with
      | nil =>
          constructor
          · intro member
            exact absurd rfl (path_ne_nil_of_mem_leavesOfFields member)
          · rintro ⟨isAt, isLeaf⟩
            cases isAt
            cases isLeaf
      | cons key rest =>
          rw [cons_mem_leavesOfFields_iff, at?_cons_eq_some distinct]
          constructor
          · rintro ⟨held, isField, isLeaf⟩
            obtain ⟨isAt, isLeaf⟩ := (inside _ isField rest).mp isLeaf
            exact ⟨⟨held, isField, isAt⟩, isLeaf⟩
          · rintro ⟨⟨held, isField, isAt⟩, isLeaf⟩
            exact ⟨held, isField, (inside _ isField rest).mpr ⟨isAt, isLeaf⟩⟩

/-- The flattened value has all that stands below it at a path of keys and is no object. -/
theorem mem_flatten_iff (wellKeyed : value.WellKeyed) :
    (path, leaf) ∈ value.flatten ↔
      path ≠ [] ∧ value.at? path = some leaf ∧ leaf.isObject = false := by
  cases isObject : value.isObject with
  | true =>
      cases value with
      | object fields =>
          have isLeaf : (path, leaf) ∈ leaves (.object fields) ↔
              (Value.object fields).at? path = some leaf ∧ leaf.isObject = false :=
            mem_leaves_iff wellKeyed
          rw [flatten, ← isLeaf, leaves, iff_and_self]
          exact path_ne_nil_of_mem_leavesOfFields
      | _ => cases isObject
  | false =>
      rw [flatten_of_leaf isObject]
      cases path with
      | nil => simp
      | cons key rest => simp [at?_cons_of_leaf isObject]

theorem at?_append (value : Value) (above below : Path) :
    value.at? (above ++ below) = (value.at? above).bind (·.at? below) := by
  induction above generalizing value with
  | nil => rfl
  | cons key rest inductionHypothesis =>
      simp only [List.cons_append, at?_cons, inductionHypothesis, Option.bind_assoc]

/-- A path that leads on from a leaf ends there. -/
theorem eq_nil_of_at?_leaf (isLeaf : held.isObject = false) (isAt : held.at? path = some leaf) :
    path = [] ∧ leaf = held := by
  cases path with
  | nil => exact ⟨rfl, (Option.some.inj isAt).symm⟩
  | cons key rest =>
      rw [at?_cons_of_leaf isLeaf] at isAt
      cases isAt

/-- Steps by keys are steps. -/
theorem follow?_of_at? (isAt : value.at? path = some leaf) : value.follow? path = some leaf := by
  induction path generalizing value with
  | nil => exact isAt
  | cons key rest inductionHypothesis =>
      obtain ⟨held, isHeld, inside⟩ := Option.bind_eq_some_iff.mp isAt
      cases value with
      | object fields => exact Option.bind_eq_some_iff.mpr ⟨held, isHeld, inductionHypothesis inside⟩
      | _ => cases isHeld

theorem WellKeyed.at? (wellKeyed : value.WellKeyed) (isAt : value.at? path = some held) :
    held.WellKeyed := by
  induction path generalizing value with
  | nil =>
      cases isAt
      exact wellKeyed
  | cons key rest inductionHypothesis =>
      obtain ⟨below, isBelow, inside⟩ := Option.bind_eq_some_iff.mp isAt
      cases value with
      | object fields =>
          exact inductionHypothesis
            (Object.wellKeyedFields_iff.mp wellKeyed.2 _ (Object.mem_of_find? isBelow)) inside
      | _ => cases isBelow

/-! ### The order of the leaves -/

/-- A path comes before another in a document: where they part, under one object, the key of the
first comes before the key of the second. -/
def Precedes (value : Value) (path other : Path) : Prop :=
  ∃ above fields key later rest otherRest,
    path = above ++ key :: rest ∧ other = above ++ later :: otherRest ∧
      value.at? above = some (.object fields) ∧ [key, later].Sublist (Object.keys fields)

theorem Precedes.under {other : Path} (precedes : held.Precedes path other)
    (found : Object.find? fields key = some held) :
    (Value.object fields).Precedes (key :: path) (key :: other) := by
  obtain ⟨above, inner, first, later, rest, otherRest, rfl, rfl, isAt, inOrder⟩ := precedes
  refine ⟨key :: above, inner, first, later, rest, otherRest, rfl, rfl, ?_, inOrder⟩
  exact Option.bind_eq_some_iff.mpr ⟨held, found, isAt⟩

/-- The leaves of fields come in the order of the object that ends in these fields. -/
private theorem leavesOfFields_ordered (distinct : (Object.keys fields).Nodup)
    (inside : ∀ field ∈ fields,
      (leaves field.2).Pairwise fun one other => field.2.Precedes one.1 other.1)
    (front back : Object) (isWhole : fields = front ++ back) :
    (leavesOfFields back).Pairwise fun one other =>
      (Value.object fields).Precedes one.1 other.1 := by
  induction back generalizing front with
  | nil => exact .nil
  | cons field back inductionHypothesis =>
      have member : field ∈ fields := isWhole ▸ List.mem_append_right _ List.mem_cons_self
      have found : Object.find? fields field.1 = some field.2 :=
        (Object.find?_eq_some_iff distinct).mpr member
      rw [leavesOfFields_cons, List.pairwise_append, List.pairwise_map]
      refine ⟨(inside field member).imp fun precedes => precedes.under found,
        inductionHypothesis (front ++ [field]) (by rw [isWhole, List.append_assoc]; rfl), ?_⟩
      -- Leaves of this field against leaves of a later one: the paths part at once.
      intro one isOne other isOther
      obtain ⟨first, _, rfl⟩ := List.mem_map.mp isOne
      obtain ⟨later, isLater, second, _, rfl⟩ := mem_leavesOfFields.mp isOther
      refine ⟨[], fields, field.1, later.1, first.1, second.1, rfl, rfl, rfl, ?_⟩
      have inBack : [later].Sublist back := List.singleton_sublist.mpr isLater
      have inFields : [field, later].Sublist fields :=
        isWhole ▸ (inBack.cons_cons field).trans (List.sublist_append_right front _)
      exact inFields.map Prod.fst

theorem leaves_ordered (wellKeyed : value.WellKeyed) :
    (leaves value).Pairwise fun one other => value.Precedes one.1 other.1 := by
  induction value using fieldInduction with
  | leaf value isLeaf =>
      rw [leaves_of_leaf isLeaf]
      exact List.pairwise_singleton _ _
  | object fields inductionHypothesis =>
      obtain ⟨distinct, wellKeyedFields⟩ := wellKeyed
      exact leavesOfFields_ordered distinct
        (fun field member => inductionHypothesis field member
          (Object.wellKeyedFields_iff.mp wellKeyedFields field member)) [] fields rfl

/-- The leaves come in the order of the document. -/
theorem flatten_ordered (wellKeyed : value.WellKeyed) :
    value.flatten.Pairwise fun one other => value.Precedes one.1 other.1 := by
  cases value with
  | object fields => exact leaves_ordered wellKeyed
  | _ => exact .nil

theorem Precedes.ne {other : Path} (precedes : value.Precedes path other)
    (wellKeyed : value.WellKeyed) : path ≠ other := by
  obtain ⟨above, fields, key, later, rest, otherRest, rfl, rfl, isAt, inOrder⟩ := precedes
  have distinct : [key, later].Nodup := (wellKeyed.at? isAt).1.sublist inOrder
  intro same
  have sameKey : key = later := (List.cons.inj (List.append_cancel_left same)).1
  simp [sameKey] at distinct

theorem nodup_paths_flatten (wellKeyed : value.WellKeyed) :
    (value.flatten.map Prod.fst).Nodup :=
  List.pairwise_map.mpr ((flatten_ordered wellKeyed).imp fun precedes => precedes.ne wellKeyed)

/-- No leaf stands on the way to another. -/
theorem eq_of_prefix_of_mem_flatten (wellKeyed : value.WellKeyed) {one other : Path × Value}
    (isOne : one ∈ value.flatten) (isOther : other ∈ value.flatten) (isPrefix : one.1 <+: other.1) :
    one = other := by
  obtain ⟨-, isAt, isLeaf⟩ := (mem_flatten_iff wellKeyed).mp isOne
  obtain ⟨-, isAtOther, -⟩ := (mem_flatten_iff wellKeyed).mp isOther
  obtain ⟨below, isWhole⟩ := isPrefix
  rw [← isWhole, at?_append, isAt, Option.bind_some] at isAtOther
  obtain ⟨rfl, same⟩ := eq_nil_of_at?_leaf isLeaf isAtOther
  exact Prod.ext (by rw [← isWhole, List.append_nil]) same.symm

/-! ### Values without empty objects -/

mutual

/-- Neither the value nor an object nested in it is an empty object.  Arrays are not entered. -/
def Populated : Value → Prop
  | .object fields => fields ≠ [] ∧ PopulatedFields fields
  | _ => True

/-- Every field's value is populated. -/
def PopulatedFields : List (String × Value) → Prop
  | [] => True
  | (_, value) :: rest => Populated value ∧ PopulatedFields rest

end

theorem populatedFields_iff : PopulatedFields fields ↔ ∀ field ∈ fields, field.2.Populated := by
  induction fields with
  | nil => simp [PopulatedFields]
  | cons field rest inductionHypothesis =>
      rw [PopulatedFields, inductionHypothesis, List.forall_mem_cons]

/-- A populated value has a leaf. -/
theorem leaves_ne_nil (populated : value.Populated) : leaves value ≠ [] := by
  induction value using fieldInduction with
  | leaf value isLeaf =>
      rw [leaves_of_leaf isLeaf]
      exact List.cons_ne_nil _ _
  | object fields inductionHypothesis =>
      obtain ⟨someFields, populatedFields⟩ := populated
      obtain ⟨field, back, rfl⟩ := List.exists_cons_of_ne_nil someFields
      have someLeaf := inductionHypothesis field List.mem_cons_self
        (populatedFields_iff.mp populatedFields field List.mem_cons_self)
      rw [leaves, leavesOfFields_cons]
      simp [someLeaf]

end Value

/-! ### Setting values at paths -/

namespace Object

/-- The fields of the object under a key; none if there is no object. -/
def inner (fields : Object) (key : String) : Object :=
  ((fields.find? key).bind Value.fields?).getD []

/-- Sets a value at a path, and objects above it where there are none. -/
def setAt (fields : Object) : Value.Path → Value → Object
  | [], _ => fields
  | [key], value => fields.insert key value
  | key :: next :: rest, value =>
      fields.insert key (.object (setAt (fields.inner key) (next :: rest) value))

/-- Sets values at paths in turn. -/
def setAll (fields : Object) (leaves : List (Value.Path × Value)) : Object :=
  leaves.foldl (fun built leaf => built.setAt leaf.1 leaf.2) fields

variable {built below : Object} {key : String} {path : Value.Path} {value : Value}
  {leaves : List (Value.Path × Value)}

theorem setAt_cons (somePath : path ≠ []) (value : Value) :
    built.setAt (key :: path) value =
      built.insert key (.object ((built.inner key).setAt path value)) := by
  obtain ⟨next, rest, rfl⟩ := List.exists_cons_of_ne_nil somePath
  rfl

/-- A path under a new key makes an object of its own. -/
theorem setAt_of_absent (absent : key ∉ keys built) (somePath : path ≠ []) (value : Value) :
    built.setAt (key :: path) value = built ++ [(key, .object (setAt [] path value))] := by
  have isNew : built.inner key = [] := by rw [inner, find?_eq_none_iff.mpr absent]; rfl
  rw [setAt_cons somePath, isNew, insert_of_absent absent]

/-- A path under the last key goes on in the object there. -/
theorem setAt_last (absent : key ∉ keys built) (somePath : path ≠ []) (value : Value) :
    setAt (built ++ [(key, .object below)]) (key :: path) value =
      built ++ [(key, .object (below.setAt path value))] := by
  have isInner : inner (built ++ [(key, .object below)]) key = below := by
    rw [inner, find?_append_of_absent absent, find?, if_pos rfl]
    rfl
  rw [setAt_cons somePath, isInner, insert_append_of_absent absent, insert, if_pos rfl]

theorem setAll_last (absent : key ∉ keys built) (somePaths : ∀ leaf ∈ leaves, leaf.1 ≠ []) :
    setAll (built ++ [(key, .object below)]) (leaves.map (Value.under key)) =
      built ++ [(key, .object (below.setAll leaves))] := by
  induction leaves generalizing below with
  | nil => rfl
  | cons leaf leaves inductionHypothesis =>
      obtain ⟨somePath, somePaths⟩ := List.forall_mem_cons.mp somePaths
      have isFirst : setAt (built ++ [(key, .object below)]) (key :: leaf.1) leaf.2 =
          built ++ [(key, .object (below.setAt leaf.1 leaf.2))] :=
        setAt_last absent somePath leaf.2
      exact (congrArg (setAll · (leaves.map (Value.under key))) isFirst).trans
        (inductionHypothesis somePaths)

/-- Leaves under a new key make an object of their own. -/
theorem setAll_of_absent (absent : key ∉ keys built) (someLeaves : leaves ≠ [])
    (somePaths : ∀ leaf ∈ leaves, leaf.1 ≠ []) :
    built.setAll (leaves.map (Value.under key)) = built ++ [(key, .object (setAll [] leaves))] := by
  obtain ⟨leaf, others, rfl⟩ := List.exists_cons_of_ne_nil someLeaves
  obtain ⟨somePath, someOthers⟩ := List.forall_mem_cons.mp somePaths
  have isFirst := setAt_of_absent absent somePath leaf.2
  exact (congrArg (setAll · (others.map (Value.under key))) isFirst).trans
    (setAll_last absent someOthers)

/-- Fields whose leaves build them one by one are built by all their leaves in turn. -/
private theorem setAll_leavesOfFields {fields : Object}
    (builds : ∀ field ∈ fields, ∀ built : Object, field.1 ∉ keys built →
      built.setAll ((Value.leaves field.2).map (Value.under field.1)) = built ++ [field])
    (built : Object) (distinct : (keys (built ++ fields)).Nodup) :
    built.setAll (Value.leavesOfFields fields) = built ++ fields := by
  induction fields generalizing built with
  | nil => rw [List.append_nil]; rfl
  | cons field rest inductionHypothesis =>
      obtain ⟨buildsFirst, buildsRest⟩ := List.forall_mem_cons.mp builds
      have isNew : field.1 ∉ keys built := by
        rw [keys, List.map_append, List.nodup_append] at distinct
        intro member
        exact distinct.2.2 _ member _ List.mem_cons_self rfl
      have isWhole : built ++ field :: rest = built ++ [field] ++ rest := by
        rw [List.append_assoc]
        rfl
      rw [Value.leavesOfFields_cons, setAll, List.foldl_append]
      show setAll (setAll built _) (Value.leavesOfFields rest) = _
      rw [buildsFirst built isNew, isWhole,
        inductionHypothesis buildsRest _ (isWhole ▸ distinct)]

/-- The leaves of a populated value, set under a new key, build the value there. -/
theorem setAll_leaves (wellKeyed : value.WellKeyed) (populated : value.Populated) (built : Object)
    (key : String) (absent : key ∉ keys built) :
    built.setAll ((Value.leaves value).map (Value.under key)) = built ++ [(key, value)] := by
  induction value using Value.fieldInduction generalizing built key with
  | leaf value isLeaf =>
      rw [Value.leaves_of_leaf isLeaf]
      exact insert_of_absent absent
  | object fields inductionHypothesis =>
      have someLeaves := Value.leaves_ne_nil populated
      obtain ⟨distinct, wellKeyedFields⟩ := wellKeyed
      obtain ⟨_, populatedFields⟩ := populated
      have builds := setAll_leavesOfFields
        (fun field member inside => inductionHypothesis field member
          (wellKeyedFields_iff.mp wellKeyedFields field member)
          (Value.populatedFields_iff.mp populatedFields field member) inside field.1) [] distinct
      rw [Value.leaves] at someLeaves ⊢
      rw [setAll_of_absent absent someLeaves
        fun leaf => Value.path_ne_nil_of_mem_leavesOfFields, builds, List.nil_append]

/-- Setting the leaves of an object at their paths in turn builds the object again, with its keys
in their order. -/
theorem setAll_flatten {fields : Object} (wellKeyed : (Value.object fields).WellKeyed)
    (populated : Value.PopulatedFields fields) :
    setAll [] (Value.object fields).flatten = fields :=
  setAll_leavesOfFields
    (fun field member built => setAll_leaves (wellKeyedFields_iff.mp wellKeyed.2 field member)
      (Value.populatedFields_iff.mp populated field member) built field.1) [] wellKeyed.1

end Object

end ContentGraph.Json
