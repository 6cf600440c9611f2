import ContentGraph.Filter.Selection

/-!
Contract: which paths a selection holds.

Owns:
- `Selection.at?`, the selection below a path;
- `isSome_at?_ofManifest`: the selection of a filter holds the paths of its comparators and the
  reference field, with all paths above these, and no other;
- `isLeaf_at?`: nothing is selected below a path that no selected path goes on from;
- `Selection.under`, what is selected below a path, and that manifests which end there add nothing.
-/

namespace ContentGraph.Filter.Selection

variable {selection below : Selection} {path query : List String} {name other : String}

/-- The selection below a path, if the path is selected. -/
def at? (selection : Selection) : List String -> Option Selection
  | [] => some selection
  | name :: rest => (selection.fields.lookup name).bind (·.at? rest)

theorem at?_cons_eq_some {rest : List String} :
    selection.at? (name :: rest) = some below ↔
      ∃ inside, selection.fields.lookup name = some inside ∧ inside.at? rest = some below := by
  rw [at?, Option.bind_eq_some_iff]

theorem isSome_head?_of_lookup (isSelected : selection.fields.lookup name = some below) :
    (selection.fields.head?.map Prod.fst).isSome = true := by
  cases listed : selection.fields with
  | nil => simp [listed] at isSelected
  | cons first rest => rfl

theorem isLeaf_of_lookup (isSelected : selection.fields.lookup name = some below) :
    selection.isLeaf = false := by
  cases listed : selection.fields with
  | nil => simp [listed] at isSelected
  | cons first rest => simp [isLeaf, listed]

theorem at?_append (first second : List String) :
    selection.at? (first ++ second) = (selection.at? first).bind (·.at? second) := by
  induction first generalizing selection with
  | nil => rfl
  | cons name rest inductionHypothesis =>
      rw [List.cons_append, at?, at?, Option.bind_assoc]
      congr 1
      funext below
      exact inductionHypothesis

private theorem lookup_set (fields : List (String × Selection)) :
    (set name below fields).lookup other =
      if other = name then some below else fields.lookup other := by
  induction fields with
  | nil =>
      by_cases same : other = name
      · simp [set, same]
      · have differ : (other == name) = false := by simpa using same
        simp [set, List.lookup_cons, same, differ]
  | cons field rest inductionHypothesis =>
      obtain ⟨first, old⟩ := field
      by_cases isFirst : first = name
      · subst isFirst
        by_cases same : other = first
        · simp [set, same]
        · have differ : (other == first) = false := by simpa using same
          simp [set, List.lookup_cons, same, differ]
      · by_cases same : other = first
        · subst same
          simp [set, isFirst]
        · have differ : (other == first) = false := by simpa using same
          simp [set, List.lookup_cons, isFirst, differ, inductionHypothesis]

private theorem isSome_at?_empty : (empty.at? query).isSome = true ↔ query = [] := by
  cases query with
  | nil => simp [at?]
  | cons name rest => simp [at?, empty, fields]

/-- A path is held after an insertion when it was held before, or lies on the inserted one. -/
theorem isSome_at?_insert :
    ((selection.insert path).at? query).isSome = true ↔
      (selection.at? query).isSome = true ∨ query <+: path := by
  induction path generalizing selection query with
  | nil => cases query <;> simp [insert, at?]
  | cons name rest inductionHypothesis =>
      cases query with
      | nil => simp [at?]
      | cons step others =>
          have inserted : (selection.insert (name :: rest)).at? (step :: others) =
              (if step = name then some ((selection.child name).insert rest)
                else selection.fields.lookup step).bind (·.at? others) := by
            rw [insert, at?, fields, lookup_set]
          rw [inserted, List.cons_prefix_cons]
          by_cases same : step = name
          · subst same
            rw [if_pos rfl, Option.bind_some, inductionHypothesis, at?, child]
            cases held : selection.fields.lookup step with
            | some below => simp
            | none =>
                have onlyTop : (empty.at? others).isSome = true ↔ others = [] := isSome_at?_empty
                simp only [Option.getD_none, onlyTop, Option.bind_none, Option.isSome_none,
                  true_and]
                constructor
                · rintro (rfl | isPrefix)
                  · exact .inr List.nil_prefix
                  · exact .inr isPrefix
                · rintro (impossible | isPrefix)
                  · cases impossible
                  · exact .inr isPrefix
          · rw [if_neg same, at?]
            simp [same]

/-- Adds the fields along the paths of a manifest. -/
def insertAll (selection : Selection) (manifest : Manifest) : Selection :=
  manifest.foldl (fun selection entry => selection.insert entry.path) selection

theorem insertAll_cons {entry : Entry} {rest : Manifest} :
    selection.insertAll (entry :: rest) = (selection.insert entry.path).insertAll rest :=
  List.foldl_cons ..

private theorem isSome_at?_insertAll (manifest : Manifest) :
    ((selection.insertAll manifest).at? query).isSome = true ↔
      (selection.at? query).isSome = true ∨ ∃ entry ∈ manifest, query <+: entry.path := by
  induction manifest generalizing selection with
  | nil => simp [insertAll]
  | cons entry rest inductionHypothesis =>
      rw [insertAll_cons, inductionHypothesis, isSome_at?_insert, or_assoc]
      simp

/-- The selection of a filter holds the paths of its comparators and the reference field, with the
paths above these. -/
theorem isSome_at?_ofManifest {manifest : Manifest} {referenceField : String} :
    ((ofManifest manifest referenceField).at? query).isSome = true ↔
      query <+: [referenceField] ∨ ∃ entry ∈ manifest, query <+: entry.path := by
  rw [show ofManifest manifest referenceField = (empty.insert [referenceField]).insertAll manifest
    from rfl, isSome_at?_insertAll, isSome_at?_insert, isSome_at?_empty]
  constructor
  · rintro ((rfl | isReference) | isPath)
    · exact .inl List.nil_prefix
    · exact .inl isReference
    · exact .inr isPath
  · rintro (isReference | isPath)
    · exact .inl (.inr isReference)
    · exact .inr isPath

/-- Nothing is selected below a path that no longer path is held of. -/
theorem isLeaf_at? (found : selection.at? path = some below)
    (ends : ∀ step, (selection.at? (path ++ [step])).isSome = false) : below.isLeaf = true := by
  obtain ⟨fields⟩ := below
  cases fields with
  | nil => rfl
  | cons field rest =>
      obtain ⟨step, inside⟩ := field
      have held := ends step
      rw [at?_append, found] at held
      simp [at?, fields] at held

/-! ### What is selected below a path -/

/-- What is selected below a path; nothing where the path is not selected. -/
def under (selection : Selection) (path : List String) : Selection :=
  (selection.at? path).getD empty

theorem under_of_at? (found : selection.at? path = some below) : selection.under path = below := by
  rw [under, found, Option.getD_some]

theorem under_empty : empty.under path = empty := by
  cases path <;> rfl

theorem under_cons (rest : List String) :
    selection.under (name :: rest) = (selection.child name).under rest := by
  rw [under, at?, child]
  cases selection.fields.lookup name with
  | none => exact under_empty.symm
  | some below => rfl

theorem child_insert (rest : List String) :
    (selection.insert (name :: rest)).child other =
      if other = name then (selection.child name).insert rest else selection.child other := by
  rw [child, insert, fields, lookup_set]
  split
  · rfl
  · rfl

/-- An insertion adds to what is selected below a path what it goes on with from there. -/
theorem under_insert : (selection.insert path).under query =
    if query <+: path then (selection.under query).insert (path.drop query.length)
    else selection.under query := by
  induction query generalizing selection path with
  | nil => simp [under, at?]
  | cons step rest inductionHypothesis =>
      cases path with
      | nil => simp [insert]
      | cons name others =>
          rw [under_cons, under_cons, child_insert]
          by_cases same : step = name
          · subst same
            simp only [if_true, inductionHypothesis, List.cons_prefix_cons, true_and,
              List.length_cons, List.drop_succ_cons]
          · simp only [same, if_false, List.cons_prefix_cons, false_and]

theorem ofManifest_append (first second : Manifest) (referenceField : String) :
    ofManifest (first ++ second) referenceField =
      (ofManifest first referenceField).insertAll second :=
  List.foldl_append

/-- A manifest whose paths do not go on from a path adds nothing below it. -/
theorem under_insertAll {manifest : Manifest}
    (ends : ∀ entry ∈ manifest, query <+: entry.path -> entry.path = query) :
    (selection.insertAll manifest).under query = selection.under query := by
  induction manifest generalizing selection with
  | nil => rfl
  | cons entry rest inductionHypothesis =>
      obtain ⟨endsHere, endsThere⟩ := List.forall_mem_cons.mp ends
      rw [insertAll_cons, inductionHypothesis endsThere, under_insert]
      split
      · next isPrefix => rw [endsHere isPrefix, List.drop_length, insert]
      · rfl

/-- What a manifest adds below a path depends on nothing but what is selected there. -/
theorem under_insertAll_congr {left right : Selection}
    (same : left.under query = right.under query) (manifest : Manifest) :
    (left.insertAll manifest).under query = (right.insertAll manifest).under query := by
  induction manifest generalizing left right with
  | nil => exact same
  | cons entry rest inductionHypothesis =>
      refine inductionHypothesis ?_
      rw [under_insert, under_insert, same]

end ContentGraph.Filter.Selection
