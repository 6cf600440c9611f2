import ContentGraph.Filter.Manifest
import ContentGraph.Proofs.Json.Flatten

/-!
Contract: the entries of a filter against its leaves.

Owns:
- `map_leaf_manifest`: a manifest has one entry for each leaf of the filter, in order;
- `flatten_lossless`, what flattening keeps of a value, and that a manifest determines its filter.

Does not own: what the entries test (`Filter.Comparator`).
-/

namespace ContentGraph.Filter

open ContentGraph.Json

/-- The leaf that an entry was made of. -/
def Entry.leaf (entry : Entry) : Value.Path × Value :=
  (entry.path ++ [entry.operation], entry.value)

theorem Entry.exists_ofLeaf? {leaf : Value.Path × Value} (somePath : leaf.1 ≠ []) :
    ∃ entry, Entry.ofLeaf? leaf = some entry ∧ entry.leaf = leaf := by
  obtain ⟨path, value⟩ := leaf
  obtain ⟨front, operation, rfl⟩ := List.eq_nil_or_concat path |>.resolve_left somePath
  refine ⟨⟨front, operation, value⟩, ?_, ?_⟩
  · simp [Entry.ofLeaf?]
  · simp [Entry.leaf]

/-- A manifest has one entry for each leaf of the filter, in order. -/
theorem map_leaf_manifest (filter : Value) : (manifest filter).map Entry.leaf = filter.flatten := by
  have entries (leaves : List (Value.Path × Value)) (somePaths : ∀ leaf ∈ leaves, leaf.1 ≠ []) :
      (leaves.filterMap Entry.ofLeaf?).map Entry.leaf = leaves := by
    induction leaves with
    | nil => rfl
    | cons leaf rest inductionHypothesis =>
        obtain ⟨somePath, somePathsRest⟩ := List.forall_mem_cons.mp somePaths
        obtain ⟨entry, isEntry, isLeaf⟩ := Entry.exists_ofLeaf? somePath
        rw [List.filterMap_cons_some isEntry, List.map_cons, isLeaf,
          inductionHypothesis somePathsRest]
  exact entries filter.flatten fun leaf => Value.path_ne_nil_of_mem_flatten

/-- Filters without empty objects inside are told apart by their manifests. -/
theorem manifest_injective {one other : Object} (wellKeyed : (Value.object one).WellKeyed)
    (wellKeyedOther : (Value.object other).WellKeyed) (populated : Value.PopulatedFields one)
    (populatedOther : Value.PopulatedFields other)
    (same : manifest (.object one) = manifest (.object other)) : one = other := by
  have sameLeaves : (Value.object one).flatten = (Value.object other).flatten := by
    rw [← map_leaf_manifest, same, map_leaf_manifest]
  rw [← Object.setAll_flatten wellKeyed populated, sameLeaves,
    Object.setAll_flatten wellKeyedOther populatedOther]

/-- Flattening loses nothing and keeps the order.  A flattened value has, at paths that are not
empty and of which none leads on to another, all that stands below it and is no object, in the order
of the document.  An object in which no empty object is nested is built from its leaves again.  So a
manifest has one entry for each leaf of its filter and determines the filter. -/
theorem flatten_lossless :
    (∀ value : Value, value.WellKeyed →
      (value.flatten.map Prod.fst).Nodup ∧
        (∀ path leaf, (path, leaf) ∈ value.flatten ↔
          path ≠ [] ∧ value.at? path = some leaf ∧ leaf.isObject = false) ∧
        (∀ path leaf, (path, leaf) ∈ value.flatten → value.follow? path = some leaf) ∧
        (∀ one ∈ value.flatten, ∀ other ∈ value.flatten, one.1 <+: other.1 → one = other) ∧
        value.flatten.Pairwise fun one other => value.Precedes one.1 other.1) ∧
      (∀ fields : Object, (Value.object fields).WellKeyed → Value.PopulatedFields fields →
        Object.setAll [] (Value.object fields).flatten = fields) ∧
      (∀ filter : Value, (manifest filter).map Entry.leaf = filter.flatten) ∧
      ∀ one other : Object, (Value.object one).WellKeyed → (Value.object other).WellKeyed →
        Value.PopulatedFields one → Value.PopulatedFields other →
        manifest (.object one) = manifest (.object other) → one = other := by
  refine ⟨fun value wellKeyed => ⟨Value.nodup_paths_flatten wellKeyed, fun path leaf =>
      Value.mem_flatten_iff wellKeyed, fun path leaf member => ?_, fun one isOne other isOther =>
      Value.eq_of_prefix_of_mem_flatten wellKeyed isOne isOther,
      Value.flatten_ordered wellKeyed⟩,
    fun fields => Object.setAll_flatten, map_leaf_manifest,
    fun one other => manifest_injective⟩
  obtain ⟨-, isAt, -⟩ := (Value.mem_flatten_iff wellKeyed).mp member
  exact Value.follow?_of_at? isAt

/-- A filter with fields inside fields, a null and a list of which one item is an empty object. -/
def sampleFilter : Object :=
  [("meta", .object [("size", .object [("gte", .ofInt 5), ("ne", .null)])]),
    ("tags", .object [("in", .array [.string "x", .object []])]), ("eq", .string "a")]

/-- The filter is built from its leaves again, and in another order it has another manifest. -/
theorem flatten_lossless_sampleFilter :
    (Value.object sampleFilter).WellKeyed ∧ Value.PopulatedFields sampleFilter ∧
      (Value.object sampleFilter).follow? ["meta", "size", "ne"] = some .null ∧
      (Value.object sampleFilter).Precedes ["meta", "size", "gte"] ["meta", "size", "ne"] ∧
      Object.setAll []
        [(["meta", "size", "gte"], .ofInt 5), (["meta", "size", "ne"], .null),
          (["tags", "in"], .array [.string "x", .object []]), (["eq"], .string "a")] =
        sampleFilter ∧
      (manifest (.object sampleFilter)).map Entry.leaf = (Value.object sampleFilter).flatten ∧
      sampleFilter = Object.insertAll [] sampleFilter ∧
      manifest (.object sampleFilter) ≠ manifest (.object sampleFilter.reverse) := by
  have wellKeyed : (Value.object sampleFilter).WellKeyed := by
    simp [sampleFilter, Value.WellKeyed, Value.WellKeyedFields, Value.WellKeyedItems, Value.ofInt]
  have populated : Value.PopulatedFields sampleFilter := by
    simp [sampleFilter, Value.PopulatedFields, Value.Populated, Value.ofInt]
  have wellKeyedReverse : (Value.object sampleFilter.reverse).WellKeyed := by
    simp [sampleFilter, Value.WellKeyed, Value.WellKeyedFields, Value.WellKeyedItems, Value.ofInt]
  have populatedReverse : Value.PopulatedFields sampleFilter.reverse := by
    simp [sampleFilter, Value.PopulatedFields, Value.Populated, Value.ofInt]
  obtain ⟨leaves, builds, entries, determines⟩ := flatten_lossless
  obtain ⟨-, -, follows, -, ordered⟩ := leaves (.object sampleFilter) wellKeyed
  refine ⟨wellKeyed, populated, follows _ _ ?_, ?_, builds sampleFilter wellKeyed populated,
    entries _, determines _ _ wellKeyed wellKeyed populated populated rfl, fun same => ?_⟩
  · exact List.mem_cons_of_mem _ List.mem_cons_self
  · exact (List.pairwise_cons.mp ordered).1 (["meta", "size", "ne"], .null) List.mem_cons_self
  · have turned := determines _ _ wellKeyed wellKeyedReverse populated populatedReverse same
    exact absurd turned (by decide)

end ContentGraph.Filter
