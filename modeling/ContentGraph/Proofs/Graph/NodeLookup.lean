import ContentGraph.Graph.Mutation
import Mathlib.Data.List.Basic

/-!
Contract: nodes, their places and their reference values.

Owns:
- the nodes of every collection after the nodes of one collection were set;
- `Placed`, the two ways in which a record comes among the nodes of a collection;
- the first node of every reference value, and the reference values in order, after a record was
  put in the place of the first node of its reference value or at the end.
-/

namespace ContentGraph

open ContentGraph.Json

/-! ### Collections of a store -/

theorem Store.nodes_setNodes (store : Store) (name other : String) (nodes : List Value) :
    (store.setNodes name nodes).nodes other =
      if other = name then nodes else store.nodes other := by
  induction store with
  | nil => simp [Store.setNodes, Store.nodes, eq_comm]
  | cons group rest inductionHypothesis =>
      obtain ⟨held, old⟩ := group
      by_cases isSet : held = name
      · by_cases isOther : other = name
        · simp [Store.setNodes, Store.nodes, isSet, isOther]
        · have passed : name ≠ other := fun equal => isOther equal.symm
          simp [Store.setNodes, Store.nodes, isSet, isOther, passed]
      · by_cases isHeld : held = other
        · have passed : other ≠ name := fun equal => isSet (isHeld.trans equal)
          simp [Store.setNodes, Store.nodes, isHeld, passed]
        · simp [Store.setNodes, Store.nodes, isSet, isHeld, inductionHypothesis]

/-- The collection that is found under a name has that name. -/
theorem Graph.name_of_collection {graph : Graph} {name : String} {collection : Collection}
    (known : graph.collection name = .ok collection) : collection.name = name := by
  unfold Graph.collection Graph.collection? at known
  split at known
  · next found =>
      cases known
      simpa using List.find?_some found
  · cases known

/-- The collection that is found under a name is one of the graph. -/
theorem Graph.mem_of_collection {graph : Graph} {name : String} {collection : Collection}
    (known : graph.collection name = .ok collection) : collection ∈ graph.collections := by
  unfold Graph.collection Graph.collection? at known
  split at known
  · next found =>
      cases known
      exact List.mem_of_find?_eq_some found
  · cases known

theorem Graph.findByReference_of_known {graph : Graph} {name : String} {collection : Collection}
    (known : graph.collection name = .ok collection) (key : String) :
    graph.findByReference name key =
      .ok ((graph.nodes name).find? (collection.hasKey key)) := by
  simp [Graph.findByReference, known]

/-! ### Places -/

/-- A record comes among the nodes of a collection at the end, or in the place of one node. -/
inductive Placed (record : Value) : List Value -> List Value -> Prop where
  | appended (nodes : List Value) : Placed record nodes (nodes ++ [record])
  | replaced (before : List Value) (old : Value) (after : List Value) :
      Placed record (before ++ old :: after) (before ++ record :: after)

namespace Collection

variable {collection : Collection} {key : String} {nodes : List Value}

/-- Nodes split at the first one of a reference value. -/
theorem split_of_held (held : nodes.any (collection.hasKey key) = true) :
    ∃ before old after, nodes = before ++ old :: after ∧
      collection.keyOf? old = some key ∧
      (∀ node ∈ before, collection.hasKey key node = false) ∧
      ∀ record, collection.replaceKey key record nodes = before ++ record :: after := by
  induction nodes with
  | nil => simp at held
  | cons node rest inductionHypothesis =>
      by_cases first : collection.hasKey key node = true
      · refine ⟨[], node, rest, rfl, by simpa [hasKey] using first, by simp, ?_⟩
        intro record
        simp [replaceKey, first]
      · have heldRest : rest.any (collection.hasKey key) = true := by
          simpa [first] using held
        obtain ⟨before, old, after, split, keyOld, free, replaced⟩ := inductionHypothesis heldRest
        refine ⟨node :: before, old, after, by simp [split], keyOld, ?_, ?_⟩
        · intro other member
          rcases List.mem_cons.mp member with rfl | inRest
          · simpa using first
          · exact free other inRest
        · intro record
          simp [replaceKey, first, replaced record]

theorem placed_replaceKey (record : Value) (held : nodes.any (collection.hasKey key) = true) :
    Placed record nodes (collection.replaceKey key record nodes) := by
  obtain ⟨before, old, after, rfl, _, _, replaced⟩ := split_of_held held
  rw [replaced record]
  exact .replaced before old after

/-! ### The first node of a reference value -/

theorem find?_append_free {record : Value} (named : collection.keyOf? record = some key)
    (free : nodes.any (collection.hasKey key) = false) (other : String) :
    (nodes ++ [record]).find? (collection.hasKey other) =
      if other = key then some record else nodes.find? (collection.hasKey other) := by
  rw [List.find?_append]
  split
  · next isKey =>
      subst isKey
      have absent : nodes.find? (collection.hasKey other) = none := by
        rw [List.find?_eq_none]
        simpa using free
      simp [absent, hasKey, named]
  · next notKey =>
      have passed : collection.hasKey other record = false := by
        simp [hasKey, named, Ne.symm notKey]
      simp [passed]

theorem find?_replaceKey {record : Value} (named : collection.keyOf? record = some key)
    (held : nodes.any (collection.hasKey key) = true) (other : String) :
    (collection.replaceKey key record nodes).find? (collection.hasKey other) =
      if other = key then some record else nodes.find? (collection.hasKey other) := by
  obtain ⟨before, old, after, rfl, keyOld, free, replaced⟩ := split_of_held held
  rw [replaced record, List.find?_append, List.find?_append]
  split
  · next isKey =>
      subst isKey
      have absent : before.find? (collection.hasKey other) = none := by
        rw [List.find?_eq_none]
        intro node member
        simp [free node member]
      simp [absent, hasKey, named]
  · next notKey =>
      have passedRecord : collection.hasKey other record = false := by
        simp [hasKey, named, Ne.symm notKey]
      have passedOld : collection.hasKey other old = false := by
        simp [hasKey, keyOld, Ne.symm notKey]
      simp [passedRecord, passedOld]

/-! ### Reference values in order -/

/-- Replacing the first node of a reference value by a record of that value moves no reference
value. -/
theorem map_keyOf?_replaceKey {record : Value} (named : collection.keyOf? record = some key)
    (held : nodes.any (collection.hasKey key) = true) :
    (collection.replaceKey key record nodes).map collection.keyOf? =
      nodes.map collection.keyOf? := by
  obtain ⟨before, old, after, rfl, keyOld, _, replaced⟩ := split_of_held held
  simp [replaced record, named, keyOld]

end Collection

end ContentGraph
