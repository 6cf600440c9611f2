import ContentGraph.Content.Transformer
import ContentGraph.Proofs.Shape.CompiledOverrides

/-!
Contract: what is left of each computed field when trees of them are merged.

Owns:
- `ResolverTree.WellKeyed`, trees in which no object holds a key twice;
- `JoinsAbove`, two trees that are united all the way down to a path, and `Spares`, a tree that
  leaves a path of another alone;
- what is found at a path of two merged trees, in three cases;
- `merged_resolvers`: which computed fields two merged trees have, and which the transformers of a
  registry have together.

Does not own: what becomes of them among observed fields (`Proofs.Shape.OverriddenFields`).
-/

namespace ContentGraph

mutual

/-- No object of a node holds a key twice. -/
def ResolverNode.WellKeyed : ResolverNode -> Prop
  | .resolver _ => True
  | .object fields => (fields.map Prod.fst).Nodup ∧ ResolverNode.WellKeyedFields fields
  | .list element => element.WellKeyed

/-- No object inside of fields holds a key twice. -/
def ResolverNode.WellKeyedFields : List (String × ResolverNode) -> Prop
  | [] => True
  | (_, node) :: rest => node.WellKeyed ∧ ResolverNode.WellKeyedFields rest

end

/-- The fields that further keys lead to: those of an object, or of the objects of a list. -/
def ResolverNode.fieldsBelow? : ResolverNode -> Option ResolverTree
  | .object fields => some fields
  | .list (.object fields) => some fields
  | _ => none

namespace ResolverTree

variable {mine theirs tree : ResolverTree} {path upper : List String} {key : String}
  {node : ResolverNode} {resolver : Resolver}

/-- No object of a tree holds a key twice. -/
def WellKeyed (tree : ResolverTree) : Prop :=
  (ResolverNode.object tree).WellKeyed

theorem WellKeyed.of_node? (wellKeyed : tree.WellKeyed) (found : tree.node? key = some node) :
    node.WellKeyed := by
  obtain ⟨-, wellKeyedFields⟩ := wellKeyed
  induction tree with
  | nil => cases found
  | cons field rest inductionHypothesis =>
      obtain ⟨name, held⟩ := field
      obtain ⟨wellKeyedHeld, wellKeyedRest⟩ := wellKeyedFields
      rw [node?] at found
      split at found
      · exact Option.some.inj found ▸ wellKeyedHeld
      · exact inductionHypothesis found wellKeyedRest

theorem node?_eq_none_of_not_mem (absent : key ∉ tree.map Prod.fst) : tree.node? key = none := by
  induction tree with
  | nil => rfl
  | cons field rest inductionHypothesis =>
      obtain ⟨isOther, absentRest⟩ := List.ne_and_not_mem_of_not_mem_cons absent
      rw [node?, if_neg isOther.symm, inductionHypothesis absentRest]

/-! ### Lookup, one key at a time -/

@[simp] theorem get?_single : tree.get? [key] = tree.node? key :=
  rfl

theorem get?_further (key next : String) (rest : List String) :
    tree.get? (key :: next :: rest) =
      ((tree.node? key).bind ResolverNode.fieldsBelow?).bind fun fields =>
        fields.get? (next :: rest) := by
  rw [get?]
  · cases tree.node? key with
    | none => rfl
    | some node =>
        cases node with
        | list element => cases element <;> rfl
        | _ => rfl
  · exact List.cons_ne_nil _ _

theorem get?_nil (path : List String) : get? [] path = none := by
  rcases path with _ | ⟨key, _ | ⟨next, rest⟩⟩
  · rfl
  · rfl
  · rw [get?_further]
    rfl

/-- What is under a key of two merged trees. -/
theorem node?_merge (mine : ResolverTree) (key : String)
    (distinct : (theirs.map Prod.fst).Nodup) :
    (merge mine theirs).node? key =
      match theirs.node? key with
      | some node => some (mergeNode (mine.node? key) node)
      | none => mine.node? key := by
  induction theirs generalizing mine with
  | nil => rfl
  | cons field rest inductionHypothesis =>
      obtain ⟨name, node⟩ := field
      obtain ⟨isNew, distinctRest⟩ := List.nodup_cons.mp distinct
      rw [merge, inductionHypothesis _ distinctRest, node?_setNode, node?]
      by_cases same : name = key
      · subst same
        rw [node?_eq_none_of_not_mem isNew, if_pos rfl, if_pos rfl]
      · rw [if_neg same, if_neg (Ne.symm same)]

/-! ### Paths on which two trees meet -/

/-- An object stands at the path. -/
def ObjectAt (tree : ResolverTree) (path : List String) : Prop :=
  ∃ fields, tree.get? path = some (.object fields)

/-- Wherever the second tree has a node above the path, both trees have an object there. -/
def JoinsAbove (theirs mine : ResolverTree) (path : List String) : Prop :=
  ∀ upper, upper <+: path -> upper ≠ path -> (theirs.get? upper).isSome = true ->
    theirs.ObjectAt upper ∧ mine.ObjectAt upper

/-- A tree leaves a path of another alone: it has no node there, and where it has one above, both
have an object. -/
structure Spares (theirs mine : ResolverTree) (path : List String) : Prop where
  free : theirs.get? path = none
  joined : JoinsAbove theirs mine path

theorem JoinsAbove.of_prefix (joined : JoinsAbove theirs mine path) (isAbove : upper <+: path) :
    JoinsAbove theirs mine upper := by
  intro top isTop proper
  refine joined top (isTop.trans isAbove) ?_
  rintro rfl
  exact proper (isTop.eq_of_length_le isAbove.length_le)

theorem joinsAbove_single : JoinsAbove theirs mine [key] := by
  intro upper isAbove proper found
  cases upper with
  | nil => cases found
  | cons first rest =>
      obtain ⟨rfl, isEnd⟩ := List.cons_prefix_cons.mp isAbove
      exact absurd (by rw [List.prefix_nil.mp isEnd]) proper

/-- Trees that meet above a longer path have nothing or two objects under its first key, and these
meet above the rest. -/
theorem joinsAbove_further_iff {next : String} {rest : List String} :
    JoinsAbove theirs mine (key :: next :: rest) ↔
      theirs.node? key = none ∨
        ∃ inner own, theirs.node? key = some (.object inner) ∧
          mine.node? key = some (.object own) ∧ JoinsAbove inner own (next :: rest) := by
  constructor
  · intro joined
    cases under : theirs.node? key with
    | none => exact .inl rfl
    | some node =>
        obtain ⟨⟨inner, isInner⟩, own, isOwn⟩ := joined [key]
          (List.cons_prefix_cons.mpr ⟨rfl, List.nil_prefix⟩) (by simp) (by simp [under])
        simp only [get?_single] at isInner isOwn
        refine .inr ⟨inner, own, under.symm.trans isInner, isOwn, ?_⟩
        intro upper isAbove proper found
        cases upper with
        | nil => cases found
        | cons first others =>
            have both := joined (key :: first :: others) (List.cons_prefix_cons.mpr ⟨rfl, isAbove⟩)
              (fun same => proper (List.cons.inj same).2)
            simpa [ObjectAt, get?_further, isInner, isOwn, ResolverNode.fieldsBelow?, found]
              using both
  · rintro joined upper isAbove proper found
    cases upper with
    | nil => cases found
    | cons first others =>
        obtain ⟨rfl, isAboveRest⟩ := List.cons_prefix_cons.mp isAbove
        rcases joined with absent | ⟨inner, own, isInner, isOwn, joinedRest⟩
        · cases others <;> simp [get?_further, absent] at found
        · cases others with
          | nil => exact ⟨⟨inner, isInner⟩, own, isOwn⟩
          | cons second others =>
              have both := joinedRest (second :: others) isAboveRest
                (fun same => proper (by rw [same]))
              simp only [ObjectAt, get?_further, isInner, isOwn, ResolverNode.fieldsBelow?,
                Option.bind_some] at found both ⊢
              exact both found

/-! ### Two merged trees -/

/-- Only two objects are united; otherwise the new node stands as it is. -/
theorem mergeNode_of_apart {existing : Option ResolverNode}
    (apart : ¬ ∃ own inner, existing = some (.object own) ∧ node = .object inner) :
    mergeNode existing node = node := by
  cases node with
  | object inner =>
      rw [mergeNode]
      exact fun own isOwn => apart ⟨own, inner, isOwn, rfl⟩
  | resolver _ => rw [mergeNode]
  | list _ => rw [mergeNode]

theorem mergeNode_none (node : ResolverNode) : mergeNode none node = node :=
  mergeNode_of_apart (by simp)

/-- Laying a node over another makes it no object that it is not, and no computed field. -/
theorem mergeNode_cases (existing : Option ResolverNode) (node : ResolverNode) :
    mergeNode existing node = node ∨
      ∃ fields inner, mergeNode existing node = .object fields ∧ node = .object inner := by
  by_cases both : ∃ own inner, existing = some (.object own) ∧ node = .object inner
  · obtain ⟨own, inner, rfl, rfl⟩ := both
    exact .inr ⟨merge own inner, inner, by rw [mergeNode], rfl⟩
  · exact .inl (mergeNode_of_apart both)

theorem mergeNode_eq_resolver_iff {existing : Option ResolverNode} :
    mergeNode existing node = .resolver resolver ↔ node = .resolver resolver := by
  rcases mergeNode_cases existing node with same | ⟨fields, inner, isMerged, rfl⟩
  · rw [same]
  · simp [isMerged]

theorem mergeNode_eq_object_iff {existing : Option ResolverNode} :
    (∃ fields, mergeNode existing node = .object fields) ↔ ∃ fields, node = .object fields := by
  rcases mergeNode_cases existing node with same | ⟨fields, inner, isMerged, rfl⟩
  · rw [same]
  · simp [isMerged]

/-- What is found at a path of two merged trees: a node that the second has there, laid over some
other; where the second has none, what the first has if the two meet all the way down, and nothing
if they do not. -/
theorem get?_merge (mine : ResolverTree) (wellKeyed : theirs.WellKeyed) (path : List String) :
    (∀ node, theirs.get? path = some node ->
      ∃ existing, (merge mine theirs).get? path = some (mergeNode existing node)) ∧
    (theirs.get? path = none -> JoinsAbove theirs mine path ->
      (merge mine theirs).get? path = mine.get? path) ∧
    (theirs.get? path = none -> ¬ JoinsAbove theirs mine path ->
      (merge mine theirs).get? path = none) := by
  induction path generalizing mine theirs with
  | nil => exact ⟨fun _ found => (by cases found), fun _ _ => rfl, fun _ _ => rfl⟩
  | cons key rest inductionHypothesis =>
      have isMerged := node?_merge mine key wellKeyed.1
      cases rest with
      | nil =>
          simp only [get?_single, isMerged]
          cases theirs.node? key with
          | none => simp [joinsAbove_single]
          | some node => simpa using ⟨_, rfl⟩
      | cons next rest =>
          rw [joinsAbove_further_iff, get?_further, get?_further key, get?_further key, isMerged]
          cases under : theirs.node? key with
          | none => simp
          | some node =>
              by_cases both : ∃ own inner, mine.node? key = some (.object own) ∧
                  node = .object inner
              · obtain ⟨own, inner, isOwn, rfl⟩ := both
                have wellKeyedInner : WellKeyed inner := wellKeyed.of_node? under
                have below := inductionHypothesis own wellKeyedInner
                simpa [isOwn, mergeNode, ResolverNode.fieldsBelow?] using below
              · -- The node of the second tree stands under the key as it is.
                have apart : ¬ ∃ inner own, node = .object inner ∧
                    mine.node? key = some (.object own) ∧
                    JoinsAbove inner own (next :: rest) :=
                  fun ⟨inner, own, isInner, isOwn, _⟩ => both ⟨own, inner, isOwn, isInner⟩
                simp only [mergeNode_of_apart both, Option.bind_some, Option.some.injEq, apart,
                  reduceCtorEq, false_or, not_false_eq_true, false_implies, implies_true,
                  true_and, true_implies]
                refine ⟨fun found isFound => ⟨none, ?_⟩, fun nothing => nothing⟩
                rw [isFound, mergeNode_none]

/-- Two merged trees have a computed field at a path exactly if the second has it there, or the
first has it and the second spares the path. -/
theorem get?_merge_eq_resolver_iff (wellKeyed : theirs.WellKeyed) :
    (merge mine theirs).get? path = some (.resolver resolver) ↔
      theirs.get? path = some (.resolver resolver) ∨
        mine.get? path = some (.resolver resolver) ∧ Spares theirs mine path := by
  obtain ⟨ofFound, ofJoined, ofApart⟩ := get?_merge mine wellKeyed path
  cases found : theirs.get? path with
  | some node =>
      have taken : ¬ Spares theirs mine path := fun spares => by simp [spares.free] at found
      obtain ⟨existing, isMerged⟩ := ofFound node found
      simp [isMerged, mergeNode_eq_resolver_iff, taken]
  | none =>
      by_cases joined : JoinsAbove theirs mine path
      · simp [ofJoined found joined, show Spares theirs mine path from ⟨found, joined⟩]
      · have taken : ¬ Spares theirs mine path := fun spares => joined spares.joined
        simp [ofApart found joined, taken]

/-- Where the second tree has a node, it says whether an object stands there. -/
theorem objectAt_merge_of_isSome (wellKeyed : theirs.WellKeyed)
    (found : (theirs.get? path).isSome = true) :
    (merge mine theirs).ObjectAt path ↔ theirs.ObjectAt path := by
  obtain ⟨node, isNode⟩ := Option.isSome_iff_exists.mp found
  obtain ⟨existing, isMerged⟩ := (get?_merge mine wellKeyed path).1 node isNode
  simp only [ObjectAt, isMerged, isNode, Option.some.injEq]
  exact mergeNode_eq_object_iff

/-- On the way to a path that the second tree spares, objects stand where they stood. -/
theorem objectAt_merge_of_spares (wellKeyed : theirs.WellKeyed) (spares : Spares theirs mine path)
    (isAbove : upper <+: path) : (merge mine theirs).ObjectAt upper ↔ mine.ObjectAt upper := by
  cases found : theirs.get? upper with
  | some node =>
      have proper : upper ≠ path := by
        rintro rfl
        simp [spares.free] at found
      obtain ⟨isTheirs, isMine⟩ := spares.joined upper isAbove proper (by simp [found])
      rw [objectAt_merge_of_isSome wellKeyed (by simp [found])]
      exact iff_of_true isTheirs isMine
  | none =>
      have isKept := (get?_merge mine wellKeyed upper).2.1 found
        (spares.joined.of_prefix isAbove)
      rw [ObjectAt, isKept, ObjectAt]

/-- Only the objects of the first tree on the way to a path matter to whether it is spared. -/
theorem Spares.congr {other : ResolverTree} (spares : Spares theirs mine path)
    (alike : ∀ upper, upper <+: path -> mine.ObjectAt upper -> other.ObjectAt upper) :
    Spares theirs other path := by
  refine ⟨spares.free, fun upper isAbove proper found => ?_⟩
  obtain ⟨isTheirs, isMine⟩ := spares.joined upper isAbove proper found
  exact ⟨isTheirs, alike upper isAbove isMine⟩

/-- Above a node of a tree there are nodes. -/
theorem isSome_of_prefix (found : (tree.get? path).isSome = true) (isAbove : upper <+: path)
    (someKeys : upper ≠ []) : (tree.get? upper).isSome = true := by
  induction upper generalizing tree path with
  | nil => exact absurd rfl someKeys
  | cons key others inductionHypothesis =>
      obtain ⟨rest, rfl⟩ := isAbove
      cases others with
      | nil =>
          cases rest with
          | nil => exact found
          | cons next rest =>
              rw [List.cons_append, List.nil_append, get?_further] at found
              cases under : tree.node? key with
              | none => simp [under] at found
              | some node => simp [under]
      | cons next others =>
          rw [List.cons_append, List.cons_append, get?_further] at found
          rw [get?_further]
          cases below : (tree.node? key).bind ResolverNode.fieldsBelow? with
          | none => simp [below] at found
          | some fields =>
              rw [below, Option.bind_some] at found
              exact inductionHypothesis found (List.prefix_append _ _) (List.cons_ne_nil _ _)

end ResolverTree

/-! ### The transformers of a registry -/

namespace Content.Registry

open ResolverTree

variable {registry front : Registry} {last transformer : Transformer} {path : List String}
  {resolver : Resolver}

theorem fragments_concat :
    fragments (front ++ [last]) = merge (fragments front) last.fragments := by
  simp [fragments]

/-- A computed field that all later transformers spare is there, below the objects that stood above
it. -/
theorem fragments_keep {before after : Registry}
    (wellKeyed : ∀ later ∈ transformer :: after, later.fragments.WellKeyed)
    (found : transformer.fragments.get? path = some (.resolver resolver))
    (spared : ∀ later ∈ after, Spares later.fragments transformer.fragments path) :
    (fragments (before ++ transformer :: after)).get? path = some (.resolver resolver) ∧
      ∀ upper, upper <+: path ->
        ((fragments (before ++ transformer :: after)).ObjectAt upper ↔
          transformer.fragments.ObjectAt upper) := by
  induction after using List.reverseRecOn with
  | nil =>
      have wellKeyedOwn := wellKeyed transformer List.mem_cons_self
      rw [fragments_concat]
      refine ⟨(get?_merge_eq_resolver_iff wellKeyedOwn).mpr (.inl found), fun upper isAbove => ?_⟩
      cases upper with
      | nil => exact Iff.rfl
      | cons key others =>
          refine objectAt_merge_of_isSome wellKeyedOwn ?_
          exact isSome_of_prefix (by simp [found]) isAbove (List.cons_ne_nil _ _)
  | append_singleton after last inductionHypothesis =>
      obtain ⟨isKept, alike⟩ := inductionHypothesis
        (fun later isLater => wellKeyed later (by
          rcases List.mem_cons.mp isLater with rfl | isLater <;> simp [*]))
        fun later isLater => spared later (List.mem_append_left _ isLater)
      have wellKeyedLast := wellKeyed last (by simp)
      have sparesNow : Spares last.fragments (fragments (before ++ transformer :: after)) path :=
        (spared last (by simp)).congr fun upper isAbove => (alike upper isAbove).mpr
      rw [← List.cons_append, ← List.append_assoc, fragments_concat]
      refine ⟨(get?_merge_eq_resolver_iff wellKeyedLast).mpr (.inr ⟨isKept, sparesNow⟩), ?_⟩
      intro upper isAbove
      rw [objectAt_merge_of_spares wellKeyedLast sparesNow isAbove, alike upper isAbove]

/-- The transformers of a registry together have a computed field at a path exactly if one of them
has it and every later one spares the path. -/
theorem get?_fragments_eq_resolver_iff
    (wellKeyed : ∀ transformer ∈ registry, transformer.fragments.WellKeyed) :
    (fragments registry).get? path = some (.resolver resolver) ↔
      ∃ before transformer after, registry = before ++ transformer :: after ∧
        transformer.fragments.get? path = some (.resolver resolver) ∧
        ∀ later ∈ after, Spares later.fragments transformer.fragments path := by
  constructor
  · intro isThere
    induction registry using List.reverseRecOn with
    | nil =>
        have isNothing : get? [] path = some (.resolver resolver) := isThere
        rw [get?_nil] at isNothing
        cases isNothing
    | append_singleton front last inductionHypothesis =>
        have wellKeyedLast := wellKeyed last (by simp)
        have wellKeyedFront : ∀ transformer ∈ front, transformer.fragments.WellKeyed :=
          fun transformer member => wellKeyed transformer (List.mem_append_left _ member)
        rw [fragments_concat, get?_merge_eq_resolver_iff wellKeyedLast] at isThere
        rcases isThere with isLast | ⟨isFront, sparesFront⟩
        · exact ⟨front, last, [], rfl, isLast, by simp⟩
        · obtain ⟨before, transformer, after, rfl, found, spared⟩ :=
            inductionHypothesis wellKeyedFront isFront
          have wellKeyedLater : ∀ later ∈ transformer :: after, later.fragments.WellKeyed :=
            fun later isLater => wellKeyedFront later (List.mem_append_right before isLater)
          obtain ⟨-, alike⟩ := @fragments_keep _ _ _ before after wellKeyedLater found spared
          refine ⟨before, transformer, after ++ [last], by simp, found, ?_⟩
          intro later isLater
          rcases List.mem_append.mp isLater with isEarlier | isLast
          · exact spared later isEarlier
          · rw [List.mem_singleton.mp isLast]
            exact sparesFront.congr fun upper isAbove => (alike upper isAbove).mp
  · rintro ⟨before, transformer, after, rfl, found, spared⟩
    exact (fragments_keep
      (fun later isLater => wellKeyed later (List.mem_append_right _ isLater)) found spared).1

end Content.Registry

namespace ResolverTree

open Content

/-- Merging trees of computed fields, at every path.  Two merged trees have a computed field at a
path exactly if the second has it there, or the first has it and the second spares the path: it has
no node there, and wherever it has one above, an object stands there in both.  So the transformers
of a registry together have a computed field exactly if one of them has it and every later one
spares its path. -/
theorem merged_resolvers (path : List String) (resolver : Resolver) :
    (∀ mine theirs : ResolverTree, theirs.WellKeyed ->
      ((merge mine theirs).get? path = some (.resolver resolver) ↔
        theirs.get? path = some (.resolver resolver) ∨
          mine.get? path = some (.resolver resolver) ∧ Spares theirs mine path)) ∧
    ∀ registry : Registry, (∀ transformer ∈ registry, transformer.fragments.WellKeyed) ->
      (registry.fragments.get? path = some (.resolver resolver) ↔
        ∃ before transformer after, registry = before ++ transformer :: after ∧
          transformer.fragments.get? path = some (.resolver resolver) ∧
          ∀ later ∈ after, Spares later.fragments transformer.fragments path) :=
  ⟨fun _ _ wellKeyed => get?_merge_eq_resolver_iff wellKeyed,
    fun _ wellKeyed => Registry.get?_fragments_eq_resolver_iff wellKeyed⟩

/-- A computed field of a type, with the value itself. -/
def sampleComputed (typeRef : String) : ResolverNode :=
  .resolver { typeRef, resolve := fun value _ _ => .ok value }

/-- A tree with a field of an object, and a field of the objects of a list. -/
def sampleSizedParts : ResolverTree :=
  [("seo", .object [("title", sampleComputed "String")]),
    ("parts", .list (.object [("size", sampleComputed "Int")]))]

/-- A tree with another field of the same object. -/
def sampleLanguage : ResolverTree :=
  [("seo", .object [("language", sampleComputed "String")])]

/-- A tree with another field of the objects of the same list. -/
def sampleLabelledParts : ResolverTree :=
  [("parts", .list (.object [("label", sampleComputed "String")]))]

/-- A transformer with the given computed fields. -/
def sampleFragments (fragments : ResolverTree) : Transformer where
  extensions := []
  parse _ _ := .ok .null
  fragments

theorem merged_resolvers_sampleSizedParts :
    sampleLanguage.WellKeyed ∧
      Spares sampleLanguage sampleSizedParts ["seo", "title"] ∧
      Spares sampleLanguage sampleSizedParts ["parts", "size"] ∧
      (merge sampleSizedParts sampleLanguage).get? ["seo", "title"] =
        some (sampleComputed "String") ∧
      (Registry.fragments [sampleFragments sampleSizedParts,
          sampleFragments sampleLanguage]).get? ["parts", "size"] =
        some (sampleComputed "Int") := by
  have wellKeyed : sampleLanguage.WellKeyed := by
    simp [sampleLanguage, WellKeyed, sampleComputed, ResolverNode.WellKeyed,
      ResolverNode.WellKeyedFields]
  have wellKeyedParts : sampleSizedParts.WellKeyed := by
    simp [sampleSizedParts, WellKeyed, sampleComputed, ResolverNode.WellKeyed,
      ResolverNode.WellKeyedFields]
  have sparesTitle : Spares sampleLanguage sampleSizedParts ["seo", "title"] :=
    ⟨rfl, joinsAbove_further_iff.mpr (.inr ⟨_, _, rfl, rfl, joinsAbove_single⟩)⟩
  have sparesSize : Spares sampleLanguage sampleSizedParts ["parts", "size"] :=
    ⟨rfl, joinsAbove_further_iff.mpr (.inl rfl)⟩
  refine ⟨wellKeyed, sparesTitle, sparesSize, ?_, ?_⟩
  · exact ((merged_resolvers _ _).1 _ _ wellKeyed).mpr (.inr ⟨rfl, sparesTitle⟩)
  · refine ((merged_resolvers _ _).2 _ ?_).mpr ⟨[], _, _, rfl, rfl, ?_⟩
    · simpa [sampleFragments] using ⟨wellKeyedParts, wellKeyed⟩
    · simpa [sampleFragments] using sparesSize

/-- Two trees with a list of objects under the same key: the field of the first is lost, although
the second has nothing at its path and the same form above it. -/
theorem merge_loses_list_fields :
    sampleSizedParts.get? ["parts", "size"] = some (sampleComputed "Int") ∧
      sampleLabelledParts.get? ["parts", "size"] = none ∧
      (∃ own, sampleSizedParts.get? ["parts"] = some (.list (.object own))) ∧
      (∃ inner, sampleLabelledParts.get? ["parts"] = some (.list (.object inner))) ∧
      (merge sampleSizedParts sampleLabelledParts).get? ["parts", "size"] = none :=
  ⟨rfl, rfl, ⟨_, rfl⟩, ⟨_, rfl⟩, rfl⟩

end ResolverTree

end ContentGraph
