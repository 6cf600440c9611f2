import ContentGraph.Proofs.Shape.Invariant
import ContentGraph.Proofs.Shape.OverridePath
import ContentGraph.Proofs.Success

/-!
Contract: what is left of each override in the tree that a list of overrides compiles to.

Owns:
- `ResolverNode.at?`, the node at the end of segments, each of which has to fit the node it stands
  for, and `get?_of_at?`: lookup by keys finds what stands at a place;
- `Conflict`, the places that cannot both be kept, which is decidable, and `at?_layNode_of_apart`:
  laying an override leaves every place alone that does not conflict with its own;
- `compileInto_keeps`, the same for all later overrides, and `compile_last_wins`: when overrides do
  not compile, and what is found at the place of an override when they do;
- `Kind.Invariant.every_compile`: invariants of the shape that compiled overrides declare.

Does not own: what becomes of the tree among observed fields (`Proofs.Shape.OverriddenFields`).
-/

namespace ContentGraph

namespace ResolverTree

theorem node?_setNode {tree : ResolverTree} {key name : String} {node : ResolverNode} :
    (tree.setNode key node).node? name = if name = key then some node else tree.node? name := by
  induction tree with
  | nil => simp [setNode, node?, eq_comm]
  | cons first rest inductionHypothesis =>
      obtain ⟨own, old⟩ := first
      rw [setNode]
      by_cases replaced : own = key
      · by_cases same : name = key
        · simp [node?, replaced, same]
        · simp [node?, replaced, same, Ne.symm same]
      · by_cases same : own = name
        · subst same
          simp [node?, replaced]
        · simp only [replaced, ↓reduceIte, node?, same, inductionHypothesis]

end ResolverTree

/-- The node that segments lead to: keys through objects, element markers through lists. -/
def ResolverNode.at? : ResolverNode -> List Override.Segment -> Option ResolverNode
  | node, [] => some node
  | .object fields, .key name :: rest =>
      match ResolverTree.node? fields name with
      | some inner => at? inner rest
      | none => none
  | .list element, .eachElement :: rest => at? element rest
  | _, _ => none

namespace Override

variable {mine theirs shared left right segments rest : List Segment} {resolver : Resolver}
  {node found : ResolverNode} {tree compiled : ResolverTree}

/-! ### Places -/

/-- The place of an override in a tree: its segments without a final element marker, which says
that the resolver receives the whole list. -/
def place (segments : List Segment) : List Segment :=
  if segments.getLast? = some .eachElement then segments.dropLast else segments

/-- The computed field of an override with parsed segments: its function, and its type name, in
brackets where the segments end with an element marker. -/
def resolverFor (override : Override) (segments : List Segment) : Resolver where
  typeRef :=
    if segments.getLast? = some .eachElement then "[" ++ override.typeName ++ "]"
    else override.typeName
  resolve := override.resolve

/-- The keys of segments, in order. -/
def keys : List Segment -> List String
  | [] => []
  | .key name :: rest => name :: keys rest
  | .eachElement :: rest => keys rest

/-- Two places conflict if one is a prefix of the other, or if at the first position where they
differ one has a key and the other an element marker. -/
inductive Conflict : List Segment -> List Segment -> Prop where
  | above {upper lower : List Segment} (isPrefix : upper <+: lower) : Conflict upper lower
  | below {upper lower : List Segment} (isPrefix : upper <+: lower) : Conflict lower upper
  | keyAndMarker (shared : List Segment) (name : String) (left right : List Segment) :
      Conflict (shared ++ .key name :: left) (shared ++ .eachElement :: right)
  | markerAndKey (shared : List Segment) (name : String) (left right : List Segment) :
      Conflict (shared ++ .eachElement :: left) (shared ++ .key name :: right)

/-- Below a common first segment the rest decides; two first segments that differ conflict unless
both are keys. -/
theorem conflict_cons_iff {own their : Segment} :
    Conflict (own :: mine) (their :: theirs) ↔
      if own = their then Conflict mine theirs else own = .eachElement ∨ their = .eachElement := by
  constructor
  · -- A conflict below a shared part is one here where that part is empty, and below `own` else.
    generalize isLeft : own :: mine = left, isRight : their :: theirs = right
    intro conflict
    cases conflict with
    | above isPrefix =>
        subst isLeft isRight
        obtain ⟨rfl, further⟩ := List.cons_prefix_cons.mp isPrefix
        simpa using .above further
    | below isPrefix =>
        subst isLeft isRight
        obtain ⟨rfl, further⟩ := List.cons_prefix_cons.mp isPrefix
        simpa using .below further
    | keyAndMarker shared name left right =>
        cases shared with
        | nil =>
            cases isLeft
            cases isRight
            simp
        | cons segment shared =>
            cases isLeft
            cases isRight
            simpa using .keyAndMarker shared name left right
    | markerAndKey shared name left right =>
        cases shared with
        | nil =>
            cases isLeft
            cases isRight
            simp
        | cons segment shared =>
            cases isLeft
            cases isRight
            simpa using .markerAndKey shared name left right
  · intro conflict
    split at conflict
    · subst own
      cases conflict with
      | above isPrefix => exact .above (List.cons_prefix_cons.mpr ⟨rfl, isPrefix⟩)
      | below isPrefix => exact .below (List.cons_prefix_cons.mpr ⟨rfl, isPrefix⟩)
      | keyAndMarker shared name left right => exact .keyAndMarker (their :: shared) name left right
      | markerAndKey shared name left right => exact .markerAndKey (their :: shared) name left right
    · cases own with
      | key name =>
          obtain isMarker | rfl := conflict
          · cases isMarker
          · exact .keyAndMarker [] name mine theirs
      | eachElement =>
          cases their with
          | key name => exact .markerAndKey [] name mine theirs
          | eachElement => contradiction

instance decidableConflict : (mine theirs : List Segment) -> Decidable (Conflict mine theirs)
  | [], _ => .isTrue (.above List.nil_prefix)
  | _ :: _, [] => .isTrue (.below List.nil_prefix)
  | _ :: mine, _ :: theirs =>
      have := decidableConflict mine theirs
      decidable_of_iff _ conflict_cons_iff.symm

/-- Where a field of a tree can be: a key, and then further keys, each after at most one element
marker. -/
inductive Addresses : List Segment -> Prop where
  | field (name : String) : Addresses [.key name]
  | inside (name : String) {rest : List Segment} (further : Addresses rest) :
      Addresses (.key name :: rest)
  | element (name : String) {rest : List Segment} (further : Addresses rest) :
      Addresses (.key name :: .eachElement :: rest)

theorem place_append (someRest : rest ≠ []) (front : List Segment) :
    place (front ++ rest) = front ++ place rest := by
  unfold place
  rw [List.getLast?_append_of_ne_nil front someRest, List.dropLast_append_of_ne_nil someRest]
  split <;> rfl

/-- The place of a parsed path is that of a field. -/
theorem addresses_place {field : String} (isRead : parsePath field = .ok segments) :
    Addresses (place segments) := by
  obtain ⟨parts, someParts, -, -, rfl⟩ := parsePath_eq_ok_iff.mp isRead
  clear isRead
  induction parts with
  | nil => exact absurd rfl someParts
  | cons part parts inductionHypothesis =>
      obtain ⟨key, marker⟩ := part
      cases parts with
      | nil => cases marker <;> exact .field _
      | cons next others =>
          -- Only the last part loses its marker.
          have further := inductionHypothesis (List.cons_ne_nil _ _)
          rw [List.flatMap_cons, place_append (by simp [PathPart.segments])]
          cases marker with
          | absent => exact .inside _ further
          | elements | objects => exact .element _ further

/-! ### What is found at a place -/

theorem exists_object_of_at? (addresses : Addresses segments)
    (lies : node.at? segments = some found) :
    ∃ fields : ResolverTree, node = .object fields := by
  cases node with
  | object fields => exact ⟨fields, rfl⟩
  | _ => cases addresses <;> cases lies

/-- Further keys lead into an object, or into the objects of a list. -/
theorem get?_key_cons {name : String} {rest : List String} {fields : ResolverTree}
    (further : rest ≠ [])
    (under : tree.node? name = some (.object fields) ∨
      tree.node? name = some (.list (.object fields))) :
    tree.get? (name :: rest) = fields.get? rest := by
  cases rest with
  | nil => exact absurd rfl further
  | cons next others => obtain under | under := under <;> simp [ResolverTree.get?, under]

theorem keys_ne_nil (addresses : Addresses segments) : keys segments ≠ [] := by
  cases addresses <;> exact List.cons_ne_nil _ _

/-- What stands at a place is found by the keys of the place. -/
theorem get?_of_at? (addresses : Addresses segments)
    (lies : (ResolverNode.object tree).at? segments = some found) :
    tree.get? (keys segments) = some found := by
  induction addresses generalizing tree with
  | field name =>
      cases under : tree.node? name with
      | none => simp [ResolverNode.at?, under] at lies
      | some inner => simpa [ResolverNode.at?, under, keys, ResolverTree.get?] using lies
  | inside name further inductionHypothesis =>
      cases under : tree.node? name with
      | none => simp [ResolverNode.at?, under] at lies
      | some inner =>
          simp only [ResolverNode.at?, under] at lies
          obtain ⟨fields, rfl⟩ := exists_object_of_at? further lies
          rw [keys, get?_key_cons (keys_ne_nil further) (.inl under)]
          exact inductionHypothesis lies
  | element name further inductionHypothesis =>
      cases under : tree.node? name with
      | none => simp [ResolverNode.at?, under] at lies
      | some inner =>
          simp only [ResolverNode.at?, under] at lies
          cases inner with
          | list element =>
              obtain ⟨fields, rfl⟩ := exists_object_of_at? further lies
              rw [keys, keys, get?_key_cons (keys_ne_nil further) (.inr under)]
              exact inductionHypothesis lies
          | _ => cases lies

/-! ### Laying one override -/

/-- A resolver stands where it is laid. -/
theorem at?_layNode (segments : List Segment) (existing : Option ResolverNode) :
    (layNode resolver segments existing).at? segments = some (.resolver resolver) := by
  induction segments generalizing existing with
  | nil => rfl
  | cons segment rest inductionHypothesis =>
      cases segment with
      | key name =>
          simp [layNode, ResolverNode.at?, ResolverTree.node?_setNode, inductionHypothesis]
      | eachElement => exact inductionHypothesis _

/-- Laying a resolver leaves alone what stands at a place that does not conflict with its own. -/
theorem at?_layNode_of_apart (apart : ¬ Conflict mine theirs) (lies : node.at? mine = some found) :
    (layNode resolver theirs (some node)).at? mine = some found := by
  induction theirs generalizing mine node with
  | nil => exact absurd (.below List.nil_prefix) apart
  | cons their theirs inductionHypothesis =>
      cases mine with
      | nil => exact absurd (.above List.nil_prefix) apart
      | cons own mine =>
          rw [conflict_cons_iff] at apart
          by_cases same : own = their
          · subst their
            rw [if_pos rfl] at apart
            cases own with
            | key name =>
                cases node with
                | object fields =>
                    rw [ResolverNode.at?] at lies
                    rw [layNode, ResolverNode.at?, ResolverTree.node?_setNode, if_pos rfl]
                    cases under : ResolverTree.node? fields name with
                    | none => simp [under] at lies
                    | some inner =>
                        simp only [under] at lies
                        exact inductionHypothesis apart lies
                | _ => cases lies
            | eachElement =>
                cases node with
                | list element => exact inductionHypothesis apart lies
                | _ => cases lies
          -- Two different first segments that do not conflict are keys of the same object.
          · rw [if_neg same, not_or] at apart
            cases own with
            | eachElement => exact absurd rfl apart.1
            | key name =>
                cases their with
                | eachElement => exact absurd rfl apart.2
                | key other =>
                    have differ : name ≠ other := fun areSame => same (areSame ▸ rfl)
                    cases node with
                    | object fields =>
                        rw [layNode, ResolverNode.at?, ResolverTree.node?_setNode, if_neg differ]
                        exact lies
                    | _ => cases lies

/-- At the root, laying a resolver in the tree is laying it in the object that the tree is. -/
theorem object_lay (addresses : Addresses segments) :
    ResolverNode.object (lay tree segments resolver) =
      layNode resolver segments (some (.object tree)) := by
  cases addresses <;> rfl

theorem layParsed_eq (override : Override) :
    layParsed tree override segments =
      lay tree (place segments) (override.resolverFor segments) := by
  unfold layParsed place resolverFor
  split <;> rfl

/-! ### Laying many overrides -/

variable {overrides before after : List Override} {override : Override}

/-- Overrides do not compile exactly if the path of one of them is not read. -/
theorem compileInto_fails_iff :
    (∃ failure, compileInto tree overrides = .error failure) ↔
      ∃ override ∈ overrides, ∃ failure, parsePath override.field = .error failure := by
  induction overrides generalizing tree with
  | nil => simp [compileInto]
  | cons first rest inductionHypothesis =>
      cases isRead : parsePath first.field with
      | error failure => simp [compileInto, isRead]
      | ok segments => simp [compileInto, isRead, inductionHypothesis]

theorem compileInto_append :
    compileInto tree (before ++ after) =
      compileInto tree before >>= fun compiled => compileInto compiled after := by
  induction before generalizing tree with
  | nil => rfl
  | cons first rest inductionHypothesis =>
      cases isRead : parsePath first.field with
      | error failure => simp [compileInto, isRead]; rfl
      | ok segments => simpa [compileInto, isRead] using inductionHypothesis

/-- Overrides leave alone what stands at a place with which none of their places conflicts. -/
theorem compileInto_keeps (compiles : compileInto tree overrides = .ok compiled)
    (apart : ∀ override ∈ overrides, ∀ segments, parsePath override.field = .ok segments ->
      ¬ Conflict mine (place segments))
    (lies : (ResolverNode.object tree).at? mine = some found) :
    (ResolverNode.object compiled).at? mine = some found := by
  induction overrides generalizing tree with
  | nil =>
      cases compiles
      exact lies
  | cons first rest inductionHypothesis =>
      cases isRead : parsePath first.field with
      | error failure => simp [compileInto, isRead] at compiles
      | ok segments =>
          simp only [compileInto, isRead, layParsed_eq] at compiles
          refine inductionHypothesis compiles
            (fun override later => apart override (List.mem_cons_of_mem _ later)) ?_
          rw [object_lay (addresses_place isRead)]
          exact at?_layNode_of_apart (apart first List.mem_cons_self segments isRead) lies

/-- Overrides do not compile exactly if a path is not read.  If they compile, the keys of an
override with which no later one conflicts lead to its computed field. -/
theorem compile_last_wins (overrides : List Override) :
    ((∃ failure, compile overrides = .error failure) ↔
      ∃ override ∈ overrides, ∃ failure, parsePath override.field = .error failure) ∧
    ∀ tree, compile overrides = .ok tree -> ∀ before override after,
      overrides = before ++ override :: after ->
      ∃ segments, parsePath override.field = .ok segments ∧
        ((∀ later ∈ after, ∀ others, parsePath later.field = .ok others ->
          ¬ Conflict (place segments) (place others)) ->
        tree.get? (keys (place segments)) = some (.resolver (override.resolverFor segments))) := by
  refine ⟨compileInto_fails_iff, ?_⟩
  rintro tree compiles before override after rfl
  rw [compile, compileInto_append] at compiles
  -- Whatever the overrides before this one left, it is laid into that, and the later ones keep it.
  obtain ⟨earlier, -, compiles⟩ := bind_eq_ok.mp compiles
  cases isRead : parsePath override.field with
  | error failure => simp [compileInto, isRead] at compiles
  | ok segments =>
      refine ⟨segments, rfl, fun apart => ?_⟩
      simp only [compileInto, isRead, layParsed_eq] at compiles
      refine get?_of_at? (addresses_place isRead) (compileInto_keeps compiles apart ?_)
      rw [object_lay (addresses_place isRead)]
      exact at?_layNode _ _

/-- An override that leaves the value as it is. -/
def sampleOverride (field typeName : String) : Override where
  field
  typeName
  resolve value _ _ := .ok value

/-- Overrides of a property of list elements, of a list beside it, and of that property again. -/
def sampleOverrides : List Override :=
  [sampleOverride "posts[]obj.title" "Int", sampleOverride "posts[]obj.tags[]" "String",
    sampleOverride "posts[]obj.title" "Float"]

theorem compile_last_wins_sampleOverrides :
    ∃ tree, compile sampleOverrides = .ok tree ∧
      ResolverTree.get? tree ["posts", "tags"] =
        some (.resolver { typeRef := "[String]", resolve := fun value _ _ => .ok value }) := by
  have readTitle : parsePath "posts[]obj.title" =
      .ok [.key "posts", .eachElement, .key "title"] := by with_unfolding_all rfl
  have readTags : parsePath "posts[]obj.tags[]" =
      .ok [.key "posts", .eachElement, .key "tags", .eachElement] := by with_unfolding_all rfl
  obtain ⟨tree, compiles⟩ : ∃ tree, compile sampleOverrides = .ok tree := by
    simp [compile, compileInto, sampleOverrides, sampleOverride, readTitle, readTags]
  obtain ⟨segments, isRead, kept⟩ := (compile_last_wins sampleOverrides).2 tree compiles
    [sampleOverride "posts[]obj.title" "Int"] (sampleOverride "posts[]obj.tags[]" "String")
    [sampleOverride "posts[]obj.title" "Float"] rfl
  cases readTags.symm.trans isRead
  refine ⟨tree, compiles, kept fun later isLater others isRead => ?_⟩
  cases List.mem_singleton.mp isLater
  cases readTitle.symm.trans isRead
  decide

end Override

/-! ### Invariants of the declared shape -/

namespace Kind

variable {property : Kind -> Prop}

theorem ofTree_setNode (tree : ResolverTree) (key : String) (node : ResolverNode) :
    ofTree (tree.setNode key node) = (ofTree tree).setField (.unnamed key (ofNode node)) := by
  induction tree with
  | nil => rfl
  | cons first rest inductionHypothesis =>
      obtain ⟨name, old⟩ := first
      rw [ResolverTree.setNode, ofTree, Shape.setField]
      by_cases same : name = key
      · rw [if_pos same, if_pos (by exact same), ofTree, same]
      · rw [if_neg same, if_neg (by exact same), ofTree, inductionHypothesis]

theorem field?_ofTree {tree : ResolverTree} {key : String} {node : ResolverNode}
    (isNode : tree.node? key = some node) :
    (ofTree tree).field? key = some (.unnamed key (ofNode node)) := by
  induction tree with
  | nil => cases isNode
  | cons first rest inductionHypothesis =>
      obtain ⟨name, own⟩ := first
      rw [ResolverTree.node?] at isNode
      rw [ofTree, Shape.field?]
      split at isNode
      · next same =>
          cases isNode
          cases same
          exact if_pos rfl
      · next different => exact (if_neg different).trans (inductionHypothesis isNode)

theorem Every.of_node? {tree : ResolverTree} {key : String} {node : ResolverNode}
    (every : Every property (.object (ofTree tree))) (found : tree.node? key = some node) :
    Every property (ofNode node) :=
  every.of_field? (field?_ofTree found)

/-- An invariant is kept when a computed field that has it is laid at a path. -/
theorem Invariant.every_layNode (invariant : Invariant property) {resolver : Resolver}
    (computed : property (.resolved resolver)) (segments : List Override.Segment) :
    ∀ existing : Option ResolverNode,
      (∀ node, existing = some node -> Every property (ofNode node)) ->
        Every property (ofNode (Override.layNode resolver segments existing)) := by
  induction segments with
  | nil => exact fun _ _ => computed
  | cons segment rest inductionHypothesis =>
      intro existing every
      cases segment with
      | eachElement =>
          refine ⟨invariant.list _, inductionHypothesis _ ?_⟩
          intro node isInner
          split at isInner
          · cases isInner
            exact (every _ rfl).2
          · cases isInner
      | key name =>
          have isLaid : ∃ fields : ResolverTree, Every property (.object (ofTree fields)) ∧
              Override.layNode resolver (.key name :: rest) existing =
                .object (fields.setNode name
                  (Override.layNode resolver rest (fields.node? name))) := by
            have everyNone : Every property (.object (ofTree [])) :=
              ⟨invariant.inferred [] List.nodup_nil, trivial⟩
            cases existing with
            | none => exact ⟨[], everyNone, rfl⟩
            | some node =>
                cases node with
                | object fields => exact ⟨fields, every _ rfl, rfl⟩
                | _ => exact ⟨[], everyNone, rfl⟩
          obtain ⟨fields, everyFields, isLaid⟩ := isLaid
          rw [isLaid, ofNode, ofTree_setNode]
          exact invariant.every_setField everyFields
            (inductionHypothesis _ fun node found => everyFields.of_node? found)

theorem Invariant.every_lay (invariant : Invariant property) {resolver : Resolver}
    (computed : property (.resolved resolver)) {tree : ResolverTree}
    (every : Every property (.object (ofTree tree))) (segments : List Override.Segment) :
    Every property (.object (ofTree (Override.lay tree segments resolver))) := by
  unfold Override.lay
  split
  · rw [ofTree_setNode]
    exact invariant.every_setField every
      (invariant.every_layNode computed _ _ fun node found => every.of_node? found)
  · exact every

/-- An invariant holds at every level of compiled overrides if their computed fields have it, as
they are declared or as lists. -/
theorem Invariant.every_compile (invariant : Invariant property) {overrides : List Override}
    {tree : ResolverTree}
    (computed : ∀ override ∈ overrides,
      ∀ typeRef ∈ [override.typeName, "[" ++ override.typeName ++ "]"],
        property (.resolved { typeRef, resolve := override.resolve }))
    (compiled : Override.compile overrides = .ok tree) :
    Every property (.object (ofTree tree)) := by
  have start : Every property (.object (ofTree [])) :=
    ⟨invariant.inferred [] List.nodup_nil, trivial⟩
  unfold Override.compile at compiled
  generalize ([] : ResolverTree) = before at compiled start
  induction overrides generalizing before with
  | nil =>
      cases compiled
      exact start
  | cons override rest inductionHypothesis =>
      obtain ⟨computedFirst, computedRest⟩ := List.forall_mem_cons.mp computed
      rw [Override.compileInto] at compiled
      split at compiled
      · cases compiled
      · next segments _ =>
          refine inductionHypothesis computedRest _ compiled ?_
          unfold Override.layParsed
          split
          · exact invariant.every_lay (computedFirst _ (by simp)) start _
          · exact invariant.every_lay (computedFirst _ (by simp)) start _

end Kind

end ContentGraph
