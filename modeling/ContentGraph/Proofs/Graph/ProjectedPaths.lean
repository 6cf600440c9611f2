import ContentGraph.Proofs.Filter.Reading
import ContentGraph.Proofs.Graph.Projection
import ContentGraph.Proofs.Site.LegalNames

/-!
Contract: what a projection holds at the paths that were selected.

Owns:
- `index?_of_fields`: a name that was selected of an object is no list index;
- `follow?_of_many`: below a relation to many a selected path leads nowhere;
- `Dependence`, how much of what stands at a path hangs on what is selected below it, and
  `keepsAt`: two projections of one node agree on the rest at a path that both select.

Does not own: which paths a filter selects (`Proofs.Filter.Selection`).
-/

namespace ContentGraph

open ContentGraph.Json ContentGraph.Filter

namespace Projection

open Kind

variable {graph : Graph} {typeName : String} {shape : Shape} {relations : List Relation}
  {relation : Relation} {target : Collection} {raw value parent projected : Value}
  {selection below : Selection} {selected : List (String × Selection)} {out : Object}
  {step : String} {rest : Value.Path}

/-! ### Below lists -/

/-- A name that is selected of an object is that of a relation, of the type or of a field, and no
list index. -/
theorem index?_of_fields (legal : Every LegalNames (.object shape))
    (legalRelations : ∀ relation ∈ relations, Text.IsLegal relation.field)
    (isProjected : fields graph typeName shape relations raw selected = .ok out)
    (isSelected : selected.lookup step = some below) : Value.index? step = none := by
  obtain ⟨own, _, isOne⟩ := exists_projected isProjected isSelected
  refine Text.index?_of_legal ?_
  unfold one at isOne
  split at isOne
  · next relation isRelation =>
      have sameName : relation.field = step := by simpa using List.find?_some isRelation
      exact sameName ▸ legalRelations relation (List.mem_of_find?_eq_some isRelation)
  · split at isOne
    · next isName => exact isName ▸ (by decide : Text.IsLegal "_collection")
    · split at isOne
      · cases isOne
      · next field isField =>
          obtain ⟨member, sameName⟩ := Shape.mem_of_field? isField
          exact sameName ▸ legal.1 field member

theorem relationBelow_ok (selects : below.isLeaf = false)
    (isProjected : relationBelow graph relation value below = .ok projected) :
    ∃ target, graph.collection relation.target = .ok target ∧
      ∃ nodes, referred graph relation value = .ok nodes ∧
        match nodes with
        | .one none => projected = .null
        | .one (some found) => node graph target found below = .ok projected
        | .many nodes => ∃ outs, projected = .array outs ∧
            List.Forall₂ (fun found out => node graph target found below = .ok out) nodes outs := by
  rw [relationBelow, selects, if_neg Bool.false_ne_true] at isProjected
  obtain ⟨target, known, nodes, isReferred, made⟩ := by
    simpa only [bind_eq_ok] using isProjected
  refine ⟨target, known, nodes, isReferred, ?_⟩
  rcases nodes with (_ | found) | nodes
  · exact (Except.ok.inj made).symm
  · exact made
  · obtain ⟨outs, areMade, isArray⟩ := map_eq_ok.mp made
    exact ⟨outs, isArray.symm, mapM_eq_ok.mp areMade⟩

theorem cardinality_of_referred {nodes : Referred}
    (isReferred : referred graph relation value = .ok nodes) :
    relation.cardinality = match nodes with
      | .one _ => .one
      | .many _ => .many := by
  unfold referred at isReferred
  split at isReferred
  · next toOne =>
      rw [toOne]
      split at isReferred
      · obtain ⟨_, _, rfl⟩ := map_eq_ok.mp isReferred
        rfl
      · cases isReferred
        rfl
  · next toMany =>
      obtain ⟨_, _, rfl⟩ := map_eq_ok.mp isReferred
      exact toMany

private theorem follow?_nodes {nodes outs : List Value} (legal : target.LegalNames)
    (isSelected : below.fields.lookup step = some selection)
    (made : List.Forall₂ (fun found out => node graph target found below = .ok out) nodes outs) :
    (Value.array outs).follow? (step :: rest) = none := by
  cases made with
  | nil => cases isIndex : Value.index? step <;> simp [Value.follow?, Value.step?, isIndex]
  | cons isFirst _ =>
      -- what is selected of nodes names a field of theirs, which is no list index
      obtain ⟨held, isHeld, _⟩ := map_eq_ok.mp isFirst
      have noIndex := index?_of_fields legal.shape legal.relations isHeld isSelected
      simp [Value.follow?, Value.step?, noIndex]

/-- Below a relation to many a selected path leads nowhere, whatever nodes it refers to. -/
theorem follow?_of_many {next : String} {inside : Selection} (legal : graph.LegalNames)
    (isRelation : Collection.relation? relations step = some relation)
    (toMany : relation.cardinality = .many)
    (isProjected : fields graph typeName shape relations raw selection.fields = .ok out)
    (isSelected : selection.at? (step :: next :: rest) = some inside) :
    (Value.object out).follow? (step :: next :: rest) = none := by
  obtain ⟨below, isFirst, isBelow⟩ := Selection.at?_cons_eq_some.mp isSelected
  obtain ⟨deeper, isNext, _⟩ := Selection.at?_cons_eq_some.mp isBelow
  obtain ⟨projected, found, isOne⟩ := exists_projected isProjected isFirst
  rw [one, isRelation] at isOne
  obtain ⟨target, known, nodes, isReferred, made⟩ :=
    relationBelow_ok (Selection.isLeaf_of_lookup isNext) isOne
  rw [cardinality_of_referred isReferred] at toMany
  rw [Value.follow?, Value.step?, found, Option.bind_some]
  rcases nodes with _ | nodes
  · cases toMany
  · obtain ⟨outs, rfl, areMade⟩ := made
    exact follow?_nodes (legal target (Graph.mem_of_collection known)) isNext areMade

/-! ### Two projections of one value -/

section

variable {kind element : Kind} {own other : Value} {left right : Selection}

/-- Projects a value by its kind onto the selection below a field. -/
def byKind (graph : Graph) (typeName : String) (below : Selection) (kind : Kind)
    (value parent : Value) : Except Failure Value :=
  ofKind (enterBelow graph typeName below) typeName (below.fields.head?.map Prod.fst) kind value
    parent

private theorem core_ne_list (element : Kind) : ∀ kind : Kind, kind.core ≠ .list element
  | .list inner => core_ne_list element inner
  | .unknown | .scalar _ | .object _ | .resolved _ => nofun

private theorem every_core {property : Kind -> Prop} : ∀ kind : Kind, Every property kind ->
    Every property kind.core
  | .list element, every => every_core element every.2
  | .unknown, every | .scalar _, every | .object _, every | .resolved _, every => every

/-- Two projections of a value by one kind are related when they are by the kind inside of lists. -/
private theorem related_of_core (relation : Value -> Value -> Prop) (onNull : relation .null .null)
    (onItems : ∀ {outs others}, List.Forall₂ relation outs others ->
      relation (.array outs) (.array others)) :
    ∀ kind : Kind,
      (∀ value parent own other, byKind graph typeName left kind.core value parent = .ok own ->
        byKind graph typeName right kind.core value parent = .ok other -> relation own other) ->
      ∀ value parent own other, byKind graph typeName left kind value parent = .ok own ->
        byKind graph typeName right kind value parent = .ok other -> relation own other
  | .unknown, onCore | .scalar _, onCore | .object _, onCore | .resolved _, onCore => onCore
  | .list element, onCore => by
      intro value parent own other isOwn isOther
      rcases ofKind_list_ok isOwn with ⟨isNull, rfl⟩ | ⟨notNull, outs, rfl, areOwn⟩
      · rcases ofKind_list_ok isOther with ⟨_, rfl⟩ | ⟨notNull, _⟩
        · exact onNull
        · exact absurd isNull notNull
      · rcases ofKind_list_ok isOther with ⟨isNull, _⟩ | ⟨_, others, rfl, areOther⟩
        · exact absurd isNull notNull
        · refine onItems (forall₂_of_shared ?_ areOwn areOther)
          exact fun item => related_of_core relation onNull onItems element onCore item item

/-- No object is entered by a selection. -/
private def Refuses (graph : Graph) (typeName : String) (below : Selection) (shape : Shape) : Prop :=
  (below.fields.head?.map Prod.fst).isSome = true ∧
    ∀ value projected, enterBelow graph typeName below shape value ≠ .ok projected

private theorem eq_of_refuses
    (refuses : ∀ shape, kind.core = .object shape ->
      Refuses graph typeName left shape ∧ Refuses graph typeName right shape)
    (isOwn : byKind graph typeName left kind value parent = .ok own)
    (isOther : byKind graph typeName right kind value parent = .ok other) : own = other := by
  refine related_of_core (· = ·) rfl (fun {outs others} same => ?_) kind ?_ value parent own other
    isOwn isOther
  · rw [List.forall₂_eq_eq_eq] at same
    rw [same]
  · intro value parent own other isOwn isOther
    cases isCore : kind.core with
    | unknown =>
        rw [isCore] at isOwn isOther
        rw [(ofKind_unknown_ok isOwn).1, (ofKind_unknown_ok isOther).1]
    | scalar form =>
        rw [isCore] at isOwn isOther
        rw [(ofKind_scalar_ok isOwn).1, (ofKind_scalar_ok isOther).1]
    | resolved resolver =>
        rw [isCore] at isOwn isOther
        exact Except.ok.inj (isOwn.symm.trans isOther)
    | list element => exact absurd isCore (core_ne_list element kind)
    | object shape =>
        rw [isCore] at isOwn isOther
        obtain ⟨⟨isSomeLeft, refusedLeft⟩, isSomeRight, refusedRight⟩ := refuses shape isCore
        rcases ofKind_object_ok isOwn with ⟨_, rfl⟩ | ⟨held, _, entered⟩
        · rcases ofKind_object_ok isOther with ⟨_, rfl⟩ | ⟨held, _, entered⟩
          · rfl
          · rw [if_pos isSomeRight] at entered
            exact absurd entered (refusedRight _ _)
        · rw [if_pos isSomeLeft] at entered
          exact absurd entered (refusedLeft _ _)

private theorem outline_of_object
    (isProjected : byKind graph typeName below (.object shape) value parent = .ok projected) :
    projected.outline = if value.isObject then .object [] else .null := by
  rcases ofKind_object_ok isProjected with ⟨notObject, rfl⟩ | ⟨held, rfl, entered⟩
  · cases value with
    | object held => exact absurd rfl (notObject held)
    | _ => rfl
  · split at entered
    · obtain ⟨out, _, rfl⟩ := enterBelow_ok entered
      rfl
    · rw [entered]
      rfl

/-- Two projections of a value by one kind differ only inside objects and inside items. -/
private theorem outline_eq (isOwn : byKind graph typeName left kind value parent = .ok own)
    (isOther : byKind graph typeName right kind value parent = .ok other) :
    own.outline = other.outline := by
  by_cases isObject : ∃ shape, kind.core = .object shape
  · obtain ⟨shape, isCore⟩ := isObject
    refine related_of_core (fun own other => own.outline = other.outline) rfl
      (fun {outs others} same => ?_) kind ?_ value parent own other isOwn isOther
    · have sameSurface : List.Forall₂ (· = ·) (outs.map Value.surface)
          (others.map Value.surface) := by
        rw [List.forall₂_map_left_iff, List.forall₂_map_right_iff]
        refine same.imp fun own other sameOutline => ?_
        rw [← Value.surface_outline, sameOutline, Value.surface_outline]
      rw [List.forall₂_eq_eq_eq] at sameSurface
      rw [Value.outline, Value.outline, sameSurface]
    · intro value parent own other isOwn isOther
      rw [isCore] at isOwn isOther
      rw [outline_of_object isOwn, outline_of_object isOther]
  · rw [eq_of_refuses (fun shape isCore => absurd ⟨shape, isCore⟩ isObject) isOwn isOther]

private theorem follow?_list {leftInside rightInside : Selection}
    (legal : Every LegalNames (.list element))
    (inLeft : left.fields.lookup step = some leftInside)
    (inRight : right.fields.lookup step = some rightInside)
    (isOwn : byKind graph typeName left (.list element) value parent = .ok own)
    (isOther : byKind graph typeName right (.list element) value parent = .ok other) :
    own.follow? (step :: rest) = other.follow? (step :: rest) := by
  -- the step leads nowhere, or it is an index, with which no object is entered
  cases isIndex : Value.index? step with
  | none =>
      have nowhere {below : Selection} {projected : Value}
          (isProjected : byKind graph typeName below (.list element) value parent =
            .ok projected) : projected.follow? (step :: rest) = none := by
        rcases ofKind_list_ok isProjected with ⟨_, rfl⟩ | ⟨_, outs, rfl, _⟩
        · rfl
        · simp [Value.follow?, Value.step?, isIndex]
      rw [nowhere isOwn, nowhere isOther]
  | some index =>
      have refuses {shape : Shape} {below inside : Selection}
          (isCore : (Kind.list element).core = .object shape)
          (isSelected : below.fields.lookup step = some inside) :
          Refuses graph typeName below shape := by
        refine ⟨Selection.isSome_head?_of_lookup isSelected, fun value projected entered => ?_⟩
        obtain ⟨held, isHeld, _⟩ := enterBelow_ok entered
        have legalShape := isCore ▸ every_core (.list element) legal
        cases isIndex.symm.trans (index?_of_fields legalShape (List.forall_mem_nil _) isHeld isSelected)
      rw [eq_of_refuses (fun shape isCore => ⟨refuses isCore inLeft, refuses isCore inRight⟩)
        isOwn isOther]

private theorem follow?_of_not_object {leftInside rightInside : Selection}
    (noObject : ∀ shape, kind ≠ .object shape) (legal : Every LegalNames kind)
    (inLeft : left.fields.lookup step = some leftInside)
    (inRight : right.fields.lookup step = some rightInside)
    (isOwn : byKind graph typeName left kind value parent = .ok own)
    (isOther : byKind graph typeName right kind value parent = .ok other) :
    own.follow? (step :: rest) = other.follow? (step :: rest) := by
  cases kind with
  | object shape => exact absurd rfl (noObject shape)
  | list element => exact follow?_list legal inLeft inRight isOwn isOther
  | unknown => rw [eq_of_refuses (fun _ isCore => by cases isCore) isOwn isOther]
  | scalar form => rw [eq_of_refuses (fun _ isCore => by cases isCore) isOwn isOther]
  | resolved resolver => rw [eq_of_refuses (fun _ isCore => by cases isCore) isOwn isOther]

end

end Projection

/-! ### What hangs on a selection -/

/-- How much of what a projection holds at a path hangs on what is selected below it. -/
inductive Dependence where
  | nothing
  /-- What stands inside objects and inside items. -/
  | inside
  /-- All of it: a relation is followed only where something is selected below it. -/
  | everything
deriving DecidableEq

namespace Dependence

/-- Two projections agree on all that does not hang on what is selected below. -/
def Keeps : Dependence -> Option Value -> Option Value -> Prop
  | .nothing, own, other => own = other
  | .inside, own, other => own.map Value.outline = other.map Value.outline
  | .everything, _, _ => True

/-- Whether a comparator tests nothing that hangs on what is selected below. -/
def allows : Dependence -> Comparator -> Bool
  | .nothing, _ => true
  | .inside, comparator => comparator.isShallow
  | .everything, _ => false

theorem keeps_of_eq {own other : Option Value} (same : own = other) :
    ∀ dependence : Dependence, dependence.Keeps own other
  | .nothing => same
  | .inside => congrArg _ same
  | .everything => trivial

theorem test_of_keeps {dependence : Dependence} {comparator : Comparator} {own other : Option Value}
    (keeps : dependence.Keeps own other) (isAllowed : dependence.allows comparator = true) :
    comparator.test own = comparator.test other := by
  cases dependence with
  | nothing => rw [show own = other from keeps]
  | inside =>
      rw [← Comparator.test_outline isAllowed, show own.map Value.outline = _ from keeps,
        Comparator.test_outline isAllowed]
  | everything => cases isAllowed

/-- How much of a field's value hangs on what is selected below the rest of a path, by the field's
kind and by how much it is of the objects that the field holds. -/
def ofKind (enter : Shape -> Dependence) (rest : Value.Path) : Kind -> Dependence
  | .object shape => enter shape
  | .list element =>
      match rest, element.core with
      | [], .object _ => .inside
      | _, _ => .nothing
  | _ => .nothing

private theorem ofKind_nil {enter : Shape -> Dependence} {shape : Shape}
    (ends : ∀ inner, enter inner = .inside) :
    ∀ kind : Kind, kind.core = .object shape -> ofKind enter [] kind = .inside
  | .object inner, _ => ends inner
  | .list element, isCore => by
      have isElementCore : element.core = .object shape := isCore
      simp [ofKind, isElementCore]
  | .unknown, isCore | .scalar _, isCore | .resolved _, isCore => by cases isCore

end Dependence

/-- How much of what stands at a path of a projected object hangs on what is selected below it. -/
def Graph.dependence (graph : Graph) : Value.Path -> Shape -> List Relation -> Dependence
  | [], _, _ => .inside
  | step :: rest, shape, relations =>
      match Collection.relation? relations step with
      | some relation =>
          if rest = [] then .everything
          else
            match relation.cardinality, graph.collection relation.target with
            | .one, .ok target => graph.dependence rest target.shape target.relations
            | _, _ => .nothing
      | none =>
          if step = "_collection" then .nothing
          else
            match shape.field? step with
            | some field => .ofKind (fun inner => graph.dependence rest inner []) rest field.kind
            | none => .nothing

namespace Projection

open Kind

variable {graph : Graph} {typeName : String} {shape : Shape} {relations : List Relation}
  {relation : Relation} {kind : Kind} {raw value parent own other : Value}
  {left right belowLeft belowRight : Selection} {outLeft outRight : Object} {rest : Value.Path}

/-- Two projections of an object hold the same at a path that both select but for what hangs on the
selections below it, and just the same where these are the same. -/
def KeepsAt (graph : Graph) (path : Value.Path) : Prop :=
  ∀ {typeName : String} {shape : Shape} {relations : List Relation} {raw : Value}
    {left right belowLeft belowRight : Selection} {outLeft outRight : Object},
    Every LegalNames (.object shape) ->
    (∀ relation ∈ relations, Text.IsLegal relation.field) ->
    fields graph typeName shape relations raw left.fields = .ok outLeft ->
    fields graph typeName shape relations raw right.fields = .ok outRight ->
    left.at? path = some belowLeft -> right.at? path = some belowRight ->
      (belowLeft = belowRight ->
        (Value.object outLeft).follow? path = (Value.object outRight).follow? path) ∧
      (graph.dependence path shape relations).Keeps ((Value.object outLeft).follow? path)
        ((Value.object outRight).follow? path)

private theorem eq_of_at?_nil {Out : Type} (project : Selection -> Except Failure Out)
    {own other : Out} (isOwn : project left = .ok own) (isOther : project right = .ok other)
    (inLeft : left.at? [] = some belowLeft) (inRight : right.at? [] = some belowRight)
    (same : belowLeft = belowRight) : own = other := by
  cases inLeft
  cases inRight
  cases same
  exact Except.ok.inj (isOwn.symm.trans isOther)

private theorem keeps_relation (legal : graph.LegalNames) (keepsRest : KeepsAt graph rest)
    (isOwn : relationBelow graph relation value left = .ok own)
    (isOther : relationBelow graph relation value right = .ok other)
    (inLeft : left.at? rest = some belowLeft) (inRight : right.at? rest = some belowRight) :
    (belowLeft = belowRight -> own.follow? rest = other.follow? rest) ∧
      (if rest = [] then Dependence.everything
        else
          match relation.cardinality, graph.collection relation.target with
          | .one, .ok target => graph.dependence rest target.shape target.relations
          | _, _ => .nothing).Keeps (own.follow? rest) (other.follow? rest) := by
  cases rest with
  | nil =>
      refine ⟨fun same => congrArg some ?_, trivial⟩
      exact eq_of_at?_nil (relationBelow graph relation value) isOwn isOther inLeft inRight same
  | cons next others =>
      obtain ⟨insideLeft, nextLeft, _⟩ := Selection.at?_cons_eq_some.mp inLeft
      obtain ⟨insideRight, nextRight, _⟩ := Selection.at?_cons_eq_some.mp inRight
      obtain ⟨target, known, nodes, isReferred, madeLeft⟩ :=
        relationBelow_ok (Selection.isLeaf_of_lookup nextLeft) isOwn
      obtain ⟨_, knownAgain, _, isReferredAgain, madeRight⟩ :=
        relationBelow_ok (Selection.isLeaf_of_lookup nextRight) isOther
      -- both selections follow the relation, and to the same nodes
      cases known.symm.trans knownAgain
      cases isReferred.symm.trans isReferredAgain
      have legalTarget := legal target (Graph.mem_of_collection known)
      rw [if_neg (List.cons_ne_nil next others), cardinality_of_referred isReferred, known]
      rcases nodes with (_ | found) | nodes
      · cases madeLeft
        cases madeRight
        exact ⟨fun _ => rfl, Dependence.keeps_of_eq rfl _⟩
      · obtain ⟨heldLeft, isLeft, rfl⟩ := map_eq_ok.mp madeLeft
        obtain ⟨heldRight, isRight, rfl⟩ := map_eq_ok.mp madeRight
        exact keepsRest legalTarget.shape legalTarget.relations isLeft isRight inLeft inRight
      · obtain ⟨outsLeft, rfl, areLeft⟩ := madeLeft
        obtain ⟨outsRight, rfl, areRight⟩ := madeRight
        have same : (Value.array outsLeft).follow? (next :: others) =
            (Value.array outsRight).follow? (next :: others) :=
          (follow?_nodes legalTarget nextLeft areLeft).trans
            (follow?_nodes legalTarget nextRight areRight).symm
        exact ⟨fun _ => same, same⟩

private theorem keeps_object {next : String} (keepsRest : KeepsAt graph (next :: rest))
    (legalShape : Every LegalNames (.object shape))
    (isOwn : byKind graph typeName left (.object shape) value parent = .ok own)
    (isOther : byKind graph typeName right (.object shape) value parent = .ok other)
    (inLeft : left.at? (next :: rest) = some belowLeft)
    (inRight : right.at? (next :: rest) = some belowRight) :
    (belowLeft = belowRight -> own.follow? (next :: rest) = other.follow? (next :: rest)) ∧
      (graph.dependence (next :: rest) shape []).Keeps (own.follow? (next :: rest))
        (other.follow? (next :: rest)) := by
  obtain ⟨insideLeft, nextLeft, _⟩ := Selection.at?_cons_eq_some.mp inLeft
  obtain ⟨insideRight, nextRight, _⟩ := Selection.at?_cons_eq_some.mp inRight
  rcases ofKind_object_ok isOwn with ⟨notObject, rfl⟩ | ⟨held, rfl, enteredLeft⟩
  · rcases ofKind_object_ok isOther with ⟨_, rfl⟩ | ⟨held, isHeld, _⟩
    · exact ⟨fun _ => rfl, Dependence.keeps_of_eq rfl _⟩
    · exact absurd isHeld (notObject held)
  · rcases ofKind_object_ok isOther with ⟨notObject, rfl⟩ | ⟨_, isHeld, enteredRight⟩
    · exact absurd rfl (notObject held)
    · cases isHeld
      rw [if_pos (Selection.isSome_head?_of_lookup nextLeft)] at enteredLeft
      rw [if_pos (Selection.isSome_head?_of_lookup nextRight)] at enteredRight
      obtain ⟨outLeft, isLeft, rfl⟩ := enterBelow_ok enteredLeft
      obtain ⟨outRight, isRight, rfl⟩ := enterBelow_ok enteredRight
      exact keepsRest legalShape (List.forall_mem_nil _) isLeft isRight inLeft inRight

private theorem keeps_kind (keepsRest : KeepsAt graph rest) (legalKind : Every LegalNames kind)
    (isOwn : byKind graph typeName left kind value parent = .ok own)
    (isOther : byKind graph typeName right kind value parent = .ok other)
    (inLeft : left.at? rest = some belowLeft) (inRight : right.at? rest = some belowRight) :
    (belowLeft = belowRight -> own.follow? rest = other.follow? rest) ∧
      (Dependence.ofKind (fun inner => graph.dependence rest inner []) rest kind).Keeps
        (own.follow? rest) (other.follow? rest) := by
  cases rest with
  | nil =>
      have same_of_same (same : belowLeft = belowRight) : own = other :=
        eq_of_at?_nil (byKind graph typeName · kind value parent) isOwn isOther inLeft inRight same
      refine ⟨fun same => congrArg some (same_of_same same), ?_⟩
      by_cases holdsObjects : ∃ shape, kind.core = .object shape
      · obtain ⟨shape, isCore⟩ := holdsObjects
        have isInside : Dependence.ofKind (fun inner => graph.dependence [] inner []) [] kind =
            .inside := Dependence.ofKind_nil (fun _ => rfl) kind isCore
        rw [isInside]
        exact congrArg some (outline_eq isOwn isOther)
      · -- neither projection enters an object where the kind has none
        have same : own = other :=
          eq_of_refuses (fun shape isCore => absurd ⟨shape, isCore⟩ holdsObjects) isOwn isOther
        exact Dependence.keeps_of_eq (congrArg some same) _
  | cons next others =>
      by_cases isObject : ∃ shape, kind = .object shape
      · obtain ⟨shape, rfl⟩ := isObject
        exact keeps_object keepsRest legalKind isOwn isOther inLeft inRight
      · obtain ⟨insideLeft, nextLeft, _⟩ := Selection.at?_cons_eq_some.mp inLeft
        obtain ⟨insideRight, nextRight, _⟩ := Selection.at?_cons_eq_some.mp inRight
        have same : own.follow? (next :: others) = other.follow? (next :: others) :=
          follow?_of_not_object (fun shape isShape => isObject ⟨shape, isShape⟩) legalKind nextLeft
            nextRight isOwn isOther
        exact ⟨fun _ => same, Dependence.keeps_of_eq same _⟩

/-- What two projections of an object hold at a path that both select is the same but for what hangs
on the selections below it, and is just the same where these are the same. -/
theorem keepsAt (legal : graph.LegalNames) (path : Value.Path) : KeepsAt graph path := by
  induction path with
  | nil =>
      intro typeName shape relations raw left right belowLeft belowRight outLeft outRight _ _ isLeft
        isRight inLeft inRight
      have same_of_same (same : belowLeft = belowRight) : outLeft = outRight :=
        eq_of_at?_nil (fields graph typeName shape relations raw ·.fields) isLeft isRight inLeft
          inRight same
      exact ⟨fun same => congrArg (some ∘ Value.object) (same_of_same same), rfl⟩
  | cons step rest inductionHypothesis =>
      intro typeName shape relations raw left right belowLeft belowRight outLeft outRight legalShape
        legalRelations isLeft isRight inLeft inRight
      obtain ⟨insideLeft, stepLeft, restLeft⟩ := Selection.at?_cons_eq_some.mp inLeft
      obtain ⟨insideRight, stepRight, restRight⟩ := Selection.at?_cons_eq_some.mp inRight
      obtain ⟨own, foundLeft, isOwn⟩ := exists_projected isLeft stepLeft
      obtain ⟨other, foundRight, isOther⟩ := exists_projected isRight stepRight
      have entered {out : Object} {value : Value} (found : Object.find? out step = some value) :
          (Value.object out).follow? (step :: rest) = value.follow? rest := by
        rw [Value.follow?, Value.step?, found, Option.bind_some]
      rw [entered foundLeft, entered foundRight, Graph.dependence]
      unfold one at isOwn isOther
      cases isRelation : Collection.relation? relations step with
      | some relation =>
          rw [isRelation] at isOwn isOther
          exact keeps_relation legal inductionHypothesis isOwn isOther restLeft restRight
      | none =>
          rw [isRelation] at isOwn isOther
          dsimp only at isOwn isOther ⊢
          split at isOwn
          · next isName =>
              rw [if_pos isName] at isOther ⊢
              have same : own = other := Except.ok.inj (isOwn.symm.trans isOther)
              subst same
              exact ⟨fun _ => rfl, rfl⟩
          · next noName =>
              rw [if_neg noName] at isOther ⊢
              cases isField : shape.field? step with
              | none =>
                  rw [isField] at isOwn
                  cases isOwn
              | some field =>
                  rw [isField] at isOwn isOther
                  exact keeps_kind inductionHypothesis (legalShape.of_field? isField) isOwn isOther
                    restLeft restRight

end Projection

end ContentGraph
