import ContentGraph.Proofs.Filter.Selection
import ContentGraph.Proofs.Graph.Projection
import ContentGraph.Proofs.Graph.RelationCompleteness
import ContentGraph.Proofs.Shape.Invariant

/-!
Contract: filters that mention only fields that there are, and what the others meet.

Owns:
- `Known`, an outcome that does not report an unknown field, and how steps in turn keep it;
- `Graph.Mentions`, a path that leads through fields, relations and the name of a collection;
- `Graph.LeadsAlong`, content that leads along a path as far as its names are known, and
  `Graph.Meets`, content that does so along a path of a selection that is not mentioned;
- `Selection.Holds`, the paths of a selection, and those that an insertion adds;
- `Projection.meets_of_unknownField` and `Graph.meets_of_passing`: projections and filters report an
  unknown field only where they meet one, unless a computed field does;
- `Graph.known_passing`: filters over mentioned paths report none.
-/

namespace ContentGraph

open ContentGraph.Json ContentGraph.Filter

/-! ### Outcomes -/

/-- An outcome that does not report an unknown field. -/
def Known {Outcome : Type} (outcome : Except Failure Outcome) : Prop :=
  ∀ typeName field, outcome ≠ .error (.unknownField typeName field)

namespace Known

variable {Source Target : Type}

theorem ok (outcome : Target) : Known (.ok outcome) := by
  intro typeName field isError
  cases isError

theorem bind {step : Except Failure Source} {next : Source -> Except Failure Target}
    (known : Known step) (knownNext : ∀ source, step = .ok source -> Known (next source)) :
    Known (step >>= next) := by
  intro typeName field isError
  rcases bind_eq_error.mp isError with isFirst | ⟨source, isSource, isNext⟩
  · exact known typeName field isFirst
  · exact knownNext source isSource typeName field isNext

theorem map {step : Except Failure Source} (known : Known step) (wrap : Source -> Target) :
    Known (step.map wrap) := by
  cases step with
  | error failure =>
      intro typeName field isError
      cases isError
      exact known typeName field rfl
  | ok source => exact ok _

theorem mapM {step : Source -> Except Failure Target} {sources : List Source}
    (known : ∀ source ∈ sources, Known (step source)) : Known (sources.mapM step) := by
  induction sources with
  | nil => exact ok []
  | cons first rest inductionHypothesis =>
      obtain ⟨knownFirst, knownRest⟩ := List.forall_mem_cons.mp known
      rw [List.mapM_cons]
      refine knownFirst.bind fun target _ => ?_
      exact (inductionHypothesis knownRest).bind fun targets _ => ok _

end Known

/-! ### Paths -/

/-- A kind below which a path may go on: through an object, or into a value whose fields are not
looked at. -/
def Kind.AllowsBelow (inside : Shape -> Prop) : Kind -> Prop
  | .list element => AllowsBelow inside element
  | .object shape => inside shape
  | .resolved _ | .scalar .json => True
  | .unknown | .scalar _ => False

/-- A value that leads on by its kind: as an object, or with one of its items.  Below any other kind
no names are known. -/
def Kind.LeadsBelow (inside : Shape -> Value -> Prop) : Kind -> Value -> Prop
  | .object shape, value => value.isObject = true ∧ inside shape value
  | .list element, value =>
      value ≠ .null ∧ ∃ item ∈ Output.itemsOf value, LeadsBelow inside element item
  | _, _ => True

/-- The nodes that a relation refers to. -/
def Projection.Referred.nodes : Referred -> List Value
  | .one node => node.toList
  | .many nodes => nodes

/-- A computed field that never reports an unknown field. -/
def Kind.Quiet : Kind -> Prop
  | .resolved resolver => ∀ value parent arguments, Known (resolver.resolve value parent arguments)
  | _ => True

theorem Kind.allowsBelow_imp {inside other : Shape -> Prop}
    (weaker : ∀ shape, inside shape -> other shape) :
    ∀ kind : Kind, kind.AllowsBelow inside -> kind.AllowsBelow other
  | .list element, allowed => allowsBelow_imp weaker element allowed
  | .object shape, allowed => weaker shape allowed
  | .resolved _, _ => trivial
  | .scalar .json, _ => trivial
  | .scalar .string, impossible | .scalar .int, impossible | .scalar .float, impossible
  | .scalar .boolean, impossible | .unknown, impossible => impossible.elim

namespace Graph

/-- A path that mentions only what there is: relations and what their targets have, the name of the
collection, and fields of the shape at every level. -/
def Mentions (graph : Graph) : List String -> Shape -> List Relation -> Prop
  | [], _, _ => True
  | name :: rest, shape, relations =>
      match Collection.relation? relations name with
      | some relation => rest = [] ∨ ∀ target, graph.collection relation.target = .ok target ->
          Mentions graph rest target.shape target.relations
      | none => name = "_collection" ∨ ∃ field, shape.field? name = some field ∧
          (rest = [] ∨ field.kind.AllowsBelow fun inner => Mentions graph rest inner [])

/-- Content leads along a path as far as its names are known: every relation on the way refers to a
node that leads on, every list has an item that does, and every object of the shape is one. -/
def LeadsAlong (graph : Graph) : Value.Path -> Shape -> List Relation -> Value -> Prop
  | [], _, _, _ => True
  | name :: rest, shape, relations, raw =>
      match Collection.relation? relations name with
      | some relation => rest = [] ∨ ∃ target nodes,
          graph.collection relation.target = .ok target ∧
            Projection.referred graph relation (relation.value raw) = .ok nodes ∧
            ∃ node ∈ nodes.nodes, LeadsAlong graph rest target.shape target.relations node
      | none =>
          match shape.field? name with
          | some field => rest = [] ∨ field.kind.LeadsBelow
              (fun inner value => LeadsAlong graph rest inner [] value)
              ((raw.field? field.sourceKey).getD .null)
          | none => True

/-- No computed field of the graph reports an unknown field. -/
def Quiet (graph : Graph) : Prop :=
  ∀ collection ∈ graph.collections, Kind.Every Kind.Quiet (.object collection.shape)

end Graph

namespace Filter.Selection

/-- The paths of a selection. -/
def Holds : Selection -> List String -> Prop
  | _, [] => True
  | selection, name :: rest => ∃ below, (name, below) ∈ selection.fields ∧ below.Holds rest

theorem mk_fields (selection : Selection) : Selection.mk selection.fields = selection := by
  cases selection
  rfl

private theorem mem_set {name : String} {below : Selection} {fields : List (String × Selection)}
    {entry : String × Selection} (member : entry ∈ set name below fields) :
    entry = (name, below) ∨ entry ∈ fields := by
  induction fields with
  | nil => exact .inl (List.mem_singleton.mp member)
  | cons first rest inductionHypothesis =>
      obtain ⟨field, old⟩ := first
      rw [set] at member
      split at member
      · next same =>
          subst same
          exact (List.mem_cons.mp member).imp_right (List.mem_cons_of_mem _)
      · rcases List.mem_cons.mp member with rfl | inRest
        · exact .inr List.mem_cons_self
        · exact (inductionHypothesis inRest).imp_right (List.mem_cons_of_mem _)

/-- An insertion adds the inserted path and the paths above it only. -/
theorem holds_insert {selection : Selection} {path query : List String}
    (held : (selection.insert path).Holds query) : selection.Holds query ∨ query <+: path := by
  induction path generalizing selection query with
  | nil => exact .inl held
  | cons name rest inductionHypothesis =>
      cases query with
      | nil => exact .inl trivial
      | cons step others =>
          obtain ⟨below, member, inside⟩ := held
          rcases mem_set member with isInserted | isOld
          · cases isInserted
            rcases inductionHypothesis inside with inChild | isPrefix
            · cases found : selection.fields.lookup name with
              | some old =>
                  rw [child, found] at inChild
                  obtain ⟨before, later, isSplit, _⟩ := List.lookup_eq_some_iff.mp found
                  have isHeld : (name, old) ∈ selection.fields :=
                    isSplit ▸ List.mem_append_right _ List.mem_cons_self
                  exact .inl ⟨old, isHeld, inChild⟩
              | none =>
                  rw [child, found] at inChild
                  cases others with
                  | nil => exact .inr (by simp)
                  | cons next later =>
                      obtain ⟨_, impossible, _⟩ := inChild
                      cases impossible
            · exact .inr (List.cons_prefix_cons.mpr ⟨rfl, isPrefix⟩)
          · exact .inl ⟨below, isOld, inside⟩

private theorem holds_foldl {selection : Selection} {manifest : Manifest} {query : List String}
    (held : (manifest.foldl (fun selection entry => selection.insert entry.path) selection).Holds
      query) : selection.Holds query ∨ ∃ entry ∈ manifest, query <+: entry.path := by
  induction manifest generalizing selection with
  | nil => exact .inl held
  | cons first rest inductionHypothesis =>
      rcases inductionHypothesis held with inFirst | ⟨entry, member, isPrefix⟩
      · rcases holds_insert inFirst with before | isPrefix
        · exact .inl before
        · exact .inr ⟨first, List.mem_cons_self, isPrefix⟩
      · exact .inr ⟨entry, List.mem_cons_of_mem _ member, isPrefix⟩

/-- The selection of a filter holds the paths of its comparators and the reference field, with the
paths above these, and no others. -/
theorem holds_ofManifest {manifest : Manifest} {referenceField : String} {query : List String}
    (held : (ofManifest manifest referenceField).Holds query) :
    query <+: [referenceField] ∨ ∃ entry ∈ manifest, query <+: entry.path := by
  rcases holds_foldl held with inStart | isPath
  · rcases holds_insert inStart with inEmpty | isPrefix
    · cases query with
      | nil => exact .inl List.nil_prefix
      | cons step rest =>
          obtain ⟨_, impossible, _⟩ := inEmpty
          cases impossible
    · exact .inl isPrefix
  · exact .inr isPath

end Filter.Selection

namespace Graph

variable {graph : Graph}

/-- What lies above a mentioned path is mentioned. -/
theorem Mentions.shorten {query path : List String} (isPrefix : query <+: path) :
    ∀ {shape : Shape} {relations : List Relation}, graph.Mentions path shape relations ->
      graph.Mentions query shape relations := by
  induction query generalizing path with
  | nil => exact fun _ => trivial
  | cons name rest inductionHypothesis =>
      intro shape relations mentions
      obtain ⟨later, rfl⟩ := isPrefix
      have isRest : rest <+: rest ++ later := List.prefix_append rest later
      rw [List.cons_append] at mentions
      unfold Mentions at mentions ⊢
      split
      · next relation isRelation =>
          rw [isRelation] at mentions
          rcases mentions with isEnd | target
          · exact .inl (List.append_eq_nil_iff.mp isEnd).1
          · exact .inr fun found known => inductionHypothesis isRest (target found known)
      · next noRelation =>
          rw [noRelation] at mentions
          refine mentions.imp_right ?_
          rintro ⟨field, found, isEnd | below⟩
          · exact ⟨field, found, .inl (List.append_eq_nil_iff.mp isEnd).1⟩
          · refine ⟨field, found, .inr ?_⟩
            exact field.kind.allowsBelow_imp (fun _ => inductionHypothesis isRest) below

theorem known_collection (name : String) : Known (graph.collection name) := by
  intro typeName field isError
  unfold collection at isError
  split at isError <;> cases isError

theorem known_referred (relation : Relation) (value : Value) :
    Known (Projection.referred graph relation value) := by
  unfold Projection.referred
  split
  · split
    · refine Known.map ?_ _
      intro typeName field isError
      unfold findByReference at isError
      have known := graph.known_collection relation.target
      split at isError
      · cases isError
      · next failure isFailure =>
          cases isError
          exact known typeName field isFailure
    · exact .ok _
  · refine Known.map ?_ _
    intro typeName field isError
    unfold findMany at isError
    have known := graph.known_collection relation.target
    split at isError
    · cases isError
    · next failure isFailure =>
        cases isError
        exact known typeName field isFailure

end Graph

/-! ### What a projection that reports an unknown field met -/

namespace Graph

/-- Content leads along a path of a selection on which not all names are there. -/
def Meets (graph : Graph) (selection : Selection) (shape : Shape) (relations : List Relation)
    (raw : Value) : Prop :=
  ∃ path, selection.Holds path ∧ ¬ graph.Mentions path shape relations ∧
    graph.LeadsAlong path shape relations raw

end Graph

namespace Projection

variable {graph : Graph} {typeName : String} {shape : Shape} {relations : List Relation}
  {raw : Value} {owner unknown name : String} {below rest : List (String × Selection)}

/-- The projection of a value by its kind reports an unknown field for a path below that its kind
does not allow and that the value leads along, if entering objects does. -/
private theorem exists_path_of_ofKind {enter : Shape -> Value -> Except Failure Value}
    {firstBelow : Option String} {isSelected : Value.Path -> Prop}
    {mentions : Value.Path -> Shape -> Prop} {leads : Value.Path -> Shape -> Value -> Prop}
    (isFirst : ∀ first, firstBelow = some first -> isSelected [first])
    (entered : ∀ shape value, Kind.Every Kind.Quiet (.object shape) ->
      enter shape value = .error (.unknownField owner unknown) ->
        ∃ path, isSelected path ∧ ¬ mentions path shape ∧ leads path shape value) :
    ∀ (kind : Kind) (value parent : Value), Kind.Every Kind.Quiet kind ->
      ofKind enter typeName firstBelow kind value parent = .error (.unknownField owner unknown) ->
      ∃ path, isSelected path ∧ ¬ kind.AllowsBelow (mentions path) ∧
        kind.LeadsBelow (leads path) value
  | .resolved _, value, parent, quiet, failed =>
      absurd failed (quiet value parent _ owner unknown)
  | .object shape, value, _, quiet, failed => by
      cases value with
      | object held =>
          rw [ofKind] at failed
          split at failed
          · obtain ⟨path, selected, unmentioned, leads⟩ := entered shape _ quiet failed
            exact ⟨path, selected, unmentioned, rfl, leads⟩
          · cases failed
      | _ => cases failed
  | .list element, value, parent, quiet, failed => by
      by_cases isNull : value = .null
      · subst isNull
        cases failed
      · rw [ofKind_list isNull, map_eq_error] at failed
        obtain ⟨item, member, failedItem⟩ := exists_error_of_mapM failed
        obtain ⟨path, selected, unmentioned, leads⟩ :=
          exists_path_of_ofKind isFirst entered element item item quiet.2 failedItem
        exact ⟨path, selected, unmentioned, isNull, item, member, leads⟩
  | .scalar .json, _, _, _, failed => by cases failed
  | .scalar .string, _, _, _, failed | .scalar .int, _, _, _, failed
  | .scalar .float, _, _, _, failed | .scalar .boolean, _, _, _, failed
  | .unknown, _, _, _, failed => by
      cases isBelow : firstBelow with
      | none =>
          rw [isBelow] at failed
          cases failed
      | some first =>
          rw [isBelow] at failed
          cases failed
          exact ⟨[unknown], isFirst unknown isBelow, id, trivial⟩

/-- The projection of a relation reports an unknown field with that of a node it refers to. -/
private theorem exists_node_of_relationBelow {relation : Relation} {value : Value}
    {selection : Selection} (failed : relationBelow graph relation value selection =
      .error (.unknownField owner unknown)) :
    ∃ target nodes, graph.collection relation.target = .ok target ∧
      referred graph relation value = .ok nodes ∧ ∃ found ∈ nodes.nodes,
        node graph target found selection = .error (.unknownField owner unknown) := by
  unfold relationBelow at failed
  split at failed
  · cases failed
  · rcases bind_eq_error.mp failed with failedTarget | ⟨target, isTarget, failedNodes⟩
    · exact absurd failedTarget (graph.known_collection _ owner unknown)
    · rcases bind_eq_error.mp failedNodes with failedNodes | ⟨nodes, isReferred, failedBelow⟩
      · exact absurd failedNodes (Graph.known_referred _ _ owner unknown)
      · refine ⟨target, nodes, isTarget, isReferred, ?_⟩
        rcases nodes with (_ | found) | nodes
        · cases failedBelow
        · exact ⟨found, List.mem_cons_self, failedBelow⟩
        · exact exists_error_of_mapM (map_eq_error.mp failedBelow)

/-- A projection of a selection that reports an unknown field met an unknown name of it. -/
def ReportsMet (graph : Graph) (selected : List (String × Selection)) : Prop :=
  ∀ {typeName : String} {shape : Shape} {relations : List Relation} {raw : Value}
    {owner unknown : String}, Kind.Every Kind.Quiet (.object shape) ->
    fields graph typeName shape relations raw selected = .error (.unknownField owner unknown) ->
    graph.Meets (.mk selected) shape relations raw

private theorem meets_relation {relation : Relation} (quiet : graph.Quiet)
    (reports : ReportsMet graph below)
    (isRelation : Collection.relation? relations name = some relation)
    (failed : relationBelow graph relation (relation.value raw) (.mk below) =
      .error (.unknownField owner unknown)) :
    graph.Meets (.mk ((name, .mk below) :: rest)) shape relations raw := by
  obtain ⟨target, nodes, known, isReferred, found, isFound, failedNode⟩ :=
    exists_node_of_relationBelow failed
  obtain ⟨path, held, unmentioned, leads⟩ :=
    reports (quiet target (Graph.mem_of_collection known)) (map_eq_error.mp failedNode)
  refine ⟨name :: path, ⟨.mk below, List.mem_cons_self, held⟩, ?_, ?_⟩
  · rw [Graph.Mentions, isRelation]
    rintro (rfl | mentions)
    · exact unmentioned trivial
    · exact unmentioned (mentions target known)
  · rw [Graph.LeadsAlong, isRelation]
    exact .inr ⟨target, nodes, known, isReferred, found, isFound, leads⟩

private theorem meets_field {field : Field} {nested : String} (reports : ReportsMet graph below)
    (noRelation : Collection.relation? relations name = none) (noName : name ≠ "_collection")
    (isField : shape.field? name = some field) (quiet : Kind.Every Kind.Quiet field.kind)
    (failed : ofKind (enterBelow graph nested (.mk below)) nested (below.head?.map Prod.fst)
      field.kind ((raw.field? field.sourceKey).getD .null) raw =
        .error (.unknownField owner unknown)) :
    graph.Meets (.mk ((name, .mk below) :: rest)) shape relations raw := by
  have isFirst (first : String) (isHead : below.head?.map Prod.fst = some first) :
      [first] ≠ [] ∧ (Selection.mk below).Holds [first] := by
    cases below with
    | nil => cases isHead
    | cons entry others =>
        cases isHead
        exact ⟨List.cons_ne_nil _ _, entry.2, List.mem_cons_self, trivial⟩
  have entered (inner : Shape) (value : Value) (quiet : Kind.Every Kind.Quiet (.object inner))
      (failed : enterBelow graph nested (.mk below) inner value =
        .error (.unknownField owner unknown)) :
      ∃ path, (path ≠ [] ∧ (Selection.mk below).Holds path) ∧
        ¬ graph.Mentions path inner [] ∧ graph.LeadsAlong path inner [] value := by
    obtain ⟨path, held, unmentioned, leads⟩ := reports quiet (map_eq_error.mp failed)
    refine ⟨path, ⟨?_, held⟩, unmentioned, leads⟩
    rintro rfl
    exact unmentioned trivial
  obtain ⟨path, ⟨goesOn, held⟩, unmentioned, leads⟩ :=
    exists_path_of_ofKind isFirst entered field.kind _ raw quiet failed
  refine ⟨name :: path, ⟨.mk below, List.mem_cons_self, held⟩, ?_, ?_⟩
  · rw [Graph.Mentions, noRelation]
    rintro (isName | ⟨_, isOther, isEnd | mentions⟩)
    · exact noName isName
    · exact goesOn isEnd
    · cases isField.symm.trans isOther
      exact unmentioned mentions
  · rw [Graph.LeadsAlong, noRelation, isField]
    exact .inr leads

private theorem meets_absent (noRelation : Collection.relation? relations name = none)
    (noName : name ≠ "_collection") (noField : shape.field? name = none) :
    graph.Meets (.mk ((name, .mk below) :: rest)) shape relations raw := by
  refine ⟨[name], ⟨.mk below, List.mem_cons_self, trivial⟩, ?_, ?_⟩
  · rw [Graph.Mentions, noRelation]
    rintro (isName | ⟨_, isField, _⟩)
    · exact noName isName
    · cases noField.symm.trans isField
  · rw [Graph.LeadsAlong, noRelation, noField]
    trivial

/-- What meets an unknown name of some fields meets one of more fields. -/
private theorem meets_cons {entry : String × Selection}
    (meets : graph.Meets (.mk rest) shape relations raw) :
    graph.Meets (.mk (entry :: rest)) shape relations raw := by
  obtain ⟨path, held, unmentioned, leads⟩ := meets
  refine ⟨path, ?_, unmentioned, leads⟩
  cases path with
  | nil => trivial
  | cons step others =>
      obtain ⟨inner, member, inside⟩ := held
      exact ⟨inner, List.mem_cons_of_mem _ member, inside⟩

/-- A projection that reports an unknown field met an unknown name of its selection, where no
computed field reports one. -/
theorem meets_of_unknownField (quiet : graph.Quiet) :
    ∀ selected : List (String × Selection), ReportsMet graph selected
  | [] => by
      intro _ failed
      rw [fields] at failed
      cases failed
  | (name, .mk below) :: rest => by
      intro quietShape failed
      have reportsBelow : ReportsMet graph below := meets_of_unknownField quiet below
      rw [fields_cons, bind_eq_error] at failed
      rcases failed with failedOne | ⟨_, _, failedRest⟩
      · unfold one at failedOne
        split at failedOne
        · next relation isRelation => exact meets_relation quiet reportsBelow isRelation failedOne
        · next noRelation =>
            split at failedOne
            · cases failedOne
            · next noName =>
                split at failedOne
                · next noField => exact meets_absent noRelation noName noField
                · next field isField =>
                    exact meets_field reportsBelow noRelation noName isField
                      (quietShape.of_field? isField) failedOne
      · exact meets_cons
          (meets_of_unknownField quiet rest quietShape (bind_ok_eq_error.mp failedRest))

end Projection

/-! ### Filters -/

namespace Graph

variable {graph : Graph} {collection : Collection} {filter : Value}
  {name owner unknown : String}

theorem known_ofManifest (entries : Manifest) : Known (Sift.ofManifest entries) := by
  refine Known.mapM fun entry _ => Known.bind ?_ fun _ _ => .ok _
  intro typeName field isError
  unfold Comparator.ofOperation at isError
  split at isError <;> try cases isError
  · split at isError
    · split at isError <;> cases isError
    · cases isError
  · split at isError <;> cases isError

theorem known_comparator (comparator : Comparator) (held : Option Value) :
    Known (comparator.test held) := by
  intro typeName field isError
  unfold Comparator.test at isError
  split at isError
  case h_1 | h_2 => cases isError
  all_goals split at isError <;> cases isError

theorem known_test (sift : Sift) (node : Value) : Known (sift.test node) := by
  induction sift with
  | nil => exact .ok _
  | cons predicate rest inductionHypothesis =>
      unfold Sift.test
      cases tested : predicate.test node with
      | error failure =>
          intro typeName field isError
          cases isError
          exact known_comparator _ _ typeName field tested
      | ok passes =>
          cases passes
          · exact .ok _
          · exact inductionHypothesis

private theorem meets_of_passingKeys (quiet : graph.Quiet) (member : collection ∈ graph.collections)
    {sift : Sift} {selection : Selection} {nodes : List Value}
    (failed : graph.passingKeys collection sift selection nodes =
      .error (.unknownField owner unknown)) :
    ∃ node ∈ nodes, graph.Meets selection collection.shape collection.relations node := by
  induction nodes with
  | nil => cases failed
  | cons node rest inductionHypothesis =>
      rw [passingKeys, bind_eq_error] at failed
      rcases failed with failedNode | ⟨projected, _, failedLater⟩
      · have meets := Projection.meets_of_unknownField quiet selection.fields
          (quiet collection member) (map_eq_error.mp failedNode)
        rw [Selection.mk_fields] at meets
        exact ⟨node, List.mem_cons_self, meets⟩
      · rcases bind_eq_error.mp failedLater with failedTest | ⟨_, _, failedRest⟩
        · exact absurd failedTest (known_test sift projected owner unknown)
        · obtain ⟨other, isRest, meets⟩ := inductionHypothesis (bind_ok_eq_error.mp failedRest)
          exact ⟨other, List.mem_cons_of_mem _ isRest, meets⟩

/-- A filter that reports an unknown field met one at some node of the collection. -/
theorem meets_of_passing (quiet : graph.Quiet) (known : graph.collection name = .ok collection)
    (failed : graph.passing filter name = .error (.unknownField owner unknown)) :
    ∃ node ∈ graph.nodes name, graph.Meets (collection.selection (manifest filter))
      collection.shape collection.relations node := by
  rw [passing, known] at failed
  rcases bind_eq_error.mp failed with impossible | ⟨_, same, failedLater⟩
  · cases impossible
  · cases same
    rcases bind_eq_error.mp failedLater with failedSift | ⟨sift, _, failedKeys⟩
    · exact absurd failedSift (known_ofManifest _ owner unknown)
    · exact meets_of_passingKeys quiet (mem_of_collection known) failedKeys

/-- A filter of a collection that mentions only what there is reports no unknown field, where the
graph name of the reference field is a field of the shape: that field is always looked at. -/
theorem known_passing (quiet : graph.Quiet)
    (known : graph.collection collection.name = .ok collection)
    (isField : (collection.shape.field? collection.referenceFieldName).isSome = true)
    (mentions : ∀ entry ∈ manifest filter,
      graph.Mentions entry.path collection.shape collection.relations) :
    Known (graph.passing filter collection.name) := by
  have mentionsReference : graph.Mentions [collection.referenceFieldName] collection.shape
      collection.relations := by
    obtain ⟨field, found⟩ := Option.isSome_iff_exists.mp isField
    rw [Mentions]
    split
    · exact .inl rfl
    · exact .inr ⟨field, found, .inl rfl⟩
  intro owner unknown failed
  obtain ⟨node, _, path, held, unmentioned, _⟩ := meets_of_passing quiet known failed
  refine unmentioned ?_
  rcases Selection.holds_ofManifest held with isReference | ⟨entry, member, isPrefix⟩
  · exact mentionsReference.shorten isReference
  · exact (mentions entry member).shorten isPrefix

end Graph

end ContentGraph
