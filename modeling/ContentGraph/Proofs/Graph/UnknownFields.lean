import ContentGraph.Proofs.Graph.FilteredListing
import ContentGraph.Proofs.Graph.MentionedFields
import ContentGraph.Proofs.Graph.ProjectedPaths
import ContentGraph.Proofs.Graph.RelatedListing
import ContentGraph.Proofs.Graph.RelationFilter

/-!
Contract: when a filter reports an unknown field.

Owns:
- `Projection.mentions_of_ok`: a projection that succeeds mentions all that it meets;
- `Graph.passing_unknownField_iff`: a filter reports an unknown field exactly where it meets one;
- `Graph.unknownField_alike`: over which stores it does;
- `Graph.unknownField_differs`: over some stores of the same collections it does, over others not.
-/

namespace ContentGraph

open ContentGraph.Json ContentGraph.Filter

/-! ### What a projection that succeeds did not meet -/

namespace Projection

variable {graph : Graph} {typeName : String}

private theorem allowsBelow_of_ofKind {enter : Shape -> Value -> Except Failure Value}
    {firstBelow : Option String} {mentions : Shape -> Prop} {leads : Shape -> Value -> Prop}
    (someBelow : firstBelow.isSome = true)
    (entered : ∀ shape value projected, enter shape value = .ok projected -> leads shape value ->
      mentions shape) :
    ∀ (kind : Kind) (value parent projected : Value),
      ofKind enter typeName firstBelow kind value parent = .ok projected ->
      kind.LeadsBelow leads value -> kind.AllowsBelow mentions
  | .resolved _, _, _, _, _, _ => trivial
  | .scalar form, _, _, _, isProjected, _ => by
      cases form with
      | json => trivial
      | _ =>
          rw [(ofKind_scalar_ok isProjected).2 nofun] at someBelow
          cases someBelow
  | .unknown, _, _, _, isProjected, _ => by
      rw [(ofKind_unknown_ok isProjected).2] at someBelow
      cases someBelow
  | .object shape, value, _, _, isProjected, ⟨isObject, leads⟩ => by
      rcases ofKind_object_ok isProjected with ⟨notObject, _⟩ | ⟨held, rfl, isEntered⟩
      · cases value with
        | object held => exact absurd rfl (notObject held)
        | _ => cases isObject
      · rw [if_pos someBelow] at isEntered
        exact entered shape _ _ isEntered leads
  | .list element, value, _, _, isProjected, ⟨notNull, item, member, leads⟩ => by
      rcases ofKind_list_ok isProjected with ⟨isNull, _⟩ | ⟨_, outs, _, made⟩
      · exact absurd isNull notNull
      · obtain ⟨out, _, isOut⟩ := exists_target_of_mem made member
        exact allowsBelow_of_ofKind someBelow entered element item item out isOut leads

private theorem fields_ne_nil_of_holds {selection : Selection} {step : String} {rest : Value.Path}
    (held : selection.Holds (step :: rest)) : selection.fields ≠ [] := by
  obtain ⟨_, member, _⟩ := held
  exact List.ne_nil_of_mem member

/-- A projection that succeeds mentions a path that is selected and that the object leads along. -/
def MentionsMet (graph : Graph) (path : Value.Path) : Prop :=
  ∀ {typeName : String} {shape : Shape} {relations : List Relation} {raw : Value}
    {selection : Selection} {out : Object},
    fields graph typeName shape relations raw selection.fields = .ok out ->
    selection.Holds path -> graph.LeadsAlong path shape relations raw ->
    graph.Mentions path shape relations

private theorem mentions_relation {relation : Relation} {target : Collection} {nodes : Referred}
    {selection : Selection} {path : Value.Path} {found value projected : Value}
    (mentions : MentionsMet graph path) (held : selection.Holds path)
    (known : graph.collection relation.target = .ok target)
    (isReferred : referred graph relation value = .ok nodes) (isFound : found ∈ nodes.nodes)
    (leads : graph.LeadsAlong path target.shape target.relations found)
    (isProjected : relationBelow graph relation value selection = .ok projected) :
    graph.Mentions path target.shape target.relations := by
  cases path with
  | nil => trivial
  | cons step rest =>
      have notLeaf : selection.isLeaf = false := by
        simpa [Selection.isLeaf] using fields_ne_nil_of_holds held
      obtain ⟨_, knownAgain, _, isReferredAgain, made⟩ := relationBelow_ok notLeaf isProjected
      cases known.symm.trans knownAgain
      cases isReferred.symm.trans isReferredAgain
      rcases nodes with (_ | only) | nodes
      · cases isFound
      · cases List.mem_singleton.mp isFound
        obtain ⟨out, isOut, _⟩ := map_eq_ok.mp made
        exact mentions isOut held leads
      · obtain ⟨outs, _, areMade⟩ := made
        obtain ⟨projected, _, isMade⟩ := exists_target_of_mem areMade isFound
        obtain ⟨out, isOut, _⟩ := map_eq_ok.mp isMade
        exact mentions isOut held leads

private theorem mentions_field {kind : Kind} {selection : Selection} {path : Value.Path}
    {value parent projected : Value} (mentions : MentionsMet graph path)
    (held : selection.Holds path)
    (leads : path = [] ∨ kind.LeadsBelow (fun inner value => graph.LeadsAlong path inner [] value)
      value)
    (isProjected : ofKind (enterBelow graph typeName selection) typeName
      (selection.fields.head?.map Prod.fst) kind value parent = .ok projected) :
    path = [] ∨ kind.AllowsBelow fun inner => graph.Mentions path inner [] := by
  refine leads.elim .inl fun leads => ?_
  cases path with
  | nil => exact .inl rfl
  | cons step rest =>
      have someBelow : (selection.fields.head?.map Prod.fst).isSome = true := by
        simpa using fields_ne_nil_of_holds held
      refine .inr (allowsBelow_of_ofKind someBelow (fun shape value projected entered leads => ?_)
        kind value parent projected isProjected leads)
      obtain ⟨out, isOut, _⟩ := enterBelow_ok entered
      exact mentions isOut held leads

/-- A projection that succeeds met no unknown name: it mentions every path that is selected and that
the object leads along. -/
theorem mentions_of_ok (path : Value.Path) : MentionsMet graph path := by
  induction path with
  | nil => exact fun _ _ _ => trivial
  | cons name rest inductionHypothesis =>
      intro typeName shape relations raw selection out isProjected held leads
      obtain ⟨below, member, inside⟩ := held
      obtain ⟨projected, isOne⟩ := exists_fields_iff.mp ⟨out, isProjected⟩ _ member
      rw [Graph.LeadsAlong] at leads
      rw [Graph.Mentions]
      unfold one at isOne
      cases isRelation : Collection.relation? relations name with
      | some relation =>
          rw [isRelation] at isOne leads
          refine leads.imp_right ?_
          rintro ⟨target, nodes, known, isReferred, found, isFound, leads⟩ other isOther
          cases known.symm.trans isOther
          exact mentions_relation inductionHypothesis inside known isReferred isFound leads isOne
      | none =>
          rw [isRelation] at isOne leads
          by_cases isName : name = "_collection"
          · exact .inl isName
          · simp only [isName, if_false] at isOne
            cases isField : shape.field? name with
            | none =>
                rw [isField] at isOne
                cases isOne
            | some field =>
                rw [isField] at isOne leads
                exact .inr ⟨field, rfl, mentions_field inductionHypothesis inside leads isOne⟩

end Projection

/-! ### Filters -/

namespace Graph

variable {graph : Graph} {collection : Collection} {name : String} {filter : Value} {sift : Sift}

/-- A filter that fails for no other reason reports an unknown field exactly where some node of the
collection meets an unknown name of it. -/
theorem passing_unknownField_iff (quiet : graph.Quiet)
    (known : graph.collection name = .ok collection)
    (compiled : Sift.compile filter = .ok sift)
    (reports : ∀ failure, graph.passing filter name = .error failure ->
      ∃ owner unknown, failure = .unknownField owner unknown) :
    (∃ owner unknown, graph.passing filter name = .error (.unknownField owner unknown)) ↔
      ∃ node ∈ graph.nodes name, graph.Meets (collection.selection (manifest filter))
        collection.shape collection.relations node := by
  constructor
  · rintro ⟨owner, unknown, failed⟩
    exact meets_of_passing quiet known failed
  · rintro ⟨node, member, path, held, unmentioned, leads⟩
    cases isOutcome : graph.passing filter name with
    | ok keys =>
        obtain ⟨projected, isProjected, _⟩ :=
          (exists_passing_iff known compiled).mp ⟨keys, isOutcome⟩ node member
        obtain ⟨out, isOut, _⟩ := map_eq_ok.mp isProjected
        exact absurd (Projection.mentions_of_ok path isOut held leads) unmentioned
    | error failure =>
        obtain ⟨owner, unknown, rfl⟩ := reports failure isOutcome
        exact ⟨owner, unknown, rfl⟩

/-- Which names there are does not hang on the content. -/
theorem mentions_iff_of_collections {other : Graph} (same : graph.collections = other.collections)
    (path : Value.Path) : ∀ (shape : Shape) (relations : List Relation),
      graph.Mentions path shape relations ↔ other.Mentions path shape relations := by
  have sameCollection (name : String) : graph.collection name = other.collection name := by
    rw [collection, collection, collection?, collection?, same]
  induction path with
  | nil => exact fun _ _ => Iff.rfl
  | cons step rest inductionHypothesis =>
      intro shape relations
      rw [Mentions, Mentions]
      cases Collection.relation? relations step with
      | some relation => simp only [sameCollection, inductionHypothesis]
      | none => simp only [inductionHypothesis]

/-- Whether a filter reports an unknown field hangs on the content only in which of its paths with
an unknown name the nodes lead along.  Let no computed field report an unknown field, and let the
filter fail for no other reason over two stores of the same collections.  Where, for every path that
the filter looks at and on which not all names are there, some node of the collection leads along it
in one store if some node does in the other, the filter reports an unknown field over both or over
none: it does where some node leads along such a path. -/
theorem unknownField_alike (collections : List Collection) (first second : Store)
    (quiet : ∀ collection ∈ collections, Kind.Every Kind.Quiet (.object collection.shape))
    (name : String) (collection : Collection) (filter : Value) (sift : Sift)
    (compiled : Sift.compile filter = .ok sift) :
    let graph (store : Store) : Graph := { collections, store }
    let isUnknown (path : Value.Path) : Prop :=
      (collection.selection (manifest filter)).Holds path ∧
        ¬ (graph []).Mentions path collection.shape collection.relations
    let isLedAlong (store : Store) (path : Value.Path) : Prop := ∃ node ∈ store.nodes name,
      (graph store).LeadsAlong path collection.shape collection.relations node
    let reports (store : Store) : Prop := ∃ owner unknown,
      (graph store).passing filter name = .error (.unknownField owner unknown)
    (graph []).collection name = .ok collection ->
      (∀ store ∈ [first, second], ∀ failure, (graph store).passing filter name = .error failure ->
        ∃ owner unknown, failure = .unknownField owner unknown) ->
      (∀ path, isUnknown path -> (isLedAlong first path ↔ isLedAlong second path)) ->
      (reports first ↔ reports second) ∧
        (reports first ↔ ∃ path, isUnknown path ∧ isLedAlong first path) := by
  intro graph isUnknown isLedAlong reports known reportsOnly alike
  have reports_iff (store : Store) (member : store ∈ [first, second]) :
      reports store ↔ ∃ path, isUnknown path ∧ isLedAlong store path := by
    have same (path : Value.Path) := @mentions_iff_of_collections (graph store) (graph []) rfl path
      collection.shape collection.relations
    have isExact := @passing_unknownField_iff (graph store) collection name filter sift quiet known
      compiled (reportsOnly store member)
    refine isExact.trans ⟨?_, ?_⟩
    · rintro ⟨node, isNode, path, held, unmentioned, leads⟩
      exact ⟨path, ⟨held, fun mentions => unmentioned ((same path).mpr mentions)⟩, node, isNode,
        leads⟩
    · rintro ⟨path, ⟨held, unmentioned⟩, node, isNode, leads⟩
      exact ⟨node, isNode, path, held, fun mentions => unmentioned ((same path).mp mentions), leads⟩
  have isFirst := reports_iff first List.mem_cons_self
  have isSecond := reports_iff second (List.mem_cons_of_mem _ List.mem_cons_self)
  refine ⟨?_, isFirst⟩
  rw [isFirst, isSecond]
  exact exists_congr fun path => and_congr_right fun unknown => alike path unknown

open Site

/-- A filter for a name of the author of a post that authors do not have. -/
def sampleNicknames : Value :=
  eqBelow "author" "nickname" (.string "x")

/-- The comparator of `sampleNicknames`. -/
def sampleNicknameSift : Sift :=
  [⟨["author", "nickname"], .equals true (.string "x")⟩]

/-- A single post with an author, and the author, for the collections of `sampleReviews`. -/
def sampleSinglePost : Store :=
  [("Post", [.object [("id", .string "q"), ("author", .string "a")]]),
    ("Author", [.object [("id", .string "a")]])]

/-- The content of `sampleReviews` with a single post, whose author there is not. -/
def sampleOrphan : Store :=
  [("Post", [.object [("id", .string "q"), ("author", .string "z")]]),
    ("Author", [.object [("id", .string "a")]])]

private theorem quiet_sampleReviews : sampleReviewGraph.Quiet := by
  simp [Graph.Quiet, sampleReviewGraph, sampleReviewedPosts, sampleReviewers, sampleCollection,
    metadataFields, Field.unnamed, Kind.Every, Kind.EveryField, Kind.Quiet]

private theorem passing_sampleNicknames :
    ∀ store ∈ [sampleReviewGraph.store, sampleSinglePost],
      ({ sampleReviewGraph with store } : Graph).passing sampleNicknames "Post" =
        .error (.unknownField "Author" "nickname") :=
  List.forall_mem_cons.mpr ⟨by cbv, List.forall_mem_cons.mpr ⟨by cbv, List.forall_mem_nil _⟩⟩

/-- `sampleNicknames` has a single path on which a name is not there; all others lie above paths on
which all are. -/
private theorem unmentioned_sampleNicknames {path : Value.Path}
    (held : (sampleReviewedPosts.selection (manifest sampleNicknames)).Holds path)
    (unmentioned : ¬ Graph.Mentions { collections := sampleReviewGraph.collections, store := [] }
      path sampleReviewedPosts.shape sampleReviewedPosts.relations) :
    path = ["author", "nickname"] := by
  have mentionsId : Graph.Mentions { collections := sampleReviewGraph.collections, store := [] }
      ["id"] sampleReviewedPosts.shape sampleReviewedPosts.relations := .inr ⟨_, rfl, .inl rfl⟩
  have mentionsAuthor : Graph.Mentions { collections := sampleReviewGraph.collections, store := [] }
      ["author"] sampleReviewedPosts.shape sampleReviewedPosts.relations := .inl rfl
  rcases Selection.holds_ofManifest held with isReference | ⟨entry, member, isPrefix⟩
  · exact absurd (mentionsId.shorten isReference) unmentioned
  · cases List.mem_singleton.mp member
    have isBelow : path <+: ["author"] ++ ["nickname"] := isPrefix
    rcases List.prefix_concat_iff.mp isBelow with isPath | isAbove
    · exact isPath
    · exact absurd (mentionsAuthor.shorten isAbove) unmentioned

theorem unknownField_alike_sampleReviews :
    (∃ owner unknown, sampleReviewGraph.passing sampleNicknames "Post" =
        .error (.unknownField owner unknown)) ∧
      ∃ owner unknown, ({ sampleReviewGraph with store := sampleSinglePost } : Graph).passing
        sampleNicknames "Post" = .error (.unknownField owner unknown) := by
  have isLed : sampleReviewGraph.LeadsAlong ["author", "nickname"] sampleReviewedPosts.shape
      sampleReviewedPosts.relations sampleReviewedPost :=
    .inr ⟨sampleReviewers, _, rfl, rfl, _, List.mem_cons_self, trivial⟩
  have isLedSingle : ({ sampleReviewGraph with store := sampleSinglePost } : Graph).LeadsAlong
      ["author", "nickname"] sampleReviewedPosts.shape sampleReviewedPosts.relations
      (.object [("id", .string "q"), ("author", .string "a")]) :=
    .inr ⟨sampleReviewers, _, rfl, rfl, _, List.mem_cons_self, trivial⟩
  have reportsOnly (store : Store) (member : store ∈ [sampleReviewGraph.store, sampleSinglePost])
      (failure : Failure) (failed : ({ sampleReviewGraph with store } : Graph).passing
        sampleNicknames "Post" = .error failure) :
      ∃ owner unknown, failure = .unknownField owner unknown :=
    ⟨_, _, Except.error.inj (failed.symm.trans (passing_sampleNicknames store member))⟩
  obtain ⟨alike, isExact⟩ := unknownField_alike sampleReviewGraph.collections
    sampleReviewGraph.store sampleSinglePost quiet_sampleReviews "Post" sampleReviewedPosts
    sampleNicknames sampleNicknameSift rfl rfl reportsOnly fun path ⟨held, unmentioned⟩ => by
      rw [unmentioned_sampleNicknames held unmentioned]
      exact ⟨fun _ => ⟨_, List.mem_cons_self, isLedSingle⟩, fun _ => ⟨_, List.mem_cons_self, isLed⟩⟩
  have reports := isExact.mpr ⟨["author", "nickname"], ⟨?held, ?unmentioned⟩, _,
    List.mem_cons_self, isLed⟩
  exact ⟨reports, alike.mp reports⟩
  case held => exact ⟨_, List.mem_cons_of_mem _ List.mem_cons_self, _, List.mem_cons_self, trivial⟩
  case unmentioned =>
    rintro (isEnd | mentions)
    · cases isEnd
    · rcases mentions sampleReviewers rfl with isName | ⟨_, isField, _⟩
      · exact absurd isName (by decide)
      · cases isField

/-- Over collections none of which is empty, a filter reports an unknown field or succeeds, by
whether the author of a post is there. -/
theorem unknownField_differs :
    graphOf sampleReviews Content.MemoryStore.source sampleReviewStore [] = .ok sampleReviewGraph ∧
      sampleReviewGraph.Quiet ∧ Sift.compile sampleNicknames = .ok sampleNicknameSift ∧
      (∀ store ∈ [sampleReviewGraph.store, sampleOrphan],
        ∀ collection ∈ sampleReviewGraph.collections, store.nodes collection.name ≠ []) ∧
      sampleReviewGraph.passing sampleNicknames "Post" =
        .error (.unknownField "Author" "nickname") ∧
      ({ sampleReviewGraph with store := sampleOrphan } : Graph).passing sampleNicknames "Post" =
        .ok [] :=
  ⟨graphOf_sampleReviews, quiet_sampleReviews, rfl, by decide, by cbv, by cbv⟩

end Graph

end ContentGraph
