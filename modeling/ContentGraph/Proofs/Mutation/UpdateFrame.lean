import ContentGraph.Proofs.Mutation.FileFrame
import ContentGraph.Proofs.Mutation.Schedule
import ContentGraph.Proofs.Site.Loading

/-!
Contract: which file an update over a directory rewrites.

Owns:
- an update in the place of one node: the node's path, which no payload sets, names the file that
  is written, and the stored record has the path of that file;
- `Continues`, what mutations keep of a site over a directory: its root, the places that paths
  lead to, and the paths of its nodes;
- `Site.update_rewrites_own_file`: after any mutations, an update of a loaded record rewrites the
  file that it was loaded from, unless the file states another path.
-/

namespace ContentGraph

open ContentGraph.Json ContentGraph.Content ContentGraph.Files

/-! ### The node of an update -/

namespace Collection

variable {collection : Collection} {nodes : List Value} {key : String} {payload merged : Value}

/-- An update is laid over the node at one index, whose path it keeps, and goes to its place. -/
theorem place_of_updatedRecord
    (made : collection.updatedRecord nodes payload = .ok (key, merged)) :
    ∃ index node record, nodes[index]? = some node ∧ node.isObject = true ∧
      merged = .object record ∧
      Object.find? record "_path" = node.field? "_path" ∧
      ∀ stored, collection.replaceKey key stored nodes = nodes.set index stored := by
  obtain ⟨described, node, isDescribed, _, found, rfl⟩ := updatedRecord_ok made
  have held : collection.hasKey key node = true := List.find?_some found
  obtain ⟨before, old, after, rfl, keyOld, free, replaced⟩ :=
    split_of_held (List.any_eq_true.mpr ⟨node, List.mem_of_find?_eq_some found, held⟩)
  have isOld : old = node := by
    rw [List.find?_append, List.find?_eq_none.mpr fun other member => by simp [free other member],
      Option.none_or, List.find?_cons_of_pos (hasKey_iff.mpr keyOld)] at found
    exact Option.some.inj found
  subst isOld
  obtain ⟨fields, rfl⟩ := object_of_hasKey held
  have unchanged : Object.find? (collection.changes described) "_path" = none :=
    find?_changes_of_protected (nodup_keys_of_payloadRecord isDescribed) (by decide)
  refine ⟨before.length, .object fields, _, by simp, rfl, rfl, ?_, ?_⟩
  · exact Value.field?_deepMerge_of_absent unchanged
  · intro stored
    rw [replaced stored]
    simp

end Collection

/-! ### One update -/

/-- An update put a record in the place of the node at an index, and wrote its text to one file:
the one that the node's path names, if it has a path, and that the stored record's path names. -/
structure Runtime.Rewrites (before after : Runtime ContentDirectory) (name : String)
    (stored : Value) (index : Nat) (node : Value) (path text : String)
    (target temporary : Location) : Prop where
  isNode : (before.graph.nodes name)[index]? = some node
  isObject : node.isObject = true
  nodes (other : String) : after.graph.nodes other =
    if other = name then (before.graph.nodes name).set index stored else before.graph.nodes other
  follows (stated : String) (states : node.field? "_path" = some (.string stated)) :
    path = stated
  names : stored.field? "_path" = some (.string (forwardPath path))
  stores : Tree.Stores before.state.tree after.state.tree (join before.state.root path) text
    target temporary

/-- A record with a path in it is stored there. -/
private theorem path_of_recordPath {entry : CollectionEntry} {record : Object}
    {path stated : String} (states : Object.find? record "_path" = some (.string stated))
    (placed : ContentDirectory.recordPath entry record = .ok path) : path = stated := by
  unfold ContentDirectory.recordPath at placed
  rw [states] at placed
  exact (ContentDirectory.insideRoot_eq_ok_iff.mp placed).1.symm

/-- What is stored of a record has the path of its file. -/
private theorem path_of_stored (record : Object) (path : String) :
    (Value.object (Object.insertAll record (fileMetadata path))).field? "_path" =
      some (.string (forwardPath path)) := by
  have isSet : Object.find? (Object.insertAll record (fileMetadata path)) "_path" = _ :=
    find?_insertAll (fileMetadata path) (nodup_keys_fileMetadata path)
  rw [find?_path_fileMetadata, Option.some_or] at isSet
  exact isSet

/-- Every successful update rewrites one file. -/
theorem Runtime.rewrites_of_update {runtime after : Runtime ContentDirectory} {name : String}
    {payload stored : Value}
    (updated : runtime.update ContentDirectory.source name payload = (.ok stored, after)) :
    ∃ index node path text target temporary,
      runtime.Rewrites after name stored index node path text target temporary := by
  have outcome := Turn.take_outcome ContentDirectory.source .update runtime name payload
  rw [show Turn.update.take ContentDirectory.source runtime name payload = (.ok stored, after)
    from updated] at outcome
  cases outcome with
  | stored hands put =>
      cases hands with
      | update known made =>
          obtain ⟨index, node, record, isNode, isObject, rfl, samePath, replaced⟩ :=
            Collection.place_of_updatedRecord made
          obtain ⟨path, target, temporary, placed, rfl, stores⟩ :=
            ContentDirectory.store_writes put
          refine ⟨index, node, path, documentText record path, target, temporary, ?_⟩
          exact {
            isNode := isNode
            isObject := isObject
            nodes := by
              intro other
              rw [Turn.nodes_accept, Turn.place, replaced]
            follows := fun stated states => path_of_recordPath (samePath.trans states) placed
            names := path_of_stored record path
            stores := stores }

/-! ### Mutations that come before -/

/-- What updates keep of a node: it stays as it is, or it is an object with the same path. -/
structure KeepsPath (old new : Value) : Prop where
  same : new = old ∨ old.isObject = true
  path (path : String) (hasPath : old.field? "_path" = some (.string (forwardPath path))) :
    new.field? "_path" = some (.string (forwardPath path))

theorem KeepsPath.refl (node : Value) : KeepsPath node node :=
  ⟨.inl rfl, fun _ hasPath => hasPath⟩

theorem KeepsPath.trans {old middle new : Value} (first : KeepsPath old middle)
    (second : KeepsPath middle new) : KeepsPath old new where
  same := by
    rcases second.same with rfl | isObject
    · exact first.same
    · rcases first.same with rfl | wasObject
      · exact .inr isObject
      · exact .inr wasObject
  path path hasPath := second.path path (first.path path hasPath)

/-- What mutations keep of a site over a directory: the root, the places that paths lead to, and
the paths of nodes. -/
structure Runtime.Continues (start now : Runtime ContentDirectory) : Prop where
  root : now.state.root = start.state.root
  grows : Tree.GrowsDirectories start.state.tree now.state.tree
  nodes {name : String} {index : Nat} {old : Value}
    (isOld : (start.graph.nodes name)[index]? = some old) :
    ∃ node, (now.graph.nodes name)[index]? = some node ∧ KeepsPath old node

namespace Runtime.Continues

variable {start now later : Runtime ContentDirectory} {turn : Turn} {name : String}
  {payload : Value}

theorem refl (runtime : Runtime ContentDirectory) : Continues runtime runtime :=
  ⟨rfl, .refl _, fun isOld => ⟨_, isOld, .refl _⟩⟩

theorem trans (first : Continues start now) (second : Continues now later) :
    Continues start later where
  root := second.root.trans first.root
  grows := first.grows.trans second.grows
  nodes isOld := by
    obtain ⟨middle, isMiddle, keepsFirst⟩ := first.nodes isOld
    obtain ⟨node, isNode, keepsSecond⟩ := second.nodes isMiddle
    exact ⟨node, isNode, keepsFirst.trans keepsSecond⟩

/-- Where the nodes are the same, what a directory does with a record is all that happens. -/
private theorem of_put {entry : CollectionEntry} {record : Value}
    {answer : Except Failure Value} {state : ContentDirectory}
    (put : ContentDirectory.source.put start.state entry record = (answer, state))
    (isState : now.state = state)
    (nodes : ∀ {name : String} {index : Nat} {old : Value},
      (start.graph.nodes name)[index]? = some old ->
      ∃ node, (now.graph.nodes name)[index]? = some node ∧ KeepsPath old node) :
    Continues start now := by
  obtain ⟨sameRoot, grows⟩ := ContentDirectory.store_keeps start.state entry record
  rw [show start.state.store entry record = (answer, state) from put] at sameRoot grows
  exact ⟨isState ▸ sameRoot, isState ▸ grows, nodes⟩

/-- One turn at the store. -/
theorem take (turn : Turn) (runtime : Runtime ContentDirectory) (name : String) (payload : Value) :
    Continues runtime (turn.take ContentDirectory.source runtime name payload).2 := by
  have outcome := Turn.take_outcome ContentDirectory.source turn runtime name payload
  generalize taken : turn.take ContentDirectory.source runtime name payload = result at outcome
  cases outcome with
  | refused failure => exact refl runtime
  | failed hands put =>
      refine of_put put rfl fun {_ _ old} isOld => ⟨old, ?_, .refl old⟩
      simpa using isOld
  | stored hands put =>
      refine of_put put rfl fun {other index old} isOld => ?_
      have inside := (List.getElem?_eq_some_iff.mp isOld).1
      cases turn with
      | create =>
          refine ⟨old, ?_, .refl old⟩
          rw [Turn.nodes_accept]
          split
          · next isName => exact (List.getElem?_append_left (isName ▸ inside)).trans (isName ▸ isOld)
          · exact isOld
      | update =>
          obtain ⟨place, node, path, text, target, temporary, rewrites⟩ :=
            rewrites_of_update taken
          rw [rewrites.nodes other]
          split
          · next isName =>
              rw [isName] at isOld inside
              by_cases isPlace : place = index
              · -- The node at this index is the one that the update was laid over.
                subst isPlace
                cases isOld.symm.trans rewrites.isNode
                refine ⟨_, List.getElem?_set_self inside, .inr rewrites.isObject, ?_⟩
                intro named hasPath
                rw [rewrites.names, rewrites.follows _ hasPath, forwardPath_forwardPath]
              · exact ⟨old, (List.getElem?_set_ne isPlace).trans isOld, .refl old⟩
          · exact ⟨old, isOld, .refl old⟩

/-- A step of one task. -/
theorem step (session : Session ContentDirectory) (index : Nat) :
    Continues session.runtime (session.step ContentDirectory.source index).runtime := by
  rcases Session.step_cases ContentDirectory.source session index with
    ⟨passes, _⟩ | ⟨task, turn, found, next, _⟩
  · rw [passes]
    exact refl _
  · rw [Session.step_of_turn found next]
    exact take turn session.runtime task.collection task.payload

/-- A run of any mutations, by any schedule. -/
theorem run (session : Session ContentDirectory) (schedule : List Nat) :
    Continues session.runtime (session.run ContentDirectory.source schedule).runtime := by
  induction schedule generalizing session with
  | nil => exact refl _
  | cons index later inductionHypothesis =>
      rw [Session.run_cons]
      exact (step session index).trans (inductionHypothesis _)

end Runtime.Continues

/-! ### Updates of loaded records -/

/-- After any mutations of a site that was built over a directory, by any schedule, a successful
update rewrites one file: the one that the updated record's path names.  Where the record was
loaded from a file that states no path and has no backslash in its name, that is the file it was
loaded from, and where the file states a path without backslashes, the file of that path.  No
other file changes, unless one stands under the name of the temporary file. -/
theorem Site.update_rewrites_own_file {config : Config} {directory : ContentDirectory}
    {registry : Registry} {firstId : Nat} {site : Site ContentDirectory} {tasks : List Task}
    {schedule : List Nat} {session : Session ContentDirectory} {name : String}
    {payload stored : Value} {after : Runtime ContentDirectory}
    (built : Site.build config ContentDirectory.source directory registry firstId = .ok site)
    (reached : Session.run ContentDirectory.source ⟨site.runtime, tasks⟩ schedule = session)
    (updated : session.runtime.update ContentDirectory.source name payload = (.ok stored, after)) :
    ∃ index node path text target temporary,
      session.runtime.Rewrites after name stored index node path text target temporary ∧
        ((∀ body, session.runtime.state.tree.entry? temporary ≠ some (.file body)) ->
          Tree.ChangesOnly session.runtime.state.tree after.state.tree target) ∧
        ∀ loaded, (site.graph.nodes name)[index]? = some loaded ->
          (∃ entry ∈ config.collections, entry.name = name ∧
            ∃ file : LoadedFile directory registry entry, file.node = loaded) ∧
          ∀ entry, ∀ file : LoadedFile directory registry entry, file.node = loaded ->
            (file.own.field? "_path" = none -> '\\' ∉ file.path.toList ->
              path = file.path ∧ target = file.location) ∧
            ∀ stated, file.own.field? "_path" = some (.string stated) -> '\\' ∉ stated.toList ->
              path = stated := by
  obtain ⟨index, node, path, text, target, temporary, rewrites⟩ :=
    Runtime.rewrites_of_update updated
  have continues : Runtime.Continues site.runtime session.runtime :=
    reached ▸ Runtime.Continues.run ⟨site.runtime, tasks⟩ schedule
  have isState := Site.state_of_build built
  have grows : Tree.GrowsDirectories site.runtime.state.tree after.state.tree := by
    have last := (Runtime.Continues.take .update session.runtime name payload).grows
    rw [show Turn.update.take ContentDirectory.source session.runtime name payload =
      (.ok stored, after) from updated] at last
    exact continues.grows.trans last
  refine ⟨index, node, path, text, target, temporary, rewrites,
    rewrites.stores.changesOnly, fun loaded isLoaded => ⟨?_, ?_⟩⟩
  · exact Site.exists_loadedFile built (List.mem_of_getElem? isLoaded)
  · intro entry file isNode
    obtain ⟨held, isHeld, keepsPath⟩ := continues.nodes isLoaded
    cases isHeld.symm.trans rewrites.isNode
    -- The node at the index still has the path that it was loaded with.
    have keeps : ∀ named, '\\' ∉ named.toList ->
        loaded.field? "_path" = some (.string named) -> path = named := by
      intro named forward hasPath
      rw [← forwardPath_of_not_mem forward] at hasPath
      have heldPath := keepsPath.path named hasPath
      rw [forwardPath_of_not_mem forward] at heldPath
      exact rewrites.follows named heldPath
    obtain ⟨fields, isObject⟩ : ∃ fields, loaded = .object fields := by
      have isObject : loaded.isObject = true := by
        rcases keepsPath.same with rfl | isObject
        · exact rewrites.isObject
        · exact isObject
      cases loaded with
      | object fields => exact ⟨fields, rfl⟩
      | _ => cases isObject
    subst isObject
    constructor
    · intro unstated forward
      have hasPath := file.path_of_unstated isNode unstated
      rw [forwardPath_of_not_mem forward] at hasPath
      have isPath := keeps file.path forward hasPath
      have located : site.runtime.state.tree.locate? (join session.runtime.state.root path) =
          some file.location := by
        rw [continues.root, isState, isPath]
        exact file.locate?_path
      exact ⟨isPath, Option.some.inj (rewrites.stores.isTarget.symm.trans (grows.locate? located))⟩
    · intro stated states forward
      exact keeps stated forward (file.path_of_stated isNode states)

/-! ### A file that states another path -/

/-- Posts in the directory `posts`. -/
def samplePairConfig : Config where
  collections := [{ name := "Post", path := "posts" }]

/-- A directory with two posts. -/
def samplePair (first second : String) : ContentDirectory where
  tree := {
    home := "/site"
    entries := [(["posts"], .directory), (["posts", "a.yaml"], .file (.text first)),
      (["posts", "b.yaml"], .file (.text second))] }
  root := "/site"

/-- The text of a first post that states the path of the second. -/
def sampleStatingText : String := "id: a\n_path: posts/b.yaml\n"

/-- The node of `sampleStatingText` in `posts/a.yaml`. -/
def sampleStatingNode : Value :=
  .object [("id", .string "a"), ("_path", .string "posts/b.yaml"),
    ("_filename", .string "a.yaml"), ("_slug", .string "a")]

/-- The node of the second post. -/
def sampleSecondNode : Value :=
  .object [("id", .string "b"), ("_filename", .string "b.yaml"),
    ("_path", .string "posts/b.yaml"), ("_slug", .string "b")]

/-- The posts as they are inferred. -/
def samplePairPosts : Collection where
  entry := { name := "Post", path := "posts" }
  shape := ["id", "_path", "_filename", "_slug"].map fun key => .unnamed key (.scalar .string)

/-- The site over the two posts, with their nodes. -/
def samplePairRuntime (nodes : List Value) (first second : String) : Runtime ContentDirectory where
  graph := { collections := [samplePairPosts], store := [("Post", nodes)] }
  state := samplePair first second
  nextId := 0

private theorem contentBelow_samplePair (first second : String) :
    (samplePair first second).tree.contentBelow ["posts"] = [["a.yaml"], ["b.yaml"]] := by
  have inOrder : ¬["posts", "b.yaml"] < ["posts", "a.yaml"] := by decide
  have isSorted : List.Pairwise
      (fun left right : Location × Body => (!decide (right.1 < left.1)) = true)
      [(["posts", "a.yaml"], .text first), (["posts", "b.yaml"], .text second)] := by
    simpa only [List.pairwise_pair, Bool.not_eq_true', decide_eq_false_iff_not] using inOrder
  have files : (samplePair first second).tree.files =
      [(["posts", "a.yaml"], .text first), (["posts", "b.yaml"], .text second)] :=
    List.mergeSort_of_pairwise isSorted
  rw [Tree.contentBelow, files]
  with_unfolding_all rfl

private theorem eq_of_toOption {Target : Type} {result : Except Failure Target} {target : Target}
    (isSome : result.toOption = some target) : result = .ok target := by
  cases result <;> cases isSome
  rfl

private theorem readCollection_samplePair :
    (samplePair sampleStatingText "id: b\n").readCollection { name := "Post", path := "posts" } =
      .ok [⟨some "posts/a.yaml", .text sampleStatingText⟩,
        ⟨some "posts/b.yaml", .text "id: b\n"⟩] := by
  have isDirectory : (samplePair sampleStatingText "id: b\n").tree.isDirectoryPath
      (join "/site" "posts") = true := by
    decide +kernel
  have located : (samplePair sampleStatingText "id: b\n").tree.locate? (join "/site" "posts") =
      some ["posts"] := by
    decide +kernel
  have isRoot : (samplePair sampleStatingText "id: b\n").root = "/site" := rfl
  unfold ContentDirectory.readCollection
  simp only [isRoot, isDirectory, if_true, located, Option.getD_some, contentBelow_samplePair]
  apply eq_of_toOption
  decide +kernel

private theorem build_samplePair :
    ∃ site, Site.build samplePairConfig ContentDirectory.source
        (samplePair sampleStatingText "id: b\n") [yamlTransformer] 0 = .ok site ∧
      site.runtime =
        samplePairRuntime [sampleStatingNode, sampleSecondNode] sampleStatingText "id: b\n" := by
  have isRoot : (samplePair sampleStatingText "id: b\n").tree.isDirectoryPath "/site" = true := by
    decide +kernel
  have checked : ContentDirectory.source.check (samplePair sampleStatingText "id: b\n") =
      .ok () := by
    simp only [ContentDirectory.source, show (samplePair sampleStatingText "id: b\n").root =
      "/site" from rfl, isRoot, if_true]
  have fetched : ContentDirectory.source.fetch (samplePair sampleStatingText "id: b\n")
      samplePairConfig.collections [] =
        .ok [("Post", [⟨some "posts/a.yaml", .text sampleStatingText⟩,
          ⟨some "posts/b.yaml", .text "id: b\n"⟩])] := by
    simp only [ContentDirectory.source, samplePairConfig, ContentDirectory.fetchAll,
      readCollection_samplePair]
    rfl
  have loaded : loadAll [yamlTransformer] samplePairConfig.collections
      [("Post", [⟨some "posts/a.yaml", .text sampleStatingText⟩,
        ⟨some "posts/b.yaml", .text "id: b\n"⟩])] =
      .ok [("Post", [sampleStatingNode, sampleSecondNode])] := by
    apply eq_of_toOption
    decide +kernel
  have inferred : Collection.inferAll samplePairConfig (Registry.fragments [yamlTransformer])
      [("Post", [sampleStatingNode, sampleSecondNode])] = .ok [samplePairPosts] := by
    with_unfolding_all rfl
  have valid : samplePairConfig.validate = .ok () := by
    apply eq_of_toOption
    decide +kernel
  have isLoaded : Site.load samplePairConfig ContentDirectory.source
      (samplePair sampleStatingText "id: b\n") [yamlTransformer] =
      .ok [("Post", [sampleStatingNode, sampleSecondNode])] := by
    unfold Site.load
    exact bind_eq_ok.mpr ⟨_, valid, bind_eq_ok.mpr ⟨_, checked, bind_eq_ok.mpr ⟨_, fetched, loaded⟩⟩⟩
  have isGraph : Site.graphOf samplePairConfig ContentDirectory.source
      (samplePair sampleStatingText "id: b\n") [yamlTransformer] =
      .ok (samplePairRuntime [sampleStatingNode, sampleSecondNode] sampleStatingText
        "id: b\n").graph := by
    unfold Site.graphOf
    exact bind_eq_ok.mpr ⟨_, isLoaded, bind_eq_ok.mpr ⟨_, inferred, rfl⟩⟩
  have isBuilt : (Schema.build [samplePairPosts]).isOk = true := by
    with_unfolding_all rfl
  obtain ⟨table, hasTable⟩ : ∃ table, Schema.build [samplePairPosts] = .ok table := by
    cases hasTable : Schema.build [samplePairPosts] with
    | error problem => simp [hasTable, Except.isOk, Except.toBool] at isBuilt
    | ok table => exact ⟨table, rfl⟩
  refine ⟨⟨samplePairConfig.hash, table, ContentDirectory.source,
    samplePairRuntime [sampleStatingNode, sampleSecondNode] sampleStatingText "id: b\n"⟩, ?_, rfl⟩
  rw [Site.build, isGraph]
  show (Schema.build [samplePairPosts] >>= _) = _
  rw [hasTable]
  rfl

/-- An update over the two posts that goes to the file of the second. -/
private theorem samplePair_update {nodes later : List Value} {first second text key : String}
    {payload stored : Value} {record : Object}
    (made : samplePairPosts.updatedRecord nodes payload = .ok (key, .object record))
    (placed : ContentDirectory.recordPath samplePairPosts.entry record = .ok "posts/b.yaml")
    (shown : documentText record "posts/b.yaml" = text)
    (isStored : Value.object (Object.insertAll record (fileMetadata "posts/b.yaml")) = stored)
    (replaced : samplePairPosts.replaceKey key stored nodes = later)
    (wrote : ContentDirectory.storeText (samplePair first second).tree "/site/posts/b.yaml" text =
      (.ok (), (samplePair first text).tree)) :
    (samplePairRuntime nodes first second).update ContentDirectory.source "Post" payload =
      (.ok stored, samplePairRuntime later first text) := by
  have put : ContentDirectory.source.put (samplePair first second) samplePairPosts.entry
      (.object record) = (.ok stored, samplePair first text) := by
    have joined : join (samplePair first second).root "posts/b.yaml" = "/site/posts/b.yaml" := by
      show join "/site" "posts/b.yaml" = "/site/posts/b.yaml"
      decide
    simp only [ContentDirectory.source, ContentDirectory.store, placed, shown, joined, wrote,
      ← isStored]
    rfl
  have known : (samplePairRuntime nodes first second).graph.collection "Post" =
      .ok samplePairPosts := rfl
  have held : (samplePairRuntime nodes first second).graph.nodes "Post" = nodes := rfl
  have isState : (samplePairRuntime nodes first second).state = samplePair first second := rfl
  have named : samplePairPosts.name = "Post" := rfl
  simp only [Runtime.update, known, held, made, Runtime.storeRecord, isState, put, named, replaced]
  rfl

/-- The first post with a title, as it is stored. -/
def sampleTitledNode : Value :=
  .object [("id", .string "a"), ("_path", .string "posts/b.yaml"), ("_filename", .string "b.yaml"),
    ("_slug", .string "b"), ("title", .string "New")]

private theorem samplePair_update_first :
    (samplePairRuntime [sampleStatingNode, sampleSecondNode] sampleStatingText "id: b\n").update
        ContentDirectory.source "Post" (.object [("id", .string "a"), ("title", .string "New")]) =
      (.ok sampleTitledNode,
        samplePairRuntime [sampleTitledNode, sampleSecondNode] sampleStatingText
          "id: a\ntitle: New\n") := by
  apply samplePair_update <;> with_unfolding_all rfl

/-- The second post with a title, as it is stored. -/
def sampleRetitledNode : Value :=
  .object [("id", .string "b"), ("_filename", .string "b.yaml"), ("_path", .string "posts/b.yaml"),
    ("_slug", .string "b"), ("title", .string "Old")]

private theorem samplePair_update_second :
    (samplePairRuntime [sampleTitledNode, sampleSecondNode] sampleStatingText
        "id: a\ntitle: New\n").update
        ContentDirectory.source "Post" (.object [("id", .string "b"), ("title", .string "Old")]) =
      (.ok sampleRetitledNode,
        samplePairRuntime [sampleTitledNode, sampleRetitledNode] sampleStatingText
          "id: b\ntitle: Old\n") := by
  apply samplePair_update <;> with_unfolding_all rfl

/-- The files of the two posts. -/
def samplePairFile (name text : String) (own : Value)
    (listed : [name] ∈ (samplePair sampleStatingText "id: b\n").tree.contentBelow ["posts"])
    (held : (samplePair sampleStatingText "id: b\n").tree.entry? ["posts", name] =
      some (.file (.text text)))
    (located : (samplePair sampleStatingText "id: b\n").tree.locate?
      (join (join "/site" "posts") name) = some ["posts", name])
    (parsed : Registry.parse [yamlTransformer]
      ⟨some (below "/site" (join (join "/site" "posts") name)), .text text⟩ = .ok own) :
    LoadedFile (samplePair sampleStatingText "id: b\n") [yamlTransformer]
      { name := "Post", path := "posts" } where
  names := [name]
  location := ["posts", name]
  text
  own
  listed := by
    have located : (samplePair sampleStatingText "id: b\n").tree.locate? (join "/site" "posts") =
        some ["posts"] := by
      decide +kernel
    have isRoot : (samplePair sampleStatingText "id: b\n").root = "/site" := rfl
    simpa only [isRoot, located, Option.getD_some] using listed
  located := located
  held := held
  parsed := parsed

def sampleStatingFile : LoadedFile (samplePair sampleStatingText "id: b\n") [yamlTransformer]
    { name := "Post", path := "posts" } :=
  samplePairFile "a.yaml" sampleStatingText
    (.object [("id", .string "a"), ("_path", .string "posts/b.yaml")])
    (by rw [contentBelow_samplePair]; decide) (by decide +kernel) (by decide +kernel)
    (eq_of_toOption (by decide +kernel))

def sampleSecondFile : LoadedFile (samplePair sampleStatingText "id: b\n") [yamlTransformer]
    { name := "Post", path := "posts" } :=
  samplePairFile "b.yaml" "id: b\n" (.object [("id", .string "b")])
    (by rw [contentBelow_samplePair]; decide) (by decide +kernel) (by decide +kernel)
    (eq_of_toOption (by decide +kernel))

private theorem node_sampleStatingFile : sampleStatingFile.node = sampleStatingNode := by
  decide +kernel

private theorem node_sampleSecondFile : sampleSecondFile.node = sampleSecondNode := by
  decide +kernel

private theorem path_sampleSecondFile : sampleSecondFile.path = "posts/b.yaml" := by
  decide +kernel

/-- The second post is updated after the first post was, and its file is the only one that
changes. -/
theorem Site.update_rewrites_own_file_samplePair :
    ∃ site session, Site.build samplePairConfig ContentDirectory.source
        (samplePair sampleStatingText "id: b\n") [yamlTransformer] 0 = .ok site ∧
      Session.run ContentDirectory.source
        ⟨site.runtime, [⟨.update, "Post", .object [("id", .string "a"), ("title", .string "New")],
          .waiting⟩]⟩ [0] = session ∧
      session.runtime.update ContentDirectory.source "Post"
          (.object [("id", .string "b"), ("title", .string "Old")]) =
        (.ok sampleRetitledNode,
          samplePairRuntime [sampleTitledNode, sampleRetitledNode] sampleStatingText
            "id: b\ntitle: Old\n") ∧
      Tree.ChangesOnly session.runtime.state.tree
        (samplePair sampleStatingText "id: b\ntitle: Old\n").tree sampleSecondFile.location := by
  obtain ⟨site, built, isRuntime⟩ := build_samplePair
  have reached : (Session.run ContentDirectory.source
      ⟨site.runtime, [⟨.update, "Post", .object [("id", .string "a"), ("title", .string "New")],
        .waiting⟩]⟩ [0]).runtime =
      samplePairRuntime [sampleTitledNode, sampleSecondNode] sampleStatingText
        "id: a\ntitle: New\n" := by
    rw [Session.run_cons, Session.run_nil, Session.step_of_turn rfl rfl, isRuntime]
    exact congrArg Prod.snd samplePair_update_first
  refine ⟨site, _, built, rfl, ?_⟩
  generalize ran : Session.run ContentDirectory.source _ [0] = session at reached
  have updated : session.runtime.update ContentDirectory.source "Post"
      (.object [("id", .string "b"), ("title", .string "Old")]) =
        (.ok sampleRetitledNode,
          samplePairRuntime [sampleTitledNode, sampleRetitledNode] sampleStatingText
            "id: b\ntitle: Old\n") := reached ▸ samplePair_update_second
  refine ⟨updated, ?_⟩
  obtain ⟨index, node, path, text, target, temporary, rewrites, changesOnly, loadedFrom⟩ :=
    Site.update_rewrites_own_file built ran updated
  have isSecond : index = 1 := by
    have nodes := rewrites.nodes "Post"
    rw [if_pos rfl, reached] at nodes
    match index, nodes with
    | 0, nodes => exact absurd nodes (by decide +kernel)
    | 1, _ => rfl
    | beyond + 2, nodes =>
        rw [List.set_eq_of_length_le (show 2 ≤ beyond + 2 by omega)] at nodes
        exact absurd nodes (by decide +kernel)
  subst isSecond
  have isLoaded : (site.graph.nodes "Post")[1]? = some sampleSecondNode := by
    rw [Site.graph, isRuntime]
    rfl
  obtain ⟨isPath, isTarget⟩ := ((loadedFrom _ isLoaded).2 _ sampleSecondFile
    node_sampleSecondFile).1 (by decide) (by rw [path_sampleSecondFile]; decide)
  rw [← isTarget]
  have isFree : temporary = ["posts", "b.yaml.tmp"] := by
    have located := rewrites.stores.isTemporary
    rw [isPath, path_sampleSecondFile, reached] at located
    exact Option.some.inj (located.symm.trans (by decide +kernel))
  refine changesOnly fun body held => ?_
  rw [isFree, reached] at held
  cases held

/-- A file that states the path of another: an update of its record rewrites the other file, and
leaves its own as it was. -/
theorem Site.update_rewrites_stated_file :
    ∃ site, Site.build samplePairConfig ContentDirectory.source
        (samplePair sampleStatingText "id: b\n") [yamlTransformer] 0 = .ok site ∧
      (site.graph.nodes "Post")[0]? = some sampleStatingFile.node ∧
      sampleStatingFile.location = ["posts", "a.yaml"] ∧
      site.runtime.update ContentDirectory.source "Post"
          (.object [("id", .string "a"), ("title", .string "New")]) =
        (.ok sampleTitledNode,
          samplePairRuntime [sampleTitledNode, sampleSecondNode] sampleStatingText
            "id: a\ntitle: New\n") ∧
      sampleTitledNode.field? "_path" ≠ some (.string sampleStatingFile.path) ∧
      ¬ Tree.ChangesOnly (samplePair sampleStatingText "id: b\n").tree
        (samplePair sampleStatingText "id: a\ntitle: New\n").tree ["posts", "a.yaml"] := by
  obtain ⟨site, built, isRuntime⟩ := build_samplePair
  refine ⟨site, built, ?_, rfl, ?_, ?_, ?_⟩
  · rw [node_sampleStatingFile, Site.graph, isRuntime]
    rfl
  · rw [isRuntime]
    exact samplePair_update_first
  · decide +kernel
  · intro only
    have still := (only ["posts", "b.yaml"] (.text "id: b\n") (by decide)).mp rfl
    exact absurd still (by decide +kernel)

end ContentGraph
