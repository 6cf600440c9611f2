import ContentGraph.Proofs.Site.Build
import ContentGraph.Proofs.Site.Identity

/-!
Contract: the sites that a cache gives out.

Owns:
- `SiteCache.Call`, a call for a site, and `serve`, the cache after calls in turn;
- `Traced`, every site of a cache was built by one of the calls under its identity: calls keep it,
  one after another;
- `provide_alike`: a call that is answered from the cache gets a site that was built from a
  configuration which declares the same;
- `provide_crosses_sites`: a root, a custom transform and the functions of overrides are no part of
  an identity.
-/

namespace ContentGraph

open ContentGraph.Json

namespace SiteCache

variable {State : Type}

/-- A call for a site: its configuration, and what it is built with where the cache has none. -/
structure Call (State : Type) where
  config : Config
  source : Content.Source State
  state : State
  registry : Content.Registry
  firstId : Nat

/-- The site that a call builds. -/
def Call.build (call : Call State) : Except Schema.BuildProblem (Site State) :=
  Site.build call.config call.source call.state call.registry call.firstId

/-- The answer to a call, and the cache after it. -/
def answer (cache : SiteCache State) (call : Call State) :
    Except Schema.BuildProblem (Site State × SiteCache State) :=
  cache.provide call.config call.source call.state call.registry call.firstId

/-- The cache after calls in turn; a call that fails leaves it as it is. -/
def serve (cache : SiteCache State) : List (Call State) -> SiteCache State
  | [] => cache
  | call :: rest =>
      match cache.answer call with
      | .ok (_, after) => serve after rest
      | .error _ => serve cache rest

variable {cache after : SiteCache State} {call : Call State} {calls done : List (Call State)}
  {site : Site State} {hash : String}

/-! ### One call -/

theorem lookup_put : (cache.put site).lookup hash =
    if hash = site.hash then some site else cache.lookup hash := by
  induction cache with
  | nil =>
      by_cases same : hash = site.hash
      · simp [put, same]
      · have differ : (hash == site.hash) = false := by simpa using same
        simp [put, List.lookup_cons, differ, same]
  | cons entry rest inductionHypothesis =>
      obtain ⟨other, old⟩ := entry
      rw [put]
      by_cases isSite : other = site.hash
      · rw [if_pos isSite]
        by_cases same : hash = other
        · simp [same, isSite]
        · have differ : (hash == other) = false := by simpa using same
          rw [List.lookup_cons, List.lookup_cons, differ, if_neg (isSite ▸ same)]
      · rw [if_neg isSite]
        by_cases same : hash = other
        · subst same
          simp [isSite]
        · have differ : (hash == other) = false := by simpa using same
          rw [List.lookup_cons, List.lookup_cons, differ, inductionHypothesis]

/-- A call is answered from the cache, or it builds a site that the cache keeps. -/
theorem answer_ok (answered : cache.answer call = .ok (site, after)) :
    (cache.lookup call.config.hash = some site ∧ after = cache) ∨
      (call.build = .ok site ∧ after = cache.put site) := by
  rw [answer, provide] at answered
  split at answered
  · next found =>
      cases answered
      exact .inl ⟨found, rfl⟩
  · obtain ⟨built, isBuilt, isAnswer⟩ := bind_eq_ok.mp answered
    cases isAnswer
    exact .inr ⟨isBuilt, rfl⟩

/-- Every site of a cache was built by one of some calls, whose identity it stands under. -/
def Traced (calls : List (Call State)) (cache : SiteCache State) : Prop :=
  ∀ hash site, cache.lookup hash = some site ->
    ∃ call ∈ calls, call.build = .ok site ∧ call.config.hash = hash

theorem Traced.answer (traced : Traced done cache) (answered : cache.answer call = .ok (site, after)) :
    Traced (done ++ [call]) after := by
  have earlier : ∀ hash found, cache.lookup hash = some found ->
      ∃ other ∈ done ++ [call], other.build = .ok found ∧ other.config.hash = hash := by
    intro hash found isFound
    obtain ⟨other, member, isOther⟩ := traced hash found isFound
    exact ⟨other, List.mem_append_left _ member, isOther⟩
  rcases answer_ok answered with ⟨_, rfl⟩ | ⟨built, rfl⟩
  · exact earlier
  · intro hash found isFound
    rw [lookup_put] at isFound
    split at isFound
    · next isHash =>
        cases isFound
        exact ⟨call, by simp, built, isHash ▸ (Site.hash_of_build built).symm⟩
    · exact earlier hash found isFound

/-! ### Calls in turn -/

theorem Traced.serve (traced : Traced done cache) (calls : List (Call State)) :
    Traced (done ++ calls) (cache.serve calls) := by
  induction calls generalizing done cache with
  | nil =>
      rw [List.append_nil]
      exact traced
  | cons call rest inductionHypothesis =>
      have isAppend : done ++ call :: rest = (done ++ [call]) ++ rest := by simp
      rw [SiteCache.serve, isAppend]
      split
      · next answered => exact inductionHypothesis (traced.answer answered)
      · refine inductionHypothesis fun hash found isFound => ?_
        obtain ⟨other, member, isOther⟩ := traced hash found isFound
        exact ⟨other, List.mem_append_left _ member, isOther⟩

/-- A call that is answered from the cache gets a site that an earlier call built from a
configuration which declares the same, provided that no earlier configuration has the digest of
another text than the call's. -/
theorem provide_alike {calls : List (Call State)} {call : Call State} {site : Site State}
    (noCollision : ∀ earlier ∈ calls, earlier.config.hash = call.config.hash ->
      earlier.config.identityJson.compact = call.config.identityJson.compact)
    (cached : (serve [] calls).lookup call.config.hash = some site) :
    (serve [] calls).answer call = .ok (site, serve [] calls) ∧
      ∃ earlier ∈ calls, earlier.build = .ok site ∧ earlier.config.Alike call.config := by
  have nothing : Traced ([] : List (Call State)) [] := by
    intro hash site isFound
    cases isFound
  obtain ⟨earlier, member, built, sameHash⟩ := nothing.serve calls call.config.hash site cached
  have distinct := Config.nodup_names_of_validate (Site.validate_of_build built)
  refine ⟨?_, earlier, member, built, ?_⟩
  · rw [answer, provide, cached]
  · exact Config.alike_of_identity distinct (noCollision earlier member sameHash)

/-- A call for posts in memory. -/
def sampleCall (root : String) (transform : String -> String) : Call Content.MemoryStore where
  config :=
    { collections := [{ name := "Post", path := "posts" }], transform := .custom transform, root }
  source := Content.MemoryStore.source
  state := {}
  registry := []
  firstId := 0

private theorem hash_sampleCall (root other : String) (transform another : String -> String) :
    (sampleCall root transform).config.hash = (sampleCall other another).config.hash := by
  have sameJson : (sampleCall root transform).config.identityJson =
      (sampleCall other another).config.identityJson := rfl
  rw [Config.hash, sameJson, Config.hash]

private theorem build_sampleCall : ∃ site, (sampleCall "one" id).build = .ok site := by
  have isBuilt : (sampleCall "one" id).build.isOk = true := by
    decide +kernel
  cases hasSite : (sampleCall "one" id).build with
  | error problem => simp [hasSite, Except.isOk, Except.toBool] at isBuilt
  | ok site => exact ⟨site, rfl⟩

/-- The only call so far is the one that the cache answers from. -/
private theorem lookup_sampleCall {root other : String} {transform : String -> String}
    {site : Site Content.MemoryStore} (built : (sampleCall root id).build = .ok site) :
    (serve [] [sampleCall root id]).lookup (sampleCall other transform).config.hash = some site := by
  have answered : answer [] (sampleCall root id) = .ok (site, [(site.hash, site)]) := by
    rw [Call.build] at built
    rw [answer, provide, built]
    rfl
  have isHash : (sampleCall other transform).config.hash = site.hash :=
    (hash_sampleCall other root transform id).trans (Site.hash_of_build built).symm
  simp only [serve, answered, isHash, List.lookup_cons_self]

theorem provide_alike_sampleCall :
    ∃ site, (serve [] [sampleCall "one" id]).answer (sampleCall "two" id) =
        .ok (site, serve [] [sampleCall "one" id]) ∧
      ∃ earlier ∈ [sampleCall "one" id], earlier.build = .ok site ∧
        earlier.config.Alike (sampleCall "two" id).config := by
  obtain ⟨site, built⟩ := build_sampleCall
  have noCollision : ∀ earlier ∈ [sampleCall "one" id],
      earlier.config.hash = (sampleCall "two" id).config.hash ->
        earlier.config.identityJson.compact = (sampleCall "two" id).config.identityJson.compact := by
    intro earlier member _
    cases List.mem_singleton.mp member
    rfl
  exact ⟨site, provide_alike noCollision (lookup_sampleCall built)⟩

/-- A call is answered with the site of another root and of another transform. -/
theorem provide_crosses_sites :
    ∃ site, (sampleCall "one" id).build = .ok site ∧
      (serve [] [sampleCall "one" id]).answer (sampleCall "two" fun key => "my" ++ key) =
        .ok (site, serve [] [sampleCall "one" id]) ∧
      (sampleCall "one" id).config.transform.apply "title" ≠
        (sampleCall "two" fun key => "my" ++ key).config.transform.apply "title" ∧
      (sampleCall "one" id).config.root ≠ (sampleCall "two" fun key => "my" ++ key).config.root := by
  obtain ⟨site, built⟩ := build_sampleCall
  have cached : (serve [] [sampleCall "one" id]).lookup
      (sampleCall "two" fun key => "my" ++ key).config.hash = some site := lookup_sampleCall built
  refine ⟨site, built, ?_, by decide, by decide⟩
  rw [answer, provide, cached]

end SiteCache

end ContentGraph
