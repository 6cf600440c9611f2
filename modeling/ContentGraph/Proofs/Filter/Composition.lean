import ContentGraph.Proofs.Filter.Reading

/-!
Contract: filters applied to lists of nodes, one after another and put together.

Owns:
- `Sift.accepts` and `Sift.Decides`, the outcome of a test that may also fail;
- `keep_eq_ok_iff`: a filter keeps the accepted nodes, and does so exactly if it decides all;
- `keep_composes`: the comparators of two manifests filter as the two filters do in turn.

Does not own: filters over projections (`Proofs.Graph.JoinedFilter`).
-/

namespace ContentGraph.Filter.Sift

open ContentGraph.Json

variable {sift first second : Sift} {node : Value} {nodes kept : List Value}

/-! ### The test of one node -/

/-- Whether a node passes; a test that fails does not let it pass. -/
def accepts (sift : Sift) (node : Value) : Bool :=
  match sift.test node with
  | .ok passes => passes
  | .error _ => false

/-- The test of a node does not fail. -/
def Decides (sift : Sift) (node : Value) : Prop :=
  sift.test node = .ok (sift.accepts node)

theorem decides_of_test {passes : Bool} (isTested : sift.test node = .ok passes) :
    sift.Decides node ∧ sift.accepts node = passes := by
  rw [Decides, accepts, isTested]
  exact ⟨rfl, rfl⟩

theorem not_decides_of_test {failure : Failure} (isTested : sift.test node = .error failure) :
    ¬ sift.Decides node := by
  rw [Decides, isTested]
  exact fun impossible => nomatch impossible

/-- The second filter is asked only about nodes that pass the first one. -/
theorem test_append (first second : Sift) (node : Value) :
    Sift.test (first ++ second) node =
      match first.test node with
      | .error failure => .error failure
      | .ok false => .ok false
      | .ok true => second.test node := by
  rw [test_eq_testAt, test_eq_testAt first, test_eq_testAt second]
  exact testAt_append _ first second

theorem decides_append_iff :
    Sift.Decides (first ++ second) node ↔
      first.Decides node ∧ (first.accepts node = true -> second.Decides node) := by
  have together := test_append first second node
  rcases isFirst : first.test node with failure | _ | _
  · rw [isFirst] at together
    exact iff_of_false (not_decides_of_test together)
      fun both => not_decides_of_test isFirst both.1
  · rw [isFirst] at together
    obtain ⟨decides, refuses⟩ := decides_of_test isFirst
    refine iff_of_true (decides_of_test together).1 ⟨decides, fun passes => ?_⟩
    exact Bool.noConfusion (refuses.symm.trans passes)
  · rw [isFirst] at together
    obtain ⟨decides, passes⟩ := decides_of_test isFirst
    have same : Sift.Decides (first ++ second) node ↔ second.Decides node := by
      rw [Decides, accepts, together]
      rfl
    rw [same]
    exact ⟨fun isSecond => ⟨decides, fun _ => isSecond⟩, fun both => both.2 passes⟩

theorem accepts_append (first second : Sift) (node : Value) :
    Sift.accepts (first ++ second) node = (first.accepts node && second.accepts node) := by
  rw [accepts, test_append, accepts]
  rcases first.test node with failure | _ | _ <;> rfl

/-! ### Filtering a list -/

/-- A filter succeeds on a list exactly if it decides every node, and then it keeps those that it
accepts. -/
theorem keep_eq_ok_iff :
    sift.keep nodes = .ok kept ↔
      (∀ node ∈ nodes, sift.Decides node) ∧ kept = nodes.filter sift.accepts := by
  induction nodes generalizing kept with
  | nil => simp [keep, eq_comm]
  | cons node rest inductionHypothesis =>
      rw [List.forall_mem_cons, keep]
      cases isTested : sift.test node with
      | error failure =>
          refine iff_of_false (fun impossible => nomatch impossible) fun both => ?_
          exact not_decides_of_test isTested both.1.1
      | ok passes =>
          obtain ⟨decides, isAccepted⟩ := decides_of_test isTested
          rw [List.filter_cons, isAccepted]
          cases isKept : sift.keep rest with
          | error failure =>
              refine iff_of_false (fun impossible => nomatch impossible) fun both => ?_
              have succeeds := inductionHypothesis.mpr ⟨both.1.2, rfl⟩
              cases isKept.symm.trans succeeds
          | ok others =>
              obtain ⟨decidesRest, rfl⟩ := inductionHypothesis.mp isKept
              rw [Except.ok.injEq]
              constructor
              · intro same
                exact ⟨⟨decides, decidesRest⟩, same.symm⟩
              · intro both
                exact both.2.symm

/-- Filtering by two filters put together is filtering by the first and then by the second. -/
theorem keep_append_iff :
    Sift.keep (first ++ second) nodes = .ok kept ↔
      ∃ middle, first.keep nodes = .ok middle ∧ second.keep middle = .ok kept := by
  have joined : nodes.filter (Sift.accepts (first ++ second)) =
      (nodes.filter first.accepts).filter second.accepts := by
    rw [List.filter_filter]
    apply List.filter_congr
    intro node _
    rw [accepts_append, Bool.and_comm]
  simp only [keep_eq_ok_iff, joined]
  constructor
  · rintro ⟨decides, rfl⟩
    refine ⟨_, ⟨?_, rfl⟩, ?_, rfl⟩
    · intro node member
      exact (decides_append_iff.mp (decides node member)).1
    · intro node member
      obtain ⟨inNodes, passes⟩ := List.mem_filter.mp member
      exact (decides_append_iff.mp (decides node inNodes)).2 passes
  · rintro ⟨middle, ⟨decides, rfl⟩, decidesMiddle, rfl⟩
    refine ⟨?_, rfl⟩
    intro node member
    rw [decides_append_iff]
    refine ⟨decides node member, fun passes => ?_⟩
    exact decidesMiddle node (List.mem_filter.mpr ⟨member, passes⟩)

/-- What is kept stands in the order of the list, and all of it is kept again. -/
theorem sublist_of_keep (isKept : sift.keep nodes = .ok kept) :
    kept.Sublist nodes ∧ sift.keep kept = .ok kept := by
  obtain ⟨decides, rfl⟩ := keep_eq_ok_iff.mp isKept
  refine ⟨List.filter_sublist, ?_⟩
  rw [keep_eq_ok_iff]
  refine ⟨?_, (List.filter_eq_self.mpr fun _ member => (List.mem_filter.mp member).2).symm⟩
  intro node member
  exact decides node (List.mem_filter.mp member).1

/-- The order of two filters makes no difference to what is kept. -/
theorem eq_of_keep_swapped {other : List Value}
    (isKept : Sift.keep (first ++ second) nodes = .ok kept)
    (isOther : Sift.keep (second ++ first) nodes = .ok other) : kept = other := by
  rw [(keep_eq_ok_iff.mp isKept).2, (keep_eq_ok_iff.mp isOther).2]
  apply List.filter_congr
  intro node _
  rw [accepts_append, accepts_append, Bool.and_comm]

/-- Filters compose.  Two manifests that compile do so when they are put together, in either order;
the joint filter succeeds with a list exactly if the first filter and then the second one succeed
with it, and both orders keep the same nodes whenever both succeed.  What any filter keeps is a
part of the list in its order and is kept as it is by the same filter, and the manifest without
comparators keeps every list. -/
theorem keep_composes {first second : Manifest} {firstSift secondSift : Sift}
    (isFirst : ofManifest first = .ok firstSift) (isSecond : ofManifest second = .ok secondSift) :
    (∃ joint swapped, ofManifest (first ++ second) = .ok joint ∧
      ofManifest (second ++ first) = .ok swapped ∧
      (∀ nodes kept, joint.keep nodes = .ok kept ↔
        ∃ middle, firstSift.keep nodes = .ok middle ∧ secondSift.keep middle = .ok kept) ∧
      ∀ nodes kept other, joint.keep nodes = .ok kept -> swapped.keep nodes = .ok other ->
        kept = other) ∧
    (∀ (sift : Sift) nodes kept, sift.keep nodes = .ok kept ->
      kept.Sublist nodes ∧ sift.keep kept = .ok kept) ∧
    ∃ blank, ofManifest [] = .ok blank ∧ ∀ nodes, blank.keep nodes = .ok nodes := by
  refine ⟨⟨_, _, ofManifest_append isFirst isSecond, ofManifest_append isSecond isFirst,
    fun _ _ => keep_append_iff, fun _ _ _ => eq_of_keep_swapped⟩, fun _ _ _ => sublist_of_keep,
    [], rfl, fun nodes => ?_⟩
  rw [keep_eq_ok_iff]
  exact ⟨fun _ _ => rfl, (List.filter_eq_self.mpr fun _ _ => rfl).symm⟩

/-- Authors, of whom only some say what they enjoy. -/
def sampleAuthors : List Value :=
  [.object [("name", .string "Eva"), ("age", .ofInt 31)],
    .object [("name", .string "Tony"), ("age", .ofInt 45), ("enjoys", .array [.string "tea"])],
    .object [("name", .string "Ada"), ("age", .ofInt 52), ("enjoys", .array [.string "cats"])]]

/-- What the authors enjoy can be asked of the older ones, and it cannot be asked of all. -/
theorem keep_composes_sampleAuthors :
    let older : Manifest := [⟨["age"], "gt", .ofInt 40⟩]
    let enjoysTea : Manifest := [⟨["enjoys"], "includes", .string "tea"⟩]
    ∃ olderSift teaSift joint, ofManifest older = .ok olderSift ∧
      ofManifest enjoysTea = .ok teaSift ∧ ofManifest (older ++ enjoysTea) = .ok joint ∧
      joint.keep sampleAuthors = .ok [sampleAuthors[1]] ∧
      ∀ kept, teaSift.keep sampleAuthors ≠ .ok kept := by
  have isOlder : ofManifest [⟨["age"], "gt", .ofInt 40⟩] =
      .ok [⟨["age"], .ordered .greater (.ofInt 40)⟩] := rfl
  have isTea : ofManifest [⟨["enjoys"], "includes", .string "tea"⟩] =
      .ok [⟨["enjoys"], .including true (.string "tea")⟩] := rfl
  obtain ⟨⟨joint, _, isJoint, _, inTurn, _⟩, _⟩ := keep_composes isOlder isTea
  refine ⟨_, _, joint, isOlder, isTea, isJoint, ?_, ?_⟩
  · rw [inTurn]
    exact ⟨[sampleAuthors[1], sampleAuthors[2]], by decide +kernel, by decide +kernel⟩
  · intro kept isKept
    have decides := (keep_eq_ok_iff.mp isKept).1 _ List.mem_cons_self
    have isRefused : test [⟨["enjoys"], .including true (.string "tea")⟩] sampleAuthors[0] =
        .error (.filterType "includes" .arrayField) := rfl
    exact not_decides_of_test isRefused decides

end ContentGraph.Filter.Sift
