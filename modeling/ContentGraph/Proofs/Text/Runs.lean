import ContentGraph.Text.Blank
import Mathlib.Data.List.Basic

/-!
Contract: the runs between separating characters, and the texts that runs make.

Owns:
- `IsRun`: some characters, none of them separating;
- `isRun_of_mem_splitRuns` and `flatten_splitRuns`: a text is cut into such runs only, and they
  have all its other characters, in order;
- `splitRuns_intercalate`: runs with single marks between them are the runs of the text they make.

Does not own: what is between the runs of a text; other or more separating characters are lost.
-/

namespace ContentGraph.Text

variable {separates : Char -> Bool} {run part : List Char} {mark : Char}

/-- A run: it has characters, and none of them separates. -/
structure IsRun (separates : Char -> Bool) (part : List Char) : Prop where
  someChars : part ≠ []
  kept : ∀ c ∈ part, separates c = false

/-! ### The runs of a text -/

theorem isRun_reverse (someRun : ¬ run.isEmpty = true) (kept : ∀ c ∈ run, separates c = false) :
    IsRun separates run.reverse :=
  ⟨by simpa using someRun, by simpa using kept⟩

theorem isRun_of_mem_splitRuns {text : List Char} (keptRun : ∀ c ∈ run, separates c = false)
    (member : part ∈ splitRuns separates run text) : IsRun separates part := by
  induction text generalizing run with
  | nil =>
      rw [splitRuns] at member
      split at member
      · cases member
      · next someRun =>
          cases List.mem_singleton.mp member
          exact isRun_reverse someRun keptRun
  | cons c rest inductionHypothesis =>
      rw [splitRuns] at member
      split at member
      · have ofRest := inductionHypothesis (List.forall_mem_nil _)
        split at member
        · exact ofRest member
        · next someRun =>
            rcases List.mem_cons.mp member with rfl | inRest
            · exact isRun_reverse someRun keptRun
            · exact ofRest inRest
      · next isKept =>
          refine inductionHypothesis (List.forall_mem_cons.mpr ⟨?_, keptRun⟩) member
          simpa using isKept

/-- The runs of a text have its characters that do not separate. -/
theorem flatten_splitRuns (separates : Char -> Bool) (run text : List Char) :
    (splitRuns separates run text).flatten = run.reverse ++ text.filter (!separates ·) := by
  induction text generalizing run with
  | nil =>
      rw [splitRuns]
      split
      · next noRun => simp [List.isEmpty_iff.mp noRun]
      · simp
  | cons c rest inductionHypothesis =>
      rw [splitRuns]
      split
      · next isSeparator =>
          split
          · next noRun => simp [inductionHypothesis, isSeparator, List.isEmpty_iff.mp noRun]
          · simp [inductionHypothesis, isSeparator]
      · next isKept => simp [inductionHypothesis, isKept]

/-! ### The text of runs -/

/-- Characters that do not separate go to the run, the latest one first. -/
theorem splitRuns_append (kept : ∀ c ∈ part, separates c = false) (run rest : List Char) :
    splitRuns separates run (part ++ rest) =
      splitRuns separates (part.reverse ++ run) rest := by
  induction part generalizing run with
  | nil => rfl
  | cons c others inductionHypothesis =>
      obtain ⟨isKept, othersKept⟩ := List.forall_mem_cons.mp kept
      rw [List.cons_append, splitRuns, if_neg (by simp [isKept]), inductionHypothesis othersKept,
        List.reverse_cons, List.append_assoc, List.singleton_append]

theorem splitRuns_of_isRun (isRun : IsRun separates part) :
    splitRuns separates [] part = [part] := by
  have atEnd := splitRuns_append isRun.kept [] []
  rw [List.append_nil, List.append_nil] at atEnd
  rw [atEnd, splitRuns, if_neg (by simp [isRun.someChars]), List.reverse_reverse]

/-- A mark ends the run before it. -/
theorem splitRuns_append_mark (isMark : separates mark = true) (isRun : IsRun separates part)
    (rest : List Char) :
    splitRuns separates [] (part ++ mark :: rest) = part :: splitRuns separates [] rest := by
  rw [splitRuns_append isRun.kept, List.append_nil, splitRuns, if_pos isMark,
    if_neg (by simp [isRun.someChars]), List.reverse_reverse]

/-- Runs with single marks between them are the runs of the text that they make. -/
theorem splitRuns_intercalate {parts : List (List Char)} (isMark : separates mark = true)
    (areRuns : ∀ part ∈ parts, IsRun separates part) :
    splitRuns separates [] ([mark].intercalate parts) = parts := by
  induction parts with
  | nil => rfl
  | cons part rest inductionHypothesis =>
      obtain ⟨isRun, restRuns⟩ := List.forall_mem_cons.mp areRuns
      cases rest with
      | nil => rw [List.intercalate_singleton, splitRuns_of_isRun isRun]
      | cons next others =>
          rw [List.intercalate_cons_cons, List.append_assoc, List.singleton_append,
            splitRuns_append_mark isMark isRun, inductionHypothesis restRuns]

end ContentGraph.Text
