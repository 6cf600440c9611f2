import ContentGraph.Text.Split

/-!
Contract: the parts of a text between marks.

Owns:
- no part holds the mark, and a text without the mark is one part;
- what is put after a text goes to the end of its last part; a mark put there starts an empty
  part;
- `intercalate_splitAt` and `splitAt_intercalate`: cutting at marks and joining with them undo each
  other;
- `marks_apart`: what it means for a text that no part is empty;
- the text around the last mark, and around the first place where a word stands.
-/

namespace ContentGraph.Text

variable {mark : Char}

theorem mark_not_mem_of_mem_splitAt {mark : Char} {text part : List Char}
    (member : part ∈ Text.splitAt mark text) : mark ∉ part := by
  induction text generalizing part with
  | nil =>
      rw [Text.splitAt, List.mem_singleton] at member
      simp [member]
  | cons c rest inductionHypothesis =>
      rw [Text.splitAt] at member
      split at member
      · rcases List.mem_cons.mp member with rfl | inRest
        · simp
        · exact inductionHypothesis inRest
      · next isOther =>
          split at member
          · next first parts cut =>
              rw [cut] at inductionHypothesis
              rcases List.mem_cons.mp member with rfl | inRest
              · have unmarked : mark ∉ first := inductionHypothesis List.mem_cons_self
                simp [unmarked, Ne.symm isOther]
              · exact inductionHypothesis (List.mem_cons_of_mem _ inRest)
          · rw [List.mem_singleton] at member
            simp [member, Ne.symm isOther]

theorem splitAt_ne_nil (text : List Char) : splitAt mark text ≠ [] := by
  cases text with
  | nil => simp [splitAt]
  | cons c rest =>
      rw [splitAt]
      split
      · simp
      · split <;> simp

/-- A text without the mark is one part. -/
theorem splitAt_of_not_mem {text : List Char} (unmarked : mark ∉ text) :
    splitAt mark text = [text] := by
  induction text with
  | nil => rfl
  | cons c rest inductionHypothesis =>
      obtain ⟨isOther, unmarkedRest⟩ := List.ne_and_not_mem_of_not_mem_cons unmarked
      rw [splitAt, if_neg isOther.symm, inductionHypothesis unmarkedRest]

/-- What is put after a text goes to the end of its last part, unless it has the mark itself. -/
theorem splitAt_append {tail : List Char} (unmarked : mark ∉ tail) (text : List Char) :
    ∃ front last, splitAt mark text = front ++ [last] ∧
      splitAt mark (text ++ tail) = front ++ [last ++ tail] := by
  induction text with
  | nil => exact ⟨[], [], rfl, by simpa using splitAt_of_not_mem unmarked⟩
  | cons c rest inductionHypothesis =>
      obtain ⟨front, last, cut, cutLonger⟩ := inductionHypothesis
      by_cases isMark : c = mark
      · exact ⟨[] :: front, last, by simp [splitAt, isMark, cut],
          by simp [splitAt, isMark, cutLonger]⟩
      · cases front with
        | nil =>
            exact ⟨[], c :: last, by simp [splitAt, isMark, cut],
              by simp [splitAt, isMark, cutLonger]⟩
        | cons part parts =>
            exact ⟨(c :: part) :: parts, last, by simp [splitAt, isMark, cut],
              by simp [splitAt, isMark, cutLonger]⟩

/-- A mark ends the parts before it and starts the parts after it. -/
theorem splitAt_append_mark (before after : List Char) :
    splitAt mark (before ++ mark :: after) = splitAt mark before ++ splitAt mark after := by
  induction before with
  | nil => simp [splitAt]
  | cons c rest inductionHypothesis =>
      rw [List.cons_append, splitAt, splitAt, inductionHypothesis]
      split
      · rfl
      · cases cut : splitAt mark rest with
        | nil => exact absurd cut (splitAt_ne_nil rest)
        | cons part parts => rfl

/-- A mark at the end of a text starts an empty part. -/
theorem splitAt_concat (text : List Char) :
    splitAt mark (text ++ [mark]) = splitAt mark text ++ [[]] :=
  splitAt_append_mark text []

/-! ### Joining parts -/

/-- The parts of a text, joined by marks, are the text. -/
theorem intercalate_splitAt (text : List Char) : [mark].intercalate (splitAt mark text) = text := by
  induction text with
  | nil => rfl
  | cons c rest inductionHypothesis =>
      rw [splitAt]
      cases cut : splitAt mark rest with
      | nil => exact absurd cut (splitAt_ne_nil rest)
      | cons part parts =>
          rw [cut] at inductionHypothesis
          split
          · next isMark => rw [List.intercalate_cons_cons, inductionHypothesis, isMark]; rfl
          · cases parts with
            | nil =>
                rw [List.intercalate_singleton] at inductionHypothesis ⊢
                rw [inductionHypothesis]
            | cons next others =>
                rw [List.intercalate_cons_cons] at inductionHypothesis ⊢
                exact congrArg (c :: ·) inductionHypothesis

/-- Each part after the first one comes with a mark before it. -/
theorem intercalate_cons (part : List Char) (parts : List (List Char)) :
    [mark].intercalate (part :: parts) = part ++ parts.flatMap (mark :: ·) := by
  induction parts generalizing part with
  | nil => simp
  | cons next rest inductionHypothesis =>
      rw [List.intercalate_cons_cons, inductionHypothesis, List.flatMap_cons, List.append_assoc,
        List.singleton_append, List.cons_append]

/-- Each part before the last one comes with a mark after it. -/
theorem intercalate_concat (parts : List (List Char)) (last : List Char) :
    [mark].intercalate (parts ++ [last]) = parts.flatMap (· ++ [mark]) ++ last := by
  induction parts with
  | nil => simp
  | cons part rest inductionHypothesis =>
      rw [List.cons_append, List.flatMap_cons, List.append_assoc, ← inductionHypothesis]
      cases rest <;> exact List.intercalate_cons_cons

/-- Joining adds no other characters than the marks. -/
theorem mem_intercalate_iff {c : Char} (isOther : c ≠ mark) {parts : List (List Char)} :
    c ∈ [mark].intercalate parts ↔ c ∈ parts.flatten := by
  cases parts with
  | nil => simp
  | cons part rest => simp [intercalate_cons, isOther]

/-- Parts without marks are what the text is cut into that they make when marks join them. -/
theorem splitAt_intercalate {parts : List (List Char)} (someParts : parts ≠ [])
    (unmarked : ∀ part ∈ parts, mark ∉ part) :
    splitAt mark ([mark].intercalate parts) = parts := by
  induction parts with
  | nil => exact absurd rfl someParts
  | cons part rest inductionHypothesis =>
      obtain ⟨unmarkedPart, unmarkedRest⟩ := List.forall_mem_cons.mp unmarked
      cases rest with
      | nil => rw [List.intercalate_singleton, splitAt_of_not_mem unmarkedPart]
      | cons next others =>
          rw [List.intercalate_cons_cons, List.append_assoc, List.singleton_append,
            splitAt_append_mark, splitAt_of_not_mem unmarkedPart,
            inductionHypothesis (List.cons_ne_nil _ _) unmarkedRest, List.singleton_append]

/-- Where no part is empty, no mark stands at an end of the text or next to another. -/
theorem marks_apart {text : List Char} (someChars : [] ∉ splitAt mark text) :
    text.head? ≠ some mark ∧ text.getLast? ≠ some mark ∧ ¬ [mark, mark] <:+: text := by
  have around {before after : List Char} (isText : text = before ++ mark :: after) :
      [] ∉ splitAt mark before ∧ [] ∉ splitAt mark after := by
    rwa [isText, splitAt_append_mark, List.mem_append, not_or] at someChars
  refine ⟨fun isHead => ?_, fun isLast => ?_, ?_⟩
  · obtain ⟨after, isText⟩ := List.head?_eq_some_iff.mp isHead
    have isFirst : text = [] ++ mark :: after := isText
    exact (around isFirst).1 List.mem_cons_self
  · obtain ⟨before, isText⟩ := List.getLast?_eq_some_iff.mp isLast
    exact (around isText).2 List.mem_cons_self
  · rintro ⟨before, after, isText⟩
    have isDoubled : text = before ++ mark :: (mark :: after) := by rw [← isText]; simp
    refine (around isDoubled).2 ?_
    rw [splitAt, if_pos rfl]
    exact List.mem_cons_self

/-! ### The last mark -/

/-- A text is cut at a mark with none after it. -/
theorem splitAtLast?_append_mark {after : List Char} (unmarked : mark ∉ after)
    (before : List Char) :
    splitAtLast? mark (before ++ mark :: after) = some (before, after) := by
  have passed : ∀ c ∈ after.reverse, decide (c ≠ mark) = true := by
    intro c member
    simpa using ne_of_mem_of_not_mem (List.mem_reverse.mp member) unmarked
  have isReversed : (before ++ mark :: after).reverse =
      after.reverse ++ mark :: before.reverse := by simp
  rw [splitAtLast?, isReversed, List.dropWhile_append_of_pos passed,
    List.takeWhile_append_of_pos passed]
  simp

/-! ### The first place of a word -/

variable {first : Char} {word before text : List Char}

/-- A text is what stands before a word in it, the word, and what stands after it. -/
theorem eq_of_splitAtWord? {after : List Char}
    (cut : splitAtWord? word text = some (before, after)) :
    text = before ++ (word ++ after) := by
  induction text generalizing before with
  | nil =>
      rw [splitAtWord?] at cut
      split at cut
      · next isEmpty =>
          cases cut
          simpa using isEmpty
      · cases cut
  | cons c rest inductionHypothesis =>
      rw [splitAtWord?] at cut
      split at cut
      · next starts =>
          cases cut
          obtain ⟨after, isText⟩ := List.isPrefixOf_iff_prefix.mp starts
          rw [← isText, List.drop_left, List.nil_append]
      · obtain ⟨⟨early, late⟩, cutRest, isCut⟩ := Option.map_eq_some_iff.mp cut
        cases isCut
        rw [inductionHypothesis cutRest, List.cons_append]

/-- A word is found where its first character stands for the first time. -/
theorem splitAtWord?_append (absent : first ∉ before) (after : List Char) :
    splitAtWord? (first :: word) (before ++ (first :: word ++ after)) = some (before, after) := by
  induction before with
  | nil =>
      have starts : (first :: word).isPrefixOf (first :: (word ++ after)) = true := by
        rw [List.isPrefixOf_iff_prefix]
        exact List.prefix_append (first :: word) after
      rw [List.nil_append, List.cons_append, splitAtWord?, if_pos starts]
      simp
  | cons c rest inductionHypothesis =>
      obtain ⟨isOther, absentRest⟩ := List.ne_and_not_mem_of_not_mem_cons absent
      have passed :
          ¬ (first :: word).isPrefixOf (c :: (rest ++ (first :: word ++ after))) = true := by
        simp [List.isPrefixOf, isOther]
      rw [List.cons_append, splitAtWord?, if_neg passed, inductionHypothesis absentRest]
      rfl

theorem splitAtWord?_of_not_mem (absent : first ∉ text) :
    splitAtWord? (first :: word) text = none := by
  cases cut : splitAtWord? (first :: word) text with
  | none => rfl
  | some around => exact absurd (by simp [eq_of_splitAtWord? cut]) absent

end ContentGraph.Text
