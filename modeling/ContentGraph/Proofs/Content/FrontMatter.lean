import ContentGraph.Content.Document
import ContentGraph.Proofs.Text.Split
import ContentGraph.Proofs.Text.Trim

/-!
Contract: what a text with front matter is cut into, and that nothing of it is lost.

Owns:
- `lineInduction` and `joinLines`: a text as lines with a line feed after each of them, and a last
  line;
- `isFence_iff`, `untilFence?_sound` and `untilFence?_complete`: where the first fence of a text is;
- `HasFrontMatter`, the parts of a text with front matter, and `splitFrontMatter_exact`: a text that
  has these parts is cut into them, any other text is left whole, and what was put between fences
  comes back whatever fences follow it.
-/

namespace ContentGraph.Content

/-! ### Lines -/

/-- What holds of a last line, and of a line with its line feed before a text of which it holds,
holds of every text. -/
theorem lineInduction {motive : List Char -> Prop}
    (last : ∀ line, '\n' ∉ line -> motive line)
    (before : ∀ line rest, '\n' ∉ line -> motive rest -> motive (line ++ '\n' :: rest))
    (text : List Char) : motive text := by
  by_cases broken : '\n' ∈ text
  · obtain ⟨line, rest, isText, isLine⟩ := List.eq_append_cons_of_mem broken
    have shorter : rest.length < text.length := by
      rw [isText, List.length_append, List.length_cons]
      omega
    exact isText ▸ before line rest isLine (lineInduction last before rest)
  · exact last text broken
termination_by text.length

/-- Lines with a line feed after each of them. -/
def joinLines (lines : List (List Char)) : List Char :=
  lines.flatMap fun line => line ++ ['\n']

theorem splitLine_append {line : List Char} (isLine : '\n' ∉ line) (rest : List Char) :
    splitLine (line ++ '\n' :: rest) = (line ++ ['\n'], rest) := by
  induction line with
  | nil => rfl
  | cons c others inductionHypothesis =>
      obtain ⟨isOther, areLine⟩ := List.ne_and_not_mem_of_not_mem_cons isLine
      rw [List.cons_append, splitLine]
      · rw [inductionHypothesis areLine]
        rfl
      · exact isOther.symm

theorem splitLine_of_not_mem {line : List Char} (isLine : '\n' ∉ line) :
    splitLine line = (line, []) := by
  induction line with
  | nil => rfl
  | cons c rest inductionHypothesis =>
      obtain ⟨isOther, isRest⟩ := List.ne_and_not_mem_of_not_mem_cons isLine
      rw [splitLine, inductionHypothesis isRest]
      exact isOther.symm

theorem splitAt_line {line : List Char} (isLine : '\n' ∉ line) (rest : List Char) :
    Text.splitAt '\n' (line ++ '\n' :: rest) = line :: Text.splitAt '\n' rest := by
  rw [Text.splitAt_append_mark, Text.splitAt_of_not_mem isLine, List.singleton_append]

/-- A text with a line feed after it consists of its lines. -/
theorem joinLines_splitAt (text : List Char) :
    joinLines (Text.splitAt '\n' text) = text ++ ['\n'] := by
  induction text with
  | nil => rfl
  | cons c rest inductionHypothesis =>
      rw [Text.splitAt]
      split
      · next isBreak =>
          rw [joinLines] at inductionHypothesis ⊢
          simp [inductionHypothesis, isBreak]
      · cases cut : Text.splitAt '\n' rest with
        | nil =>
            rw [cut] at inductionHypothesis
            simp [joinLines] at inductionHypothesis
        | cons line lines =>
            rw [cut, joinLines] at inductionHypothesis
            simp only [joinLines, List.flatMap_cons, List.cons_append] at inductionHypothesis ⊢
            rw [inductionHypothesis]

/-! ### Fences -/

/-- A fence is three hyphens with only white space after them. -/
theorem isFence_iff {line : List Char} :
    isFence line = true ↔
      ∃ blanks, (∀ c ∈ blanks, Text.isBlank c = true) ∧ line = "---".toList ++ blanks := by
  constructor
  · intro fenced
    have hyphens : line.rdropWhile Text.isBlank = "---".toList := of_decide_eq_true fenced
    refine ⟨line.rtakeWhile Text.isBlank, fun _ => List.mem_rtakeWhile_imp, ?_⟩
    rw [← hyphens, List.rdropWhile_append_rtakeWhile]
  · rintro ⟨blanks, areBlank, rfl⟩
    rw [isFence, Text.dropEndWhile_append_of_all areBlank]
    decide

/-- The line feed at its end does not make a line a fence, nor keeps it from being one. -/
theorem isFence_append_lineFeed (line : List Char) : isFence (line ++ ['\n']) = isFence line := by
  have blank : Text.isBlank '\n' = true := rfl
  simp [isFence, Text.dropEndWhile, blank]

theorem untilFence?_of_fence {fence : List Char} (isLine : '\n' ∉ fence)
    (fenced : isFence fence = true) (rest : List Char) :
    untilFence? (fence ++ '\n' :: rest) = some ([], rest) := by
  cases cut : fence ++ '\n' :: rest with
  | nil => simp at cut
  | cons c others =>
      rw [untilFence?, ← cut, splitLine_append isLine, isFence_append_lineFeed, fenced]
      rfl

theorem untilFence?_line {line : List Char} (isLine : '\n' ∉ line)
    (unfenced : isFence line = false) (rest : List Char) :
    untilFence? (line ++ '\n' :: rest) =
      (untilFence? rest).map fun (front, body) => (line ++ '\n' :: front, body) := by
  cases cut : line ++ '\n' :: rest with
  | nil => simp at cut
  | cons c others =>
      rw [untilFence?, ← cut, splitLine_append isLine, isFence_append_lineFeed, unfenced]
      simp

/-- A text of one line is cut if that line is a fence. -/
theorem untilFence?_of_not_mem {line : List Char} (isLine : '\n' ∉ line) :
    untilFence? line = if isFence line then some ([], []) else none := by
  cases line with
  | nil => simp [untilFence?, isFence, Text.dropEndWhile]
  | cons c rest =>
      rw [untilFence?, splitLine_of_not_mem isLine]
      cases isFence (c :: rest) <;> simp [untilFence?]

/-- Lines that are no fences are passed over. -/
theorem untilFence?_lines {lines : List (List Char)} (areLines : ∀ line ∈ lines, '\n' ∉ line)
    (unfenced : ∀ line ∈ lines, isFence line = false) (rest : List Char) :
    untilFence? (joinLines lines ++ rest) =
      (untilFence? rest).map fun (front, body) => (joinLines lines ++ front, body) := by
  induction lines with
  | nil => simp [joinLines]
  | cons line others inductionHypothesis =>
      obtain ⟨isLine, areOthers⟩ := List.forall_mem_cons.mp areLines
      obtain ⟨isUnfenced, areUnfenced⟩ := List.forall_mem_cons.mp unfenced
      have first : joinLines (line :: others) ++ rest =
          line ++ '\n' :: (joinLines others ++ rest) := by
        simp [joinLines]
      rw [first, untilFence?_line isLine isUnfenced, inductionHypothesis areOthers areUnfenced,
        Option.map_map]
      congr 1
      funext cut
      simp [joinLines]

/-- A text is cut unless none of its lines is a fence. -/
theorem untilFence?_eq_none_iff {text : List Char} :
    untilFence? text = none ↔ ∀ line ∈ Text.splitAt '\n' text, isFence line = false := by
  induction text using lineInduction with
  | last line isLine =>
      rw [untilFence?_of_not_mem isLine, Text.splitAt_of_not_mem isLine]
      cases fenced : isFence line <;> simp [fenced]
  | before line rest isLine inductionHypothesis =>
      rw [splitAt_line isLine, List.forall_mem_cons, ← inductionHypothesis]
      cases fenced : isFence line with
      | false => simp [untilFence?_line isLine fenced]
      | true => simp [untilFence?_of_fence isLine fenced]

/-- Where a text is cut, whole lines that are no fences stand before a fence.  A fence without a
line feed is the last line. -/
theorem untilFence?_sound {text front body : List Char}
    (isCut : untilFence? text = some (front, body)) :
    ∃ lines fence, front = joinLines lines ∧ (∀ line ∈ lines, '\n' ∉ line) ∧
      (∀ line ∈ lines, isFence line = false) ∧ '\n' ∉ fence ∧ isFence fence = true ∧
      (text = front ++ fence ++ '\n' :: body ∨ text = front ++ fence ∧ body = []) := by
  induction text using lineInduction generalizing front with
  | last line isLine =>
      rw [untilFence?_of_not_mem isLine, Option.ite_none_right_eq_some] at isCut
      obtain ⟨fenced, isCut⟩ := isCut
      cases isCut
      exact ⟨[], line, rfl, by simp, by simp, isLine, fenced, .inr (by simp)⟩
  | before line rest isLine inductionHypothesis =>
      cases fenced : isFence line with
      | true =>
          rw [untilFence?_of_fence isLine fenced] at isCut
          cases isCut
          exact ⟨[], line, rfl, by simp, by simp, isLine, fenced, .inl rfl⟩
      | false =>
          rw [untilFence?_line isLine fenced, Option.map_eq_some_iff] at isCut
          obtain ⟨⟨frontRest, bodyRest⟩, isCutRest, isCut⟩ := isCut
          cases isCut
          obtain ⟨lines, fence, rfl, areLines, unfenced, isFenceLine, isFenced, isRest⟩ :=
            inductionHypothesis isCutRest
          refine ⟨line :: lines, fence, by simp [joinLines], ?_, ?_, isFenceLine, isFenced, ?_⟩
          · exact List.forall_mem_cons.mpr ⟨isLine, areLines⟩
          · exact List.forall_mem_cons.mpr ⟨fenced, unfenced⟩
          · rcases isRest with rfl | ⟨rfl, rfl⟩ <;> simp

theorem untilFence?_complete {lines : List (List Char)} {fence : List Char}
    (areLines : ∀ line ∈ lines, '\n' ∉ line) (unfenced : ∀ line ∈ lines, isFence line = false)
    (isLine : '\n' ∉ fence) (fenced : isFence fence = true) (body : List Char) :
    untilFence? (joinLines lines ++ fence ++ '\n' :: body) = some (joinLines lines, body) ∧
      untilFence? (joinLines lines ++ fence) = some (joinLines lines, []) := by
  rw [List.append_assoc, untilFence?_lines areLines unfenced, untilFence?_lines areLines unfenced,
    untilFence?_of_fence isLine fenced, untilFence?_of_not_mem isLine, fenced]
  simp

/-! ### Front matter and body -/

/-- A text of whole lines, none of which is a fence. -/
structure Unfenced (text : String) : Prop where
  ended : text = "" ∨ text.toList.getLast? = some '\n'
  unfenced (line : List Char) (member : line ∈ Text.splitAt '\n' text.toList) :
    isFence line = false

/-- Such a text is what its lines make when they are joined. -/
theorem Unfenced.lines {text : String} (whole : Unfenced text) :
    ∃ lines, joinLines lines = text.toList ∧ (∀ line ∈ lines, '\n' ∉ line) ∧
      ∀ line ∈ lines, isFence line = false := by
  rcases whole.ended with isEmpty | isEnded
  · exact ⟨[], by simp [isEmpty, joinLines], by simp, by simp⟩
  · obtain ⟨before, isText⟩ := List.getLast?_eq_some_iff.mp isEnded
    refine ⟨Text.splitAt '\n' before, ?_, fun _ => Text.mark_not_mem_of_mem_splitAt, ?_⟩
    · rw [joinLines_splitAt, isText]
    · intro line member
      refine whole.unfenced line ?_
      rw [isText, Text.splitAt_concat]
      exact List.mem_append_left _ member

/-- Lines that are no fences make such a text. -/
theorem unfenced_of_lines {text : String} {lines : List (List Char)}
    (isText : text.toList = joinLines lines) (areLines : ∀ line ∈ lines, '\n' ∉ line)
    (unfenced : ∀ line ∈ lines, isFence line = false) : Unfenced text := by
  constructor
  · rcases List.eq_nil_or_concat lines with rfl | ⟨others, line, rfl⟩
    · exact .inl (String.toList_eq_nil_iff.mp isText)
    · exact .inr (by simp [isText, joinLines])
  · have cut : Text.splitAt '\n' (joinLines lines) = lines ++ [[]] := by
      clear isText unfenced
      induction lines with
      | nil => rfl
      | cons line others inductionHypothesis =>
          obtain ⟨isLine, areOthers⟩ := List.forall_mem_cons.mp areLines
          have first : joinLines (line :: others) = line ++ '\n' :: joinLines others := by
            simp [joinLines]
          rw [first, splitAt_line isLine, inductionHypothesis areOthers, List.cons_append]
    intro line member
    rw [isText, cut] at member
    rcases List.mem_append.mp member with isLine | isEmpty
    · exact unfenced line isLine
    · rw [List.mem_singleton.mp isEmpty]
      rfl

/-- The lines that open a front matter. -/
def openings : List String := ["---\n", "---\r\n"]

theorem afterOpening?_eq_some_iff {text rest : List Char} :
    afterOpening? text = some rest ↔ ∃ opening ∈ openings, text = opening.toList ++ rest := by
  constructor
  · intro opened
    unfold afterOpening? at opened
    split at opened <;> cases opened
    · exact ⟨"---\n", by simp [openings], rfl⟩
    · exact ⟨"---\r\n", by simp [openings], rfl⟩
  · rintro ⟨opening, isOpening, rfl⟩
    rcases List.mem_pair.mp isOpening with rfl | rfl <;> rfl

/-- Whether a line closes a front matter: three hyphens with only white space after them, and a
line feed unless nothing follows the line. -/
def IsClosing (line after : String) : Prop :=
  ∃ blanks : List Char, (∀ c ∈ blanks, Text.isBlank c = true) ∧ '\n' ∉ blanks ∧
    (line = "---" ++ String.ofList blanks ++ "\n" ∨
      line = "---" ++ String.ofList blanks ∧ after = "")

/-- A text is an opening line, a front matter of whole lines that are no fences, a closing line, and
a body. -/
structure HasFrontMatter (text front body : String) : Prop where
  whole : Unfenced front
  parts : ∃ opening ∈ openings, ∃ closing, IsClosing closing body ∧
    text = opening ++ front ++ closing ++ body

/-- A text with front matter is cut into its parts, and no other text is cut. -/
theorem splitFrontMatter_eq_some_iff {text front body : String} :
    splitFrontMatter text = (some front, body) ↔ HasFrontMatter text front body := by
  constructor
  · intro isSplit
    unfold splitFrontMatter at isSplit
    split at isSplit
    · next frontChars bodyChars isCut =>
        cases isSplit
        obtain ⟨rest, opened, isCutRest⟩ := Option.bind_eq_some_iff.mp isCut
        obtain ⟨opening, isOpening, isText⟩ := afterOpening?_eq_some_iff.mp opened
        obtain ⟨lines, fence, rfl, areLines, unfenced, isLine, fenced, isRest⟩ :=
          untilFence?_sound isCutRest
        obtain ⟨blanks, areBlank, rfl⟩ := isFence_iff.mp fenced
        have noBreak : '\n' ∉ blanks := fun member => isLine (List.mem_append_right _ member)
        have closed : ∃ closing, IsClosing closing (String.ofList bodyChars) ∧
            rest = joinLines lines ++ closing.toList ++ bodyChars := by
          rcases isRest with rfl | ⟨rfl, rfl⟩
          · exact ⟨_, ⟨blanks, areBlank, noBreak, .inl rfl⟩, by simp⟩
          · exact ⟨_, ⟨blanks, areBlank, noBreak, .inr ⟨rfl, rfl⟩⟩, by simp⟩
        obtain ⟨closing, isClosing, rfl⟩ := closed
        refine ⟨unfenced_of_lines (String.toList_ofList ..) areLines unfenced, opening, isOpening,
          closing, isClosing, ?_⟩
        simp [← String.toList_inj, isText]
    · cases isSplit
  · rintro ⟨whole, opening, isOpening, closing, ⟨blanks, areBlank, noBreak, isClosing⟩, rfl⟩
    obtain ⟨lines, isFront, areLines, unfenced⟩ := whole.lines
    have isLine : '\n' ∉ "---".toList ++ blanks := by simp [noBreak]
    have fenced : isFence ("---".toList ++ blanks) = true := isFence_iff.mpr ⟨blanks, areBlank, rfl⟩
    obtain ⟨goesOn, ends⟩ := untilFence?_complete areLines unfenced isLine fenced body.toList
    have opened : afterOpening? (opening ++ front ++ closing ++ body).toList =
        some (front.toList ++ closing.toList ++ body.toList) :=
      afterOpening?_eq_some_iff.mpr ⟨opening, isOpening, by simp⟩
    have isCut : untilFence? (front.toList ++ closing.toList ++ body.toList) =
        some (front.toList, body.toList) := by
      rw [← isFront]
      rcases isClosing with rfl | ⟨rfl, rfl⟩
      · simpa using goesOn
      · simpa using ends
    rw [splitFrontMatter, opened, Option.bind_some, isCut]
    simp

/-- A text is left whole if it does not start with an opening line or no line after that is a
fence. -/
theorem splitFrontMatter_eq_none_iff {text body : String} :
    splitFrontMatter text = (none, body) ↔
      body = text ∧ ∀ opening ∈ openings, ∀ rest, text = opening ++ rest ->
        ∀ line ∈ Text.splitAt '\n' rest.toList, isFence line = false := by
  have uncut : (afterOpening? text.toList).bind untilFence? = none ↔
      ∀ opening ∈ openings, ∀ rest, text = opening ++ rest ->
        ∀ line ∈ Text.splitAt '\n' rest.toList, isFence line = false := by
    rw [Option.bind_eq_none_iff]
    constructor
    · intro none opening isOpening rest isText
      refine untilFence?_eq_none_iff.mp (none rest.toList ?_)
      exact afterOpening?_eq_some_iff.mpr ⟨opening, isOpening, by simp [isText]⟩
    · intro unfenced rest opened
      obtain ⟨opening, isOpening, isText⟩ := afterOpening?_eq_some_iff.mp opened
      rw [untilFence?_eq_none_iff]
      simpa using unfenced opening isOpening (String.ofList rest) (by
        simp [← String.toList_inj, isText])
  rw [← uncut, splitFrontMatter]
  cases (afterOpening? text.toList).bind untilFence? with
  | none => simp [eq_comm]
  | some cut => simp

/-- The front matter ends at the first fence: one without fences of its own is read back whole,
and all that follows it is the body. -/
theorem splitFrontMatter_fenced {front : String} (whole : Unfenced front) (body : String) :
    splitFrontMatter ("---\n" ++ front ++ "---\n" ++ body) = (some front, body) := by
  have closes : IsClosing "---\n" body := ⟨[], by simp, by simp, .inl rfl⟩
  exact splitFrontMatter_eq_some_iff.mpr
    ⟨whole, "---\n", List.mem_cons_self, "---\n", closes, rfl⟩

/-- Cutting a text at its front matter loses nothing and undoes writing.  A text has a front matter
and a body exactly if it is an opening line, the front matter, the first fence line and the body.
It has none exactly if it is the body as a whole, and either it does not start with an opening line
or no line after that is a fence.  What was written between two fences comes back whole if it is
lines that are no fences, with whatever body was written after it. -/
theorem splitFrontMatter_exact :
    (∀ text front body, splitFrontMatter text = (some front, body) ↔
      HasFrontMatter text front body) ∧
    (∀ text body, splitFrontMatter text = (none, body) ↔
      body = text ∧ ∀ opening ∈ openings, ∀ rest, text = opening ++ rest ->
        ∀ line ∈ Text.splitAt '\n' rest.toList, isFence line = false) ∧
    ∀ front body, Unfenced front ->
      splitFrontMatter ("---\n" ++ front ++ "---\n" ++ body) = (some front, body) :=
  ⟨fun _ _ _ => splitFrontMatter_eq_some_iff, fun _ _ => splitFrontMatter_eq_none_iff,
    fun _ body whole => splitFrontMatter_fenced whole body⟩

/-- A carriage return before the line feed of the opening line, blanks after the last fence and no
line feed there; a fence in the body; and a text that opens without a fence later. -/
theorem splitFrontMatter_exact_sampleFences :
    Unfenced "id: a\r\n" ∧
      splitFrontMatter "---\r\nid: a\r\n--- \t" = (some "id: a\r\n", "") ∧
      splitFrontMatter "---\nid: a\r\n---\n---\nx\n" = (some "id: a\r\n", "---\nx\n") ∧
      splitFrontMatter "---\n ---\n" = (none, "---\n ---\n") := by
  have whole : Unfenced "id: a\r\n" := ⟨.inr (by decide), by decide⟩
  refine ⟨whole, ?_, splitFrontMatter_exact.2.2 "id: a\r\n" "---\nx\n" whole, ?_⟩
  · refine (splitFrontMatter_exact.1 _ _ _).mpr ⟨whole, "---\r\n", by decide, "--- \t", ?_, rfl⟩
    have areBlank : ∀ c ∈ [' ', '\t'], Text.isBlank c = true := by
      intro c member
      rcases List.mem_pair.mp member with rfl | rfl <;> rfl
    exact ⟨[' ', '\t'], areBlank, by decide, .inr ⟨rfl, rfl⟩⟩
  · refine (splitFrontMatter_exact.2.1 _ _).mpr ⟨rfl, ?_⟩
    intro opening isOpening rest isText
    rcases List.mem_pair.mp isOpening with rfl | rfl
    · have isRest : rest = " ---\n" := by
        simpa [← String.toList_inj, eq_comm] using isText
      subst isRest
      decide
    · simp [← String.toList_inj] at isText

end ContentGraph.Content
