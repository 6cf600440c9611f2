import ContentGraph.Proofs.Text.LowerCase
import ContentGraph.Proofs.Text.Runs
import ContentGraph.Proofs.Text.Split
import ContentGraph.Proofs.Text.Trim
import ContentGraph.Text.Naming

/-!
Contract: what a slug is, over all texts, and the slug of a slug.

Owns:
- `toList_slugify`: a slug is the runs of letters and numbers of a text, in lower case, with single
  hyphens between them;
- `slugify_apart`: no hyphen stands at an end of it or next to another;
- `mem_slugify_iff`: its other characters;
- `slugify_slugify_iff`: it is its own slug, unless the text has a dotted capital I.

Does not own: which characters are letters or numbers, and their lower case.
-/

namespace ContentGraph.Text

variable {c : Char} {run : List Char}

/-- A word of a slug: characters that are no hyphens. -/
abbrev IsSlugWord (word : List Char) : Prop :=
  IsRun (fun c => decide (c = '-')) word

/-- The words of a text's slug: its runs of letters and numbers, in lower case. -/
def slugWords (text : List Char) : List (List Char) :=
  (splitRuns (!isAlphanumeric ·) [] text).map (·.flatMap lowerChars)

/-! ### Letters in lower case -/

/-- In the lower case of a letter or a number are letters and numbers in lower case, and the dot
of the dotted capital I. -/
theorem mem_lowerChars {d : Char} (isLetter : isAlphanumeric c = true) (member : d ∈ lowerChars c) :
    isAlphanumeric d = true ∧ lowerChars d = [d] ∨ d = Char.ofNat 0x307 ∧ c = 'İ' := by
  by_cases isDotted : c = 'İ'
  · subst isDotted
    have isLowered : lowerChars 'İ' = ['i', Char.ofNat 0x307] := by decide
    rw [isLowered, List.mem_pair] at member
    rcases member with rfl | rfl
    · exact .inl (by decide)
    · exact .inr ⟨rfl, rfl⟩
  · obtain ⟨lower, isLowered, stays⟩ := lowerChars_of_alphanumeric isLetter isDotted
    rw [isLowered, List.mem_singleton] at member
    exact .inl (member ▸ stays)

theorem dot_not_alphanumeric : isAlphanumeric (Char.ofNat 0x307) = false := by
  decide

theorem hyphen_not_mem_lowerChars (isLetter : isAlphanumeric c = true) : '-' ∉ lowerChars c := by
  intro member
  rcases mem_lowerChars isLetter member with ⟨isHyphen, _⟩ | ⟨isDot, _⟩
  · exact absurd isHyphen (by decide)
  · exact absurd isDot (by decide)

theorem lowerChars_ne_nil (c : Char) : lowerChars c ≠ [] := by
  unfold lowerChars
  split
  · simp
  split
  · simp
  · split <;> simp

/-- A run of letters and numbers is a word without hyphens in lower case too. -/
theorem isSlugWord_lowered (isRun : IsRun (!isAlphanumeric ·) run) :
    IsSlugWord (run.flatMap lowerChars) := by
  obtain ⟨someChars, kept⟩ := isRun
  constructor
  · obtain ⟨first, rest, rfl⟩ := List.exists_cons_of_ne_nil someChars
    simp [lowerChars_ne_nil]
  · intro d member
    obtain ⟨letter, isIn, isLowered⟩ := List.mem_flatMap.mp member
    have isLetter : isAlphanumeric letter = true := by simpa using kept letter isIn
    exact decide_eq_false fun isHyphen => hyphen_not_mem_lowerChars isLetter (isHyphen ▸ isLowered)

/-! ### A slug as its words -/

section Scan

variable {word : List Char} {words : List (List Char)}

/-- A word at the end of a text has its last character. -/
theorem getLast?_append_ne_hyphen (isWord : IsSlugWord word) (front : List Char) :
    (front ++ word).getLast? ≠ some '-' := by
  rw [List.getLast?_append_of_ne_nil _ isWord.someChars]
  intro isLast
  exact of_decide_eq_false (isWord.kept '-' (List.mem_of_getLast? isLast)) rfl

theorem dropHyphens_append (isWord : IsSlugWord word) (front : List Char) :
    dropEndWhile (fun c => decide (c = '-')) (front ++ word) = front ++ word := by
  refine dropEndWhile_of_last fun last isLast => decide_eq_false ?_
  rintro rfl
  exact getLast?_append_ne_hyphen isWord front isLast

/-- The slug while a text is read: the words that are done, each with a hyphen after it, and the
lower case of the run so far. -/
def slugSoFar (words : List (List Char)) (run : List Char) : List Char :=
  words.flatMap (· ++ ['-']) ++ run.reverse.flatMap lowerChars

theorem slugFrom_nil (slug : List Char) :
    slugFrom slug.reverse [] = dropEndWhile (fun c => decide (c = '-')) slug :=
  rfl

theorem slugSoFar_concat (words : List (List Char)) (last : List Char) :
    slugSoFar (words ++ [last]) [] = (words.flatMap (· ++ ['-']) ++ last) ++ ['-'] := by
  simp [slugSoFar]

theorem slugFrom_letter (isLetter : isAlphanumeric c = true) (rest : List Char) :
    slugFrom (slugSoFar words run).reverse (c :: rest) =
      slugFrom (slugSoFar words (c :: run)).reverse rest := by
  have isSoFar : (lowerChars c).reverse ++ (slugSoFar words run).reverse =
      (slugSoFar words (c :: run)).reverse := by simp [slugSoFar]
  rw [slugFrom, if_pos isLetter, isSoFar]

/-- Between two runs the slug is empty or ends in a hyphen. -/
theorem slugFrom_between (isOther : ¬ isAlphanumeric c = true) (rest : List Char) :
    slugFrom (slugSoFar words []).reverse (c :: rest) =
      slugFrom (slugSoFar words []).reverse rest := by
  have isClosed : ((slugSoFar words []).reverse.isEmpty ||
      (slugSoFar words []).reverse.head? = some '-') = true := by
    rcases words.eq_nil_or_concat' with rfl | ⟨front, last, rfl⟩
    · rfl
    · simp [slugSoFar_concat]
  rw [slugFrom, if_neg isOther, if_pos isClosed]

/-- After a run the slug ends in its word, and gets a hyphen. -/
theorem slugFrom_closing (isOther : ¬ isAlphanumeric c = true)
    (isWord : IsSlugWord (run.reverse.flatMap lowerChars)) (rest : List Char) :
    slugFrom (slugSoFar words run).reverse (c :: rest) =
      slugFrom (slugSoFar (words ++ [run.reverse.flatMap lowerChars]) []).reverse rest := by
  have someSlug : slugSoFar words run ≠ [] :=
    List.append_ne_nil_of_right_ne_nil _ isWord.someChars
  have ends : (slugSoFar words run).getLast? ≠ some '-' := getLast?_append_ne_hyphen isWord _
  have isOpen : ¬ ((slugSoFar words run).reverse.isEmpty ||
      (slugSoFar words run).reverse.head? = some '-') = true := by
    simp [List.head?_reverse, ends, someSlug]
  have isSoFar : '-' :: (slugSoFar words run).reverse =
      (slugSoFar (words ++ [run.reverse.flatMap lowerChars]) []).reverse := by
    simp [slugSoFar]
  rw [slugFrom, if_neg isOther, if_neg isOpen, isSoFar]

/-- At the end of the text the slug loses the hyphen after its last word. -/
theorem slugFrom_end (areWords : ∀ word ∈ words, IsSlugWord word)
    (letters : ∀ c ∈ run, (!isAlphanumeric c) = false) :
    slugFrom (slugSoFar words run).reverse [] =
      ['-'].intercalate
        (words ++ (splitRuns (!isAlphanumeric ·) run []).map (·.flatMap lowerChars)) := by
  rw [slugFrom_nil, splitRuns]
  split
  · next noRun =>
      cases List.isEmpty_iff.mp noRun
      rcases words.eq_nil_or_concat' with rfl | ⟨front, last, rfl⟩
      · rfl
      · have isWord : IsSlugWord last := areWords last (by simp)
        rw [slugSoFar_concat, dropEndWhile_append_of_all (by simp), dropHyphens_append isWord,
          List.map_nil, List.append_nil, intercalate_concat]
  · next someRun =>
      have isWord : IsSlugWord (run.reverse.flatMap lowerChars) :=
        isSlugWord_lowered (isRun_reverse someRun letters)
      rw [slugSoFar, dropHyphens_append isWord, List.map_singleton, intercalate_concat]

/-- The slug that is read from a text: the words that are done, and those of its runs. -/
theorem slugFrom_eq {text : List Char} (areWords : ∀ word ∈ words, IsSlugWord word)
    (letters : ∀ c ∈ run, (!isAlphanumeric c) = false) :
    slugFrom (slugSoFar words run).reverse text =
      ['-'].intercalate
        (words ++ (splitRuns (!isAlphanumeric ·) run text).map (·.flatMap lowerChars)) := by
  induction text generalizing words run with
  | nil => exact slugFrom_end areWords letters
  | cons c rest inductionHypothesis =>
      by_cases isLetter : isAlphanumeric c = true
      · have kept : (!isAlphanumeric c) = false := by rw [isLetter]; rfl
        rw [slugFrom_letter isLetter, splitRuns, if_neg (by simp [kept])]
        exact inductionHypothesis areWords (List.forall_mem_cons.mpr ⟨kept, letters⟩)
      · have separates : (!isAlphanumeric c) = true := by simpa using isLetter
        rw [splitRuns, if_pos separates]
        split
        · next noRun =>
            cases List.isEmpty_iff.mp noRun
            rw [slugFrom_between isLetter]
            exact inductionHypothesis areWords letters
        · next someRun =>
            have isWord : IsSlugWord (run.reverse.flatMap lowerChars) :=
              isSlugWord_lowered (isRun_reverse someRun letters)
            have longer : ∀ word ∈ words ++ [run.reverse.flatMap lowerChars], IsSlugWord word :=
              List.forall_mem_append.mpr ⟨areWords, List.forall_mem_singleton.mpr isWord⟩
            rw [slugFrom_closing isLetter isWord,
              inductionHypothesis longer (List.forall_mem_nil _), List.map_cons,
              List.append_assoc, List.singleton_append]

end Scan

/-- A slug is its words with single hyphens between them. -/
theorem toList_slugify (text : String) :
    (slugify text).toList = ['-'].intercalate (slugWords text.toList) := by
  rw [slugify, String.toList_ofList]
  exact slugFrom_eq (List.forall_mem_nil _) (List.forall_mem_nil _)

theorem isSlugWord_of_mem_slugWords {text word : List Char} (member : word ∈ slugWords text) :
    IsSlugWord word := by
  obtain ⟨run, isRun, rfl⟩ := List.mem_map.mp member
  exact isSlugWord_lowered (isRun_of_mem_splitRuns (List.forall_mem_nil _) isRun)

/-- No hyphen stands at an end of a slug or next to another. -/
theorem slugify_apart (text : String) :
    (slugify text).toList.head? ≠ some '-' ∧ (slugify text).toList.getLast? ≠ some '-' ∧
      ¬ ['-', '-'] <:+: (slugify text).toList := by
  rw [toList_slugify]
  by_cases noWords : slugWords text.toList = []
  · rw [noWords]
    decide
  · refine marks_apart ?_
    rw [splitAt_intercalate noWords fun word member isHyphen =>
      of_decide_eq_false ((isSlugWord_of_mem_slugWords member).kept '-' isHyphen) rfl]
    exact fun member => (isSlugWord_of_mem_slugWords member).someChars rfl

/-! ### The characters of a slug -/

variable {text : String}

/-- Besides hyphens, a slug has the lower case of the letters and numbers of the text. -/
theorem mem_slugify_iff (isOther : c ≠ '-') :
    c ∈ (slugify text).toList ↔
      ∃ letter ∈ text.toList, isAlphanumeric letter = true ∧ c ∈ lowerChars letter := by
  have letters : (splitRuns (!isAlphanumeric ·) [] text.toList).flatten =
      text.toList.filter isAlphanumeric := by simp [flatten_splitRuns]
  have isLowered : (slugWords text.toList).flatten =
      (text.toList.filter isAlphanumeric).flatMap lowerChars := by
    rw [← letters, slugWords, ← List.flatMap_def, ← @List.flatMap_id _ (splitRuns _ _ _),
      List.flatMap_assoc]
    rfl
  rw [toList_slugify, mem_intercalate_iff isOther, isLowered]
  simp [and_assoc]

/-- A character that is no hyphen, letter or number is in no slug, but for the dot. -/
theorem not_mem_slugify (isOther : c ≠ '-') (notLetter : isAlphanumeric c = false)
    (notDot : c ≠ Char.ofNat 0x307) : c ∉ (slugify text).toList := by
  intro member
  obtain ⟨letter, _, isLetter, isLowered⟩ := (mem_slugify_iff isOther).mp member
  rcases mem_lowerChars isLetter isLowered with ⟨isKept, _⟩ | ⟨isDot, _⟩
  · exact absurd isKept (by simp [notLetter])
  · exact notDot isDot

theorem separator_not_mem_slugify (text : String) : '/' ∉ (slugify text).toList :=
  not_mem_slugify (by decide) (by decide) (by decide)

theorem dotted_not_mem_slugify (text : String) : 'İ' ∉ (slugify text).toList := by
  intro member
  obtain ⟨letter, _, isLetter, isLowered⟩ := (mem_slugify_iff (by decide)).mp member
  rcases mem_lowerChars isLetter isLowered with ⟨_, stays⟩ | ⟨isDot, _⟩
  · exact absurd stays (by decide)
  · exact absurd isDot (by decide)

theorem dot_mem_slugify_iff : Char.ofNat 0x307 ∈ (slugify text).toList ↔ 'İ' ∈ text.toList := by
  rw [mem_slugify_iff (by decide)]
  constructor
  · rintro ⟨letter, isIn, isLetter, isLowered⟩
    rcases mem_lowerChars isLetter isLowered with ⟨isDot, _⟩ | ⟨_, rfl⟩
    · exact absurd isDot (by rw [dot_not_alphanumeric]; decide)
    · exact isIn
  · intro isIn
    exact ⟨'İ', isIn, by decide, by decide⟩

/-! ### The slug of a slug -/

/-- A slug without the dot is its own slug: its words are runs of letters in lower case. -/
theorem slugify_slugify (noDot : Char.ofNat 0x307 ∉ (slugify text).toList) :
    slugify (slugify text) = slugify text := by
  have inSlug : ∀ word ∈ slugWords text.toList, ∀ c ∈ word,
      isAlphanumeric c = true ∧ lowerChars c = [c] := by
    intro word isWord c member
    have notHyphen : c ≠ '-' :=
      of_decide_eq_false ((isSlugWord_of_mem_slugWords isWord).kept c member)
    have isIn : c ∈ (slugify text).toList := by
      rw [toList_slugify, mem_intercalate_iff notHyphen]
      exact List.mem_flatten.mpr ⟨word, isWord, member⟩
    obtain ⟨letter, _, isLetter, isLowered⟩ := (mem_slugify_iff notHyphen).mp isIn
    refine (mem_lowerChars isLetter isLowered).resolve_right fun isDot => noDot ?_
    exact isDot.1 ▸ isIn
  have areRuns : ∀ word ∈ slugWords text.toList, IsRun (!isAlphanumeric ·) word := by
    intro word isWord
    refine ⟨(isSlugWord_of_mem_slugWords isWord).someChars, fun c member => ?_⟩
    rw [(inSlug word isWord c member).1]
    rfl
  have isLowered : ∀ word ∈ slugWords text.toList, word.flatMap lowerChars = word := by
    intro word isWord
    rw [List.flatMap_congr fun c member => (inSlug word isWord c member).2]
    simp
  have sameWords : slugWords (slugify text).toList = slugWords text.toList := by
    rw [toList_slugify, slugWords, splitRuns_intercalate (by decide) areRuns,
      List.map_congr_left isLowered, List.map_id']
  rw [← String.toList_inj, toList_slugify, sameWords, toList_slugify]

/-- A slug is its own slug exactly if the text has no dotted capital I. -/
theorem slugify_slugify_iff : slugify (slugify text) = slugify text ↔ 'İ' ∉ text.toList := by
  constructor
  · intro isStable isIn
    have hasDot := dot_mem_slugify_iff.mpr isIn
    rw [← isStable, dot_mem_slugify_iff] at hasDot
    exact dotted_not_mem_slugify text hasDot
  · intro notIn
    exact slugify_slugify (mt dot_mem_slugify_iff.mp notIn)

/-- The slug of a slug is its own slug, whatever the text was. -/
theorem slugify_three_times (text : String) :
    slugify (slugify (slugify text)) = slugify (slugify text) :=
  slugify_slugify_iff.mpr (dotted_not_mem_slugify text)

end ContentGraph.Text
