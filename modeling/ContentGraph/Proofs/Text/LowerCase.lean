import ContentGraph.Text.Alphanumeric
import ContentGraph.Text.LetterCase
import Mathlib.Data.List.Chain

/-!
Contract: the lower case of letters and numbers.

Owns:
- `CharRuns.holds_of_mem` and `MappingRuns.exists_run_of_image?`: which run of a table answers;
- checks of all images of a run at once, by its ends and its stride;
- `lowerChars_of_alphanumeric`: the lower case of a letter or a number is one letter or number
  that is in lower case, except for the dotted capital I.

Does not own: the tables, and the case mappings of whole texts.
-/

namespace ContentGraph.Text

/-! ### Runs -/

/-- In a table written in increasing order, a run without gaps holds all between its ends. -/
theorem CharRuns.holds_of_mem {runs : CharRuns} {first last point : Nat}
    (increasing : runs.Pairwise (·.1 < ·.1)) (member : (first, last, 1) ∈ runs)
    (notBefore : first ≤ point) (notAfter : point ≤ last) : runs.holds point = true := by
  induction runs with
  | nil => cases member
  | cons run rest inductionHypothesis =>
      obtain ⟨isFirst, increasingRest⟩ := List.pairwise_cons.mp increasing
      obtain ⟨runFirst, runLast, stride⟩ := run
      rcases List.mem_cons.mp member with isRun | inRest
      · cases isRun
        rw [holds, if_neg (by omega), if_pos ⟨notAfter, Nat.mod_one _⟩]
      · have isLater : runFirst < first := isFirst _ inRest
        rw [holds, if_neg (by omega)]
        split
        · rfl
        · exact inductionHypothesis increasingRest inRest

/-- An image comes from a run that holds the code point. -/
theorem MappingRuns.exists_run_of_image? {runs : MappingRuns} {point image : Nat}
    (isImage : runs.image? point = some image) :
    ∃ first last stride target, (first, last, stride, target) ∈ runs ∧ first ≤ point ∧
      point ≤ last ∧ (point - first) % stride = 0 ∧ image = target + (point - first) := by
  induction runs with
  | nil => cases isImage
  | cons run rest inductionHypothesis =>
      obtain ⟨first, last, stride, target⟩ := run
      rw [image?] at isImage
      split at isImage
      · cases isImage
      split at isImage
      · next notBefore isHeld =>
          cases isImage
          exact ⟨first, last, stride, target, List.mem_cons_self, by omega, isHeld.1, isHeld.2,
            rfl⟩
      · obtain ⟨first, last, stride, target, inRest, isRun⟩ := inductionHypothesis isImage
        exact ⟨first, last, stride, target, List.mem_cons_of_mem _ inRest, isRun⟩

/-! ### All images of a run

The checks are on the ends of runs, and spelled with `Nat.ble` and `Nat.beq`, which the kernel
computes at once: the tables are too long to go through the images one by one. -/

/-- The last image of a run. -/
def lastImage (run : Nat × Nat × Nat × Nat) : Nat :=
  run.2.2.2 + (run.2.1 - run.1)

/-- Whether the images of a run are characters. -/
def imagesValid (run : Nat × Nat × Nat × Nat) : Bool :=
  Nat.blt (lastImage run) 0xD800
    || Nat.blt 0xDFFF run.2.2.2 && Nat.blt (lastImage run) 0x110000

/-- Whether one run without gaps of a table holds the images of a run. -/
def imagesWithin (runs : CharRuns) (run : Nat × Nat × Nat × Nat) : Bool :=
  runs.any fun around =>
    Nat.beq around.2.2 1 && Nat.ble around.1 run.2.2.2 && Nat.ble (lastImage run) around.2.1

/-- Whether the images of a run lie before or behind another run, or in its gaps. -/
def imagesApart (run other : Nat × Nat × Nat × Nat) : Bool :=
  Nat.blt (lastImage run) other.1 || Nat.blt other.2.1 run.2.2.2
    || (Nat.beq run.2.2.1 2 || Nat.beq run.1 run.2.1) && Nat.beq other.2.2.1 2
      && Nat.beq ((run.2.2.2 + other.1) % 2) 1

section Images

variable {first last stride target point : Nat}

theorem isValidChar_of_imagesValid (valid : imagesValid (first, last, stride, target) = true)
    (notAfter : point ≤ last) : (target + (point - first)).isValidChar := by
  simp only [imagesValid, lastImage, Bool.or_eq_true, Bool.and_eq_true, Nat.blt_eq] at valid
  unfold Nat.isValidChar
  omega

theorem holds_of_imagesWithin {runs : CharRuns} (increasing : runs.Pairwise (·.1 < ·.1))
    (within : imagesWithin runs (first, last, stride, target) = true) (notAfter : point ≤ last) :
    runs.holds (target + (point - first)) = true := by
  simp only [imagesWithin, lastImage, List.any_eq_true, Bool.and_eq_true, Nat.beq_eq, Nat.ble_eq]
    at within
  obtain ⟨⟨start, stop, _⟩, member, ⟨rfl, fromStart⟩, toStop⟩ := within
  have toStop : target + (last - first) ≤ stop := toStop
  exact CharRuns.holds_of_mem increasing member (fromStart.trans (by omega)) (by omega)

theorem not_held_of_imagesApart {start stop otherStride otherTarget : Nat}
    (apart : imagesApart (first, last, stride, target) (start, stop, otherStride, otherTarget) =
      true)
    (notBefore : first ≤ point) (notAfter : point ≤ last) (inStep : (point - first) % stride = 0) :
    ¬ (start ≤ target + (point - first) ∧ target + (point - first) ≤ stop ∧
      (target + (point - first) - start) % otherStride = 0) := by
  simp only [imagesApart, lastImage, Bool.or_eq_true, Bool.and_eq_true, Nat.blt_eq, Nat.beq_eq]
    at apart
  rintro ⟨fromStart, toStop, onStep⟩
  rcases apart with (isBefore | isBehind) | ⟨⟨rfl | rfl, rfl⟩, isOdd⟩ <;> omega

end Images

/-! ### The tables -/

/-- What the kernel computes from the tables, in one go.  The dotted capital I stands beside the
table of lower case, since its lower case is longer. -/
private theorem tables_checked :
    alphabeticRuns.IsChain (·.1 < ·.1) ∧ toLowerRuns.all imagesValid = true ∧
      toLowerRuns.all (imagesWithin alphabeticRuns) = true ∧
      (toLowerRuns.all fun run =>
        ((0x130, 0x130, 1, 0) :: toLowerRuns).all (imagesApart run)) = true := by
  decide +kernel

private theorem alphabeticRuns_increasing : alphabeticRuns.Pairwise (·.1 < ·.1) :=
  List.isChain_iff_pairwise.mp tables_checked.1

/-- What the lower case of a code point that has one is: a letter, which has none. -/
private theorem image_toLowerRuns {point image : Nat}
    (isImage : toLowerRuns.image? point = some image) :
    image.isValidChar ∧ alphabeticRuns.holds image = true ∧ image ≠ 0x130 ∧
      toLowerRuns.image? image = none := by
  obtain ⟨first, last, stride, target, member, notBefore, notAfter, inStep, rfl⟩ :=
    MappingRuns.exists_run_of_image? isImage
  obtain ⟨_, allValid, allWithin, allApart⟩ := tables_checked
  have apart := List.all_eq_true.mp (List.all_eq_true.mp allApart _ member)
  refine ⟨isValidChar_of_imagesValid (List.all_eq_true.mp allValid _ member) notAfter,
    holds_of_imagesWithin alphabeticRuns_increasing (List.all_eq_true.mp allWithin _ member)
      notAfter, ?_, ?_⟩
  · intro isDotted
    refine not_held_of_imagesApart (apart _ List.mem_cons_self) notBefore notAfter inStep ?_
    omega
  · cases isMapped : toLowerRuns.image? (target + (point - first)) with
    | none => rfl
    | some other =>
        obtain ⟨start, stop, otherStride, otherTarget, isRun, fromStart, toStop, onStep, _⟩ :=
          MappingRuns.exists_run_of_image? isMapped
        exact absurd ⟨fromStart, toStop, onStep⟩ (not_held_of_imagesApart
          (apart _ (List.mem_cons_of_mem _ isRun)) notBefore notAfter inStep)

/-! ### Characters -/

variable {c : Char}

/-- The tables agree with what holds for the first 128 characters. -/
private theorem ascii_tables : ∀ point < 128,
    (Char.ofNat point).isAlpha = alphabeticRuns.holds point ∧
      (Char.ofNat point).toLower =
        ((toLowerRuns.image? point).map Char.ofNat).getD (Char.ofNat point) := by
  decide

theorem isAlphabetic_eq_holds (c : Char) : isAlphabetic c = alphabeticRuns.holds c.toNat := by
  unfold isAlphabetic
  split
  · next isAscii =>
      have isLetter := (ascii_tables c.toNat isAscii).1
      rwa [Char.ofNat_toNat] at isLetter
  · rfl

theorem lowerChars_eq_image (isOther : c.toNat ≠ 0x130) :
    lowerChars c = [((toLowerRuns.image? c.toNat).map Char.ofNat).getD c] := by
  unfold lowerChars
  split
  · next isAscii =>
      have isLower := (ascii_tables c.toNat isAscii).2
      rw [Char.ofNat_toNat] at isLower
      rw [isLower]
  · split <;> next isImage => rw [isImage]; rfl

/-- The lower case of a letter or a number, except for the dotted capital I, is one letter or
number that is in lower case. -/
theorem lowerChars_of_alphanumeric (isLetter : isAlphanumeric c = true) (isOther : c ≠ 'İ') :
    ∃ d, lowerChars c = [d] ∧ isAlphanumeric d = true ∧ lowerChars d = [d] := by
  have notDotted : c.toNat ≠ 0x130 := by
    intro isDotted
    exact isOther (by rw [← Char.ofNat_toNat c, isDotted])
  rw [lowerChars_eq_image notDotted]
  cases isImage : toLowerRuns.image? c.toNat with
  | none => exact ⟨c, rfl, isLetter, by rw [lowerChars_eq_image notDotted, isImage]; rfl⟩
  | some image =>
      obtain ⟨isValid, isHeld, stillOther, unmapped⟩ := image_toLowerRuns isImage
      have isPoint : (Char.ofNat image).toNat = image := by
        rw [Char.ofNat, dif_pos isValid]
        rfl
      refine ⟨Char.ofNat image, rfl, ?_, ?_⟩
      · rw [isAlphanumeric, isAlphabetic_eq_holds, isPoint, isHeld, Bool.true_or]
      · rw [lowerChars_eq_image (by rwa [isPoint]), isPoint, unmapped]
        rfl

end ContentGraph.Text
