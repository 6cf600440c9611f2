import ContentGraph.Markdown.Document
import ContentGraph.Proofs.Text.Runs
import Mathlib.Data.Rat.Floor

/-!
Contract: the minutes to read a document, over all speeds of 64 bits.

Owns:
- `words_plainText`: the words of the plain text are the words of the document;
- the quotient rounded up as a quotient of integers, with its bounds and its order in the speed;
- the sums in words of 64 bits: exact up to the largest of them, and too small beyond it;
- `timeToRead_eq_ceil_iff`: where the minutes to read are the words over the speed, rounded up.

Does not own: which words a document has.
-/

namespace ContentGraph.Markdown

/-- The number of words, between white space, of a document's plain text. -/
def plainWordCount (text : String) : Nat :=
  (Text.words (plainText text).toList).length

/-- The words a minute that a speed counts as. -/
def wordsPerMinute (speed : Int64) : Int :=
  max speed.toInt 1

/-- The words of the plain text are the words of the document. -/
theorem words_plainText (text : String) : Text.words (plainText text).toList = wordsOf text := by
  have asChars : ((wordsOf text).map String.ofList).map String.toList = wordsOf text := by
    simp [Function.comp_def]
  rw [plainText, String.toList_intercalate, asChars]
  refine Text.splitRuns_intercalate (by decide) fun part member => ?_
  exact Text.isRun_of_mem_splitRuns (List.forall_mem_nil _) member

theorem wordsPerMinute_pos (speed : Int64) : 0 < wordsPerMinute speed :=
  lt_max_of_lt_right one_pos

theorem wordsPerMinute_lt (speed : Int64) : wordsPerMinute speed < 2 ^ 63 :=
  max_lt speed.toInt_lt (by decide)

/-! ### The quotient rounded up -/

section Ceiling

variable {words : Nat} {speed : Int}

/-- Adding the speed less one before dividing rounds up. -/
theorem ceil_div_eq (positive : 0 < speed) :
    ⌈(words : ℚ) / speed⌉ = (words + speed - 1) / speed := by
  have positiveRational : (0 : ℚ) < speed := by exact_mod_cast positive
  set quotient := (words + speed - 1) / speed with isQuotient
  have below : speed * quotient ≤ words + speed - 1 := Int.mul_ediv_self_le positive.ne'
  have above : words + speed - 1 < speed * quotient + speed := Int.lt_mul_ediv_self_add positive
  rw [Int.ceil_eq_iff, lt_div_iff₀ positiveRational, div_le_iff₀ positiveRational]
  constructor
  · have : (quotient - 1) * speed < words := by linarith
    exact_mod_cast this
  · have : (words : Int) ≤ quotient * speed := by linarith
    exact_mod_cast this

theorem ceil_div_nonneg (positive : 0 < speed) : 0 ≤ ⌈(words : ℚ) / speed⌉ :=
  Int.ceil_nonneg (by positivity)

theorem ceil_div_eq_zero_iff (positive : 0 < speed) : ⌈(words : ℚ) / speed⌉ = 0 ↔ words = 0 := by
  have positiveRational : (0 : ℚ) < speed := by exact_mod_cast positive
  rw [← (ceil_div_nonneg positive).ge_iff_eq', ← not_lt, Int.ceil_pos,
    div_pos_iff_of_pos_right positiveRational, Nat.cast_pos, Nat.pos_iff_ne_zero, not_not]

theorem ceil_div_le (positive : 0 < speed) : ⌈(words : ℚ) / speed⌉ ≤ words := by
  rw [Int.ceil_le, Int.cast_natCast]
  exact div_le_self (Nat.cast_nonneg words) (by exact_mod_cast Int.add_one_le_of_lt positive)

/-- Who reads faster needs no more minutes. -/
theorem ceil_div_le_ceil_div {slower : Int} (positive : 0 < slower) (isSlower : slower ≤ speed) :
    ⌈(words : ℚ) / speed⌉ ≤ ⌈(words : ℚ) / slower⌉ := by
  refine Int.ceil_le_ceil (div_le_div_of_nonneg_left (Nat.cast_nonneg words) ?_ ?_)
  · exact_mod_cast positive
  · exact_mod_cast isSlower

end Ceiling

/-! ### Sums in words of 64 bits -/

/-- The numbers from `-2 ^ 63` to below `2 ^ 63` are the ones that stay what they are. -/
theorem word64_eq_iff (value : Int) :
    word64 value = value ↔ -2 ^ 63 ≤ value ∧ value < 2 ^ 63 := by
  rw [word64, Int.bmod_eq_iff (by decide)]
  norm_num

/-- A number beyond the largest word loses a whole turn at least. -/
theorem word64_le_of_large {value : Int} (large : 2 ^ 63 ≤ value) :
    word64 value ≤ value - 2 ^ 64 := by
  have inRange : word64 value < 2 ^ 63 := by
    simpa [word64] using Int.bmod_lt (x := value) (m := Nat.pow 2 64) (by decide)
  obtain ⟨turns, isMultiple⟩ : (2 ^ 64 : Int) ∣ word64 value - value := Int.dvd_bmod_sub_self
  omega

/-- What the first sum carries out of the word, the second one brings back. -/
theorem word64_word64_sub (value other : Int) :
    word64 (word64 value - other) = word64 (value - other) :=
  Int.bmod_sub_bmod

/-! ### The minutes -/

section Minutes

variable {text : String} {speed : Int64}

theorem timeToRead_eq (text : String) (speed : Int64) :
    timeToRead text speed.toInt =
      (word64 (plainWordCount text + wordsPerMinute speed - 1)).tdiv (wordsPerMinute speed) := by
  rw [timeToRead, word64_word64_sub, plainWordCount, words_plainText, wordsPerMinute]

theorem timeToRead_of_small
    (small : plainWordCount text + wordsPerMinute speed ≤ 2 ^ 63) :
    timeToRead text speed.toInt = ⌈(plainWordCount text : ℚ) / wordsPerMinute speed⌉ := by
  have positive := wordsPerMinute_pos speed
  have kept : word64 (plainWordCount text + wordsPerMinute speed - 1) =
      plainWordCount text + wordsPerMinute speed - 1 := (word64_eq_iff _).mpr (by omega)
  rw [timeToRead_eq, kept, Int.tdiv_eq_ediv_of_nonneg (by omega), ceil_div_eq positive]

/-- A sum that is no word makes the minutes too few. -/
theorem timeToRead_lt_of_large
    (large : 2 ^ 63 < plainWordCount text + wordsPerMinute speed) :
    timeToRead text speed.toInt < ⌈(plainWordCount text : ℚ) / wordsPerMinute speed⌉ := by
  have positive := wordsPerMinute_pos speed
  have fast := wordsPerMinute_lt speed
  rw [timeToRead_eq, ceil_div_eq positive]
  set sum := plainWordCount text + wordsPerMinute speed - 1
  have lost : word64 sum ≤ sum - wordsPerMinute speed * 1 := by
    have turned := word64_le_of_large (show 2 ^ 63 ≤ sum by omega)
    omega
  calc (word64 sum).tdiv (wordsPerMinute speed)
      ≤ (sum - wordsPerMinute speed * 1).tdiv (wordsPerMinute speed) :=
        Int.tdiv_le_tdiv positive lost
    _ = sum / wordsPerMinute speed - 1 := by
        rw [Int.tdiv_eq_ediv_of_nonneg (by omega), Int.sub_mul_ediv_left _ _ positive.ne']
    _ < sum / wordsPerMinute speed := sub_one_lt _

end Minutes

/-- The minutes to read are the words over the speed, rounded up, exactly if their sum is at most
`2 ^ 63`, and that sum is taken without overflow exactly if it is less.  As far as that they are
never negative, zero for texts without words only, no more than the words, and no more at a higher
speed. -/
theorem timeToRead_eq_ceil_iff (text : String) (speed : Int64) :
    (timeToRead text speed.toInt = ⌈(plainWordCount text : ℚ) / wordsPerMinute speed⌉ ↔
      plainWordCount text + wordsPerMinute speed ≤ 2 ^ 63) ∧
    (word64 (plainWordCount text + wordsPerMinute speed) =
        plainWordCount text + wordsPerMinute speed ↔
      plainWordCount text + wordsPerMinute speed < 2 ^ 63) ∧
    (plainWordCount text + wordsPerMinute speed ≤ 2 ^ 63 ->
      0 ≤ timeToRead text speed.toInt ∧
      (timeToRead text speed.toInt = 0 ↔ plainWordCount text = 0) ∧
      timeToRead text speed.toInt ≤ plainWordCount text ∧
      ∀ slower : Int64, slower.toInt ≤ speed.toInt ->
        timeToRead text speed.toInt ≤ timeToRead text slower.toInt) := by
  have positive := wordsPerMinute_pos speed
  refine ⟨⟨fun isCeiling => ?_, timeToRead_of_small⟩, ?_, fun small => ?_⟩
  · by_contra large
    exact (timeToRead_lt_of_large (not_le.mp large)).ne isCeiling
  · rw [word64_eq_iff]
    omega
  · rw [timeToRead_of_small small]
    refine ⟨ceil_div_nonneg positive, ceil_div_eq_zero_iff positive, ceil_div_le positive,
      fun slower isSlower => ?_⟩
    have effective : wordsPerMinute slower ≤ wordsPerMinute speed := max_le_max_right 1 isSlower
    rw [timeToRead_of_small (by omega)]
    exact ceil_div_le_ceil_div (wordsPerMinute_pos slower) effective

theorem plainWordCount_sampleText : plainWordCount "a b" = 2 := by
  decide

theorem timeToRead_eq_ceil_iff_sampleText :
    plainWordCount "a b" + wordsPerMinute 2 ≤ 2 ^ 63 ∧ Int64.toInt 1 ≤ Int64.toInt 2 ∧
      timeToRead "a b" (Int64.toInt 2) ≤ timeToRead "a b" (Int64.toInt 1) := by
  have isTwo : wordsPerMinute 2 = 2 := by decide
  have small : plainWordCount "a b" + wordsPerMinute 2 ≤ 2 ^ 63 := by
    rw [plainWordCount_sampleText, isTwo]
    norm_num
  have isSlower : Int64.toInt 1 ≤ Int64.toInt 2 := by decide
  exact ⟨small, isSlower, ((timeToRead_eq_ceil_iff "a b" 2).2.2 small).2.2.2 1 isSlower⟩

/-- Two words at the largest speed need minus one minute. -/
theorem timeToRead_negative :
    plainWordCount "a b" = 2 ∧
      ⌈(plainWordCount "a b" : ℚ) / wordsPerMinute Int64.maxValue⌉ = 1 ∧
      timeToRead "a b" Int64.maxValue.toInt = -1 := by
  have largest : wordsPerMinute Int64.maxValue = 2 ^ 63 - 1 := by decide
  refine ⟨plainWordCount_sampleText, ?_, ?_⟩
  · rw [ceil_div_eq (wordsPerMinute_pos _), plainWordCount_sampleText, largest]
    decide
  · rw [timeToRead_eq, plainWordCount_sampleText, largest]
    decide

end ContentGraph.Markdown
