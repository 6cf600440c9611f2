import ContentGraph.Text.Blank
import Mathlib.Data.List.DropRight
import Mathlib.Data.List.TakeWhile

/-!
Contract: texts without the white space around them.

Owns:
- `exists_blanks_around`: only white space is trimmed;
- `trimChars_between_blanks`: white space around a text makes no difference to it;
- `trimChars_of_ends` and `trimChars_concat`: what stands at an end and is no white space stays;
- `kept_of_getLast?_dropEndWhile` and `getLast?_dropEndWhile_append`: what a text ends with after
  characters are dropped there.
-/

namespace ContentGraph.Text

variable {test : Char -> Bool} {text : List Char}

/-! ### The end of a text -/

theorem dropEndWhile_eq_rdropWhile : dropEndWhile test text = text.rdropWhile test :=
  rfl

theorem dropEndWhile_append_of_all {tail : List Char} (dropped : ∀ c ∈ tail, test c = true) :
    dropEndWhile test (text ++ tail) = dropEndWhile test text := by
  unfold dropEndWhile
  rw [List.reverse_append, List.dropWhile_append_of_pos (by simpa using dropped)]

/-- A text stays when its last character is kept. -/
theorem dropEndWhile_of_last (kept : ∀ last, text.getLast? = some last -> test last = false) :
    dropEndWhile test text = text := by
  rw [dropEndWhile_eq_rdropWhile, List.rdropWhile_eq_self_iff]
  intro someText
  simp [kept _ (List.getLast?_eq_some_getLast someText)]

/-- The last character that stays is one that is kept. -/
theorem kept_of_getLast?_dropEndWhile {last : Char}
    (isLast : (dropEndWhile test text).getLast? = some last) : test last = false := by
  rw [dropEndWhile, List.getLast?_reverse, ← List.find?_not_eq_head?_dropWhile] at isLast
  simpa using List.find?_some isLast

/-- A text that is kept in part ends with one of its own characters, whatever stands before it. -/
theorem getLast?_dropEndWhile_append (test : Char -> Bool) (text : List Char) {tail : List Char}
    (kept : ∃ c ∈ tail, test c = false) :
    ∃ last ∈ tail, test last = false ∧ (dropEndWhile test (text ++ tail)).getLast? = some last := by
  obtain ⟨c, member, isKept⟩ := kept
  have found : (tail.reverse.find? fun c => !test c).isSome = true := by
    rw [List.find?_isSome]
    exact ⟨c, List.mem_reverse.mpr member, by rw [isKept]; rfl⟩
  obtain ⟨last, isLast⟩ := Option.isSome_iff_exists.mp found
  refine ⟨last, List.mem_reverse.mp (List.mem_of_find?_eq_some isLast), ?_, ?_⟩
  · simpa using List.find?_some isLast
  · rw [dropEndWhile, List.getLast?_reverse, ← List.find?_not_eq_head?_dropWhile,
      List.reverse_append, List.find?_append, isLast, Option.some_or]

/-! ### Both ends -/

/-- What trimming takes away is white space. -/
theorem exists_blanks_around (text : List Char) :
    ∃ before after, (∀ c ∈ before, isBlank c = true) ∧ (∀ c ∈ after, isBlank c = true) ∧
      text = before ++ trimChars text ++ after := by
  refine ⟨text.takeWhile isBlank, (text.dropWhile isBlank).rtakeWhile isBlank,
    fun _ => List.mem_takeWhile_imp, fun _ => List.mem_rtakeWhile_imp, ?_⟩
  rw [List.append_assoc, trimChars, dropEndWhile_eq_rdropWhile, List.rdropWhile_append_rtakeWhile,
    List.takeWhile_append_dropWhile]

/-- White space around a text is trimmed with that of the text. -/
theorem trimChars_between_blanks {before after : List Char}
    (blankBefore : ∀ c ∈ before, isBlank c = true) (blankAfter : ∀ c ∈ after, isBlank c = true) :
    trimChars (before ++ text ++ after) = trimChars text := by
  rw [trimChars, trimChars, List.append_assoc, List.dropWhile_append_of_pos blankBefore,
    List.dropWhile_append]
  split
  · next allBlank =>
      rw [List.isEmpty_iff.mp allBlank, List.dropWhile_eq_nil_iff.mpr blankAfter]
  · exact dropEndWhile_append_of_all blankAfter

theorem trimChars_dropWhile (text : List Char) :
    trimChars (text.dropWhile isBlank) = trimChars text := by
  rw [trimChars, trimChars, List.dropWhile_idempotent]

/-- A last character that is no white space stays. -/
theorem trimChars_concat {last : Char} (notBlank : isBlank last = false) :
    trimChars (text ++ [last]) = text.dropWhile isBlank ++ [last] := by
  have isKept : (text ++ [last]).dropWhile isBlank = text.dropWhile isBlank ++ [last] := by
    rw [List.dropWhile_append]
    split
    · next allBlank => simp [List.isEmpty_iff.mp allBlank, notBlank]
    · rfl
  rw [trimChars, isKept, dropEndWhile_eq_rdropWhile,
    List.rdropWhile_concat_neg _ _ _ (by simp [notBlank])]

/-- A text with no white space at its ends stays. -/
theorem trimChars_of_ends (first : ∀ c, text.head? = some c -> isBlank c = false)
    (last : ∀ c, text.getLast? = some c -> isBlank c = false) : trimChars text = text := by
  cases text with
  | nil => rfl
  | cons c rest =>
      rw [trimChars, List.dropWhile_cons_of_neg (by simp [first c rfl]), dropEndWhile_of_last last]

end ContentGraph.Text
