import ContentGraph.Filter.Comparator
import ContentGraph.Proofs.Regex.Matching

/-!
Contract: wildcards match whole texts by their characters.

Owns:
- `Globs`, which texts a wildcard stands for;
- `spans_wildcards_iff`: the pattern of a wildcard spans the rest of a text exactly if the wildcard
  stands for it;
- `escapedWildcard`, a wildcard written out as a regular pattern with escapes, and
  `parse?_escapedWildcard`: it is read as a pattern with the same matches;
- `wildcard_exact`: the comparator of a wildcard holds for the texts that it stands for.
-/

namespace ContentGraph.Filter

open ContentGraph.Json ContentGraph.Regex

variable {glob rest chars : List Char} {c : Char} {text : Array Char} {start stop : Nat}

/-! ### What a wildcard stands for -/

/-- A wildcard stands for a text: `*` for any run of characters, `?` for one character, and every
other character for itself. -/
inductive Globs : List Char -> List Char -> Prop where
  | done : Globs [] []
  | run (skipped : List Char) {glob text : List Char} (globs : Globs glob text) :
      Globs ('*' :: glob) (skipped ++ text)
  | one (c : Char) {glob text : List Char} (globs : Globs glob text) :
      Globs ('?' :: glob) (c :: text)
  | same {c : Char} {glob text : List Char} (plain : c ≠ '*' ∧ c ≠ '?')
      (globs : Globs glob text) : Globs (c :: glob) (c :: text)

theorem globs_nil_iff : Globs [] chars ↔ chars = [] := by
  constructor
  · intro globs
    cases globs with
    | done => rfl
  · rintro rfl
    exact .done

theorem globs_run_iff : Globs ('*' :: glob) chars ↔ ∃ count, Globs glob (chars.drop count) := by
  constructor
  · intro globs
    cases globs with
    | run skipped globs => exact ⟨skipped.length, by rwa [List.drop_left]⟩
    | same plain => exact absurd rfl plain.1
  · rintro ⟨count, globs⟩
    have isRun := Globs.run (chars.take count) globs
    rwa [List.take_append_drop] at isRun

theorem globs_one_iff :
    Globs ('?' :: glob) chars ↔ ∃ c rest, chars = c :: rest ∧ Globs glob rest := by
  constructor
  · intro globs
    cases globs with
    | one c globs => exact ⟨c, _, rfl, globs⟩
    | same plain => exact absurd rfl plain.2
  · rintro ⟨c, rest, rfl, globs⟩
    exact .one c globs

theorem globs_same_iff (plain : c ≠ '*' ∧ c ≠ '?') :
    Globs (c :: glob) chars ↔ ∃ rest, chars = c :: rest ∧ Globs glob rest := by
  constructor
  · intro globs
    cases globs with
    | run => exact absurd rfl plain.1
    | one => exact absurd rfl plain.2
    | same _ globs => exact ⟨_, rfl, globs⟩
  · rintro ⟨rest, rfl, globs⟩
    exact .same plain globs

/-! ### Patterns of single characters and in sequence -/

theorem holds_any (c : Char) : CharClass.any.holds c.toNat = true := by
  have valid : c.toNat ≤ 0x10FFFF := by
    rcases c.valid with small | ⟨_, small⟩
    · exact Nat.le_of_lt (Nat.lt_trans small (by decide))
    · exact Nat.le_of_lt_succ small
  simp [CharClass.any, CharClass.holds, valid]

theorem holds_single_iff {c d : Char} : (CharClass.single d).holds c.toNat = true ↔ c = d := by
  rw [CharClass.single, CharClass.holds, Bool.and_eq_true, decide_eq_true_iff, decide_eq_true_iff,
    ← Char.toNat_inj]
  omega

theorem spans_sequence_cons_iff {first : Pattern} {others : List Pattern} :
    Pattern.Spans text (Pattern.sequence (first :: others)) start stop ↔
      ∃ middle, Pattern.Spans text first start middle ∧
        Pattern.Spans text (Pattern.sequence others) middle stop := by
  cases others with
  | nil =>
      rw [Pattern.sequence]
      constructor
      · intro spans
        exact ⟨stop, spans, .empty stop⟩
      · rintro ⟨middle, spans, isEmpty⟩
        cases isEmpty with
        | empty => exact spans
  | cons second others => exact Pattern.spans_seq_iff

theorem spans_sequence_append_iff {front back : List Pattern} :
    Pattern.Spans text (Pattern.sequence (front ++ back)) start stop ↔
      ∃ middle, Pattern.Spans text (Pattern.sequence front) start middle ∧
        Pattern.Spans text (Pattern.sequence back) middle stop := by
  induction front generalizing start with
  | nil =>
      constructor
      · intro spans
        exact ⟨start, .empty start, spans⟩
      · rintro ⟨middle, isEmpty, spans⟩
        cases isEmpty with
        | empty => exact spans
  | cons first front inductionHypothesis =>
      simp only [List.cons_append, spans_sequence_cons_iff, inductionHypothesis]
      constructor
      · rintro ⟨middle, before, next, between, after⟩
        exact ⟨next, ⟨middle, before, between⟩, after⟩
      · rintro ⟨next, ⟨middle, before, between⟩, after⟩
        exact ⟨middle, before, next, between, after⟩

/-- Any run of characters lies between two positions of the text. -/
theorem spans_run_iff (inside : start ≤ text.size) :
    Pattern.Spans text (.repeated (.char .any) 0 none) start stop ↔
      start ≤ stop ∧ stop ≤ text.size := by
  constructor
  · intro spans
    have := spans.le
    omega
  · rintro ⟨forward, within⟩
    obtain ⟨count, rfl⟩ := Nat.exists_eq_add_of_le forward
    refine .repeated (Nat.zero_le count) (fun _ impossible => nomatch impossible) ?_
    induction count generalizing start with
    | zero => exact .zero start
    | succ count inductionHypothesis =>
        have present : text[start]? = some text[start] := Array.getElem?_eq_getElem (by omega)
        refine .next (.char present (holds_any _)) ?_
        have moved : Pattern.SpansTimes text (.char .any) count (start + 1) (start + 1 + count) :=
          inductionHypothesis (by omega) (by omega) (by omega)
        rwa [Nat.add_right_comm] at moved

/-- One character of a set stands between two positions of the text. -/
theorem exists_spans_char_iff (set : CharClass) :
    (∃ middle, Pattern.Spans text (.char set) start middle ∧
        Globs glob (text.toList.drop middle)) ↔
      ∃ c rest, text.toList.drop start = c :: rest ∧ set.holds c.toNat = true ∧
        Globs glob rest := by
  have isHead : text[start]? = (text.toList.drop start).head? := by
    rw [List.head?_drop, Array.getElem?_toList]
  have isTail : text.toList.drop (start + 1) = (text.toList.drop start).tail := List.tail_drop.symm
  simp only [Pattern.spans_char_iff, isHead]
  constructor
  · rintro ⟨_, ⟨c, isFirst, member, rfl⟩, globs⟩
    obtain ⟨rest, isText⟩ := List.head?_eq_some_iff.mp isFirst
    rw [isTail, isText] at globs
    exact ⟨c, rest, isText, member, globs⟩
  · rintro ⟨c, rest, isText, member, globs⟩
    refine ⟨start + 1, ⟨c, by rw [isText]; rfl, member, rfl⟩, ?_⟩
    rw [isTail, isText]
    exact globs

/-- The patterns of a wildcard's characters span the rest of a text exactly if the wildcard stands
for it. -/
theorem spans_wildcards_iff (inside : start ≤ text.size) :
    Pattern.Spans text (Pattern.sequence (glob.map wildcardChar)) start text.size ↔
      Globs glob (text.toList.drop start) := by
  induction glob generalizing start with
  | nil =>
      rw [globs_nil_iff, List.drop_eq_nil_iff, Array.length_toList]
      constructor
      · intro spans
        cases spans with
        | empty => exact Nat.le_refl _
      · intro beyond
        cases Nat.le_antisymm inside beyond
        exact .empty _
  | cons c rest inductionHypothesis =>
      have step : Pattern.Spans text (Pattern.sequence ((c :: rest).map wildcardChar)) start
            text.size ↔ ∃ middle, Pattern.Spans text (wildcardChar c) start middle ∧
              Globs rest (text.toList.drop middle) := by
        rw [List.map_cons, spans_sequence_cons_iff]
        refine exists_congr fun middle => and_congr_right fun spans => ?_
        have := spans.le
        exact inductionHypothesis (by omega)
      rw [step]
      by_cases isRun : c = '*'
      · subst isRun
        rw [globs_run_iff]
        simp only [wildcardChar, if_true, spans_run_iff inside, List.drop_drop]
        constructor
        · rintro ⟨middle, ⟨forward, _⟩, globs⟩
          exact ⟨middle - start, by rwa [Nat.add_sub_cancel' forward]⟩
        · rintro ⟨count, globs⟩
          by_cases within : start + count ≤ text.size
          · exact ⟨start + count, ⟨by omega, within⟩, globs⟩
          · refine ⟨text.size, ⟨inside, Nat.le_refl _⟩, ?_⟩
            rw [List.drop_eq_nil_of_le (by rw [Array.length_toList]; omega)] at globs
            rwa [List.drop_eq_nil_of_le (Nat.le_of_eq Array.length_toList)]
      · by_cases isOne : c = '?'
        · subst isOne
          rw [globs_one_iff, wildcardChar, if_neg isRun, if_pos rfl, exists_spans_char_iff]
          simp only [holds_any, true_and]
        · rw [globs_same_iff ⟨isRun, isOne⟩, wildcardChar, if_neg isRun, if_neg isOne,
            exists_spans_char_iff]
          simp only [holds_single_iff]
          constructor
          · rintro ⟨_, others, isText, rfl, globs⟩
            exact ⟨others, isText, globs⟩
          · rintro ⟨others, isText, globs⟩
            exact ⟨c, others, isText, rfl, globs⟩

/-- Between the assertions of both ends, a pattern spans the whole text. -/
theorem spans_between_ends_iff {pattern : Pattern} :
    Pattern.Spans text (.seq (.assertion .textStart) (.seq pattern (.assertion .textEnd))) start
        stop ↔
      start = 0 ∧ stop = text.size ∧ Pattern.Spans text pattern 0 text.size := by
  simp only [Pattern.spans_seq_iff, Pattern.spans_assertion_iff, Assertion.holds, beq_iff_eq]
  constructor
  · rintro ⟨_, ⟨rfl, rfl⟩, _, spans, rfl, rfl⟩
    exact ⟨rfl, rfl, spans⟩
  · rintro ⟨rfl, rfl, spans⟩
    exact ⟨0, ⟨rfl, rfl⟩, _, spans, rfl, rfl⟩

theorem matchesIn_wildcardPattern_iff (glob text : String) :
    (wildcardPattern glob).matchesIn text = true ↔ Globs glob.toList text.toList := by
  have whole : Pattern.Spans text.toList.toArray
        (Pattern.sequence (glob.toList.map wildcardChar)) 0 text.toList.toArray.size ↔
      Globs glob.toList text.toList :=
    spans_wildcards_iff (Nat.zero_le _)
  rw [Pattern.matchesIn_iff, ← whole]
  simp only [wildcardPattern, spans_between_ends_iff]
  constructor
  · rintro ⟨start, stop, -, -, -, spans⟩
    exact spans
  · intro spans
    exact ⟨0, _, Nat.zero_le _, rfl, rfl, spans⟩

/-! ### Wildcards written out as regular patterns -/

/-- The characters that mean something in a regular pattern. -/
def metaChars : List Char :=
  ['\\', '.', '+', '*', '?', '(', ')', '|', '[', ']', '\x7b', '\x7d', '^', '$', '#', '&', '-', '~']

def isMeta (c : Char) : Bool :=
  metaChars.contains c

/-- One character of a wildcard in a regular pattern. -/
def escapedChar (c : Char) : List Char :=
  if c = '*' then ['.', '*']
  else if c = '?' then ['.']
  else if isMeta c then ['\\', c]
  else [c]

/-- A wildcard as a regular pattern for whole texts. -/
def escapedWildcard (glob : String) : String :=
  String.ofList ('^' :: (glob.toList.flatMap escapedChar ++ ['$']))

/-- The flags under which a point stands for line breaks, too. -/
def wildcardFlags : Flags := { dotAll := true }

theorem isEscapable_of_isMeta (isMeta : isMeta c = true) : Reader.isEscapable c = true := by
  have all : metaChars.all Reader.isEscapable = true := by decide +kernel
  exact List.all_eq_true.mp all c (List.contains_iff_mem.mp isMeta)

/-- A character that may be escaped stands for itself after a backslash. -/
theorem escape?_of_isEscapable {flags : Flags} (isEscapable : Reader.isEscapable c = true) :
    Reader.escape? flags (c :: rest) = some (.literal c, rest) := by
  unfold Reader.escape?
  dsimp only
  split
  all_goals first
    | exact absurd isEscapable (by decide)
    | exact if_pos isEscapable

theorem skip_wildcardFlags (input : List Char) : Reader.skip wildcardFlags input = input := by
  unfold Reader.skip
  cases input.length <;> rfl

section Group

variable {fuel : Nat} {progress : Reader.Progress}

theorem group?_end : Reader.group? (fuel + 1) 0 wildcardFlags progress [] =
    some (progress.pattern, progress.names, []) := by
  rw [Reader.group?]
  rfl

theorem group?_textStart : Reader.group? (fuel + 1) 0 wildcardFlags progress ('^' :: rest) =
    Reader.group? fuel 0 wildcardFlags (progress.push (.assertion .textStart)) rest := by
  rw [Reader.group?]
  simp only [skip_wildcardFlags]
  rfl

theorem group?_textEnd : Reader.group? (fuel + 1) 0 wildcardFlags progress ('$' :: rest) =
    Reader.group? fuel 0 wildcardFlags (progress.push (.assertion .textEnd)) rest := by
  rw [Reader.group?]
  simp only [skip_wildcardFlags]
  rfl

theorem group?_point : Reader.group? (fuel + 1) 0 wildcardFlags progress ('.' :: rest) =
    Reader.group? fuel 0 wildcardFlags (progress.push (.char .any)) rest := by
  rw [Reader.group?]
  simp only [skip_wildcardFlags]
  rfl

theorem group?_escaped (isMeta : isMeta c = true) :
    Reader.group? (fuel + 1) 0 wildcardFlags progress ('\\' :: c :: rest) =
      Reader.group? fuel 0 wildcardFlags (progress.push (.char (.single c))) rest := by
  rw [Reader.group?]
  simp only [skip_wildcardFlags, escape?_of_isEscapable (isEscapable_of_isMeta isMeta)]
  rfl

theorem group?_plain (notMeta : isMeta c = false) :
    Reader.group? (fuel + 1) 0 wildcardFlags progress (c :: rest) =
      Reader.group? fuel 0 wildcardFlags (progress.push (.char (.single c))) rest := by
  rw [Reader.group?]
  simp only [skip_wildcardFlags]
  split
  next isInput => cases isInput
  -- Every mark that the reader looks for is among the characters with a meaning.
  all_goals
    rename_i isInput
    cases isInput
    first
      | exact absurd notMeta (by decide)
      | rfl

/-- A point and a star stand for any run of characters. -/
theorem group?_run (noMark : rest.head? ≠ some '?') :
    Reader.group? (fuel + 2) 0 wildcardFlags progress ('.' :: '*' :: rest) =
      Reader.group? fuel 0 wildcardFlags (progress.push (.repeated (.char .any) 0 none)) rest := by
  have isGreedy : Reader.skipLazy wildcardFlags rest = rest := by
    rw [Reader.skipLazy, skip_wildcardFlags]
    split
    · exact absurd rfl noMark
    · rfl
  rw [group?_point, Reader.group?]
  simp only [skip_wildcardFlags, isGreedy]
  rfl

/-- Items that are read one after another come in order. -/
theorem foldl_push (items : List Pattern) :
    items.foldl Reader.Progress.push progress =
      { progress with items := (items.map some).reverse ++ progress.items } := by
  induction items generalizing progress with
  | nil => rfl
  | cons item items inductionHypothesis =>
      rw [List.foldl_cons, inductionHypothesis, List.map_cons, List.reverse_cons,
        List.append_assoc]
      rfl

theorem pattern_foldl_push (items : List Pattern) :
    (items.foldl Reader.Progress.push {}).pattern = Pattern.sequence items := by
  rw [foldl_push]
  simp only [Reader.Progress.pattern, Reader.Progress.branch, List.append_nil,
    List.reverse_reverse, List.filterMap_map, List.reverse_cons, List.reverse_nil, List.nil_append,
    Pattern.alternatives]
  exact congrArg _ List.filterMap_some

theorem head?_escaped_ne (glob : List Char) :
    (glob.flatMap escapedChar ++ ['$']).head? ≠ some '?' := by
  intro isHead
  cases glob with
  | nil => exact absurd isHead (by decide)
  | cons c glob =>
      rw [List.flatMap_cons] at isHead
      unfold escapedChar at isHead
      split_ifs at isHead with isRun isOne hasMeaning
      · exact absurd (Option.some.inj isHead) (by decide)
      · exact absurd (Option.some.inj isHead) (by decide)
      · exact absurd (Option.some.inj isHead) (by decide)
      · exact isOne (Option.some.inj isHead)

/-- Every character of a wildcard, written out, is read as its own pattern. -/
theorem group?_escapedWildcard (enough : 2 * glob.length + 2 ≤ fuel) :
    Reader.group? fuel 0 wildcardFlags progress (glob.flatMap escapedChar ++ ['$']) =
      some (((glob.map wildcardChar ++ [Pattern.assertion .textEnd]).foldl Reader.Progress.push
        progress).pattern, progress.names, []) := by
  induction glob generalizing fuel progress with
  | nil =>
      obtain ⟨fuel, rfl⟩ := Nat.exists_eq_add_of_le' enough
      exact group?_textEnd.trans group?_end
  | cons c glob inductionHypothesis =>
      rw [List.length_cons] at enough
      obtain ⟨fuel, rfl⟩ : ∃ less, fuel = less + 2 := ⟨fuel - 2, by omega⟩
      rw [List.flatMap_cons, List.append_assoc, List.map_cons, List.cons_append, List.foldl_cons]
      unfold escapedChar wildcardChar
      split
      · exact (group?_run (head?_escaped_ne glob)).trans (inductionHypothesis (by omega))
      · split
        · exact group?_point.trans (inductionHypothesis (by omega))
        · split
          next hasMeaning =>
            exact (group?_escaped hasMeaning).trans (inductionHypothesis (by omega))
          next hasNone =>
            exact (group?_plain (Bool.eq_false_iff.mpr hasNone)).trans (inductionHypothesis (by omega))

end Group

/-- The pattern that a wildcard, written out, is read as. -/
def escapedPattern (glob : String) : Pattern :=
  Pattern.sequence (.assertion .textStart :: (glob.toList.map wildcardChar ++
    [.assertion .textEnd]))

theorem parse?_escapedWildcard (glob : String) :
    Pattern.parse? wildcardFlags (escapedWildcard glob) =
      if weightLimit < (escapedPattern glob).weight then none else some (escapedPattern glob) := by
  have longer (glob : List Char) : glob.length ≤ (glob.flatMap escapedChar).length := by
    induction glob with
    | nil => exact Nat.le_refl _
    | cons c glob inductionHypothesis =>
        have isNonempty : 1 ≤ (escapedChar c).length := by
          unfold escapedChar
          split_ifs <;> simp
        rw [List.flatMap_cons, List.length_append, List.length_cons]
        omega
  have isRead : Reader.group? (2 * (escapedWildcard glob).toList.length + 2) 0 wildcardFlags {}
      (escapedWildcard glob).toList = some (escapedPattern glob, [], []) := by
    have := longer glob.toList
    rw [escapedWildcard, String.toList_ofList, List.length_cons, List.length_append]
    rw [group?_textStart, group?_escapedWildcard (by omega), ← List.foldl_cons,
      pattern_foldl_push]
    rfl
  rw [Pattern.parse?, isRead]
  rfl

theorem matchesIn_escapedPattern_iff (glob text : String) :
    (escapedPattern glob).matchesIn text = true ↔ Globs glob.toList text.toList := by
  have sameSpans {chars : Array Char} {start stop : Nat} :
      Pattern.Spans chars (escapedPattern glob) start stop ↔
        Pattern.Spans chars (wildcardPattern glob) start stop := by
    rw [escapedPattern, wildcardPattern, spans_sequence_cons_iff, Pattern.spans_seq_iff]
    simp only [spans_sequence_append_iff, Pattern.spans_seq_iff]
    rfl
  rw [← matchesIn_wildcardPattern_iff, Pattern.matchesIn_iff, Pattern.matchesIn_iff]
  simp only [sameSpans]

/-- The comparator of a wildcard is made of every text.  It holds for the texts that the wildcard
stands for, and for no other field.  Within the limit on patterns, the wildcard written out is a
regular pattern with the same matches. -/
theorem wildcard_exact (glob : String) :
    (∃ comparator, Comparator.ofOperation "wildcard" (.string glob) = .ok comparator ∧
      ∀ field, ∃ holds, comparator.test field = .ok holds ∧
        (holds = true ↔
          ∃ text, field = some (.string text) ∧ Globs glob.toList text.toList)) ∧
    ∃ pattern,
      Pattern.parse? wildcardFlags (escapedWildcard glob) =
          (if weightLimit < pattern.weight then none else some pattern) ∧
        ∀ text, pattern.matchesIn text = true ↔ Globs glob.toList text.toList := by
  refine ⟨⟨.wildcard (wildcardPattern glob), rfl, fun field => ?_⟩, escapedPattern glob,
    parse?_escapedWildcard glob, matchesIn_escapedPattern_iff glob⟩
  cases field with
  | none =>
      refine ⟨false, rfl, ?_⟩
      simp
  | some value =>
      cases value with
      | string text =>
          refine ⟨_, rfl, ?_⟩
          rw [matchesIn_wildcardPattern_iff]
          constructor
          · intro globs
            exact ⟨text, rfl, globs⟩
          · rintro ⟨_, isText, globs⟩
            cases isText
            exact globs
      | _ =>
          refine ⟨false, rfl, ?_⟩
          simp

end ContentGraph.Filter
