import ContentGraph.Regex.Pattern
import Mathlib.Data.List.Pairwise
import Mathlib.Order.Basic

/-!
Contract: the search for a pattern's matches finds all of them and no others.

Owns:
- membership in unions and differences of increasing lists of positions;
- `Spans.le`: a match ends where it starts or inside of the text, and never before its start;
- `mem_closure_iff`: the rounds of a search reach what a number of repetitions reaches;
- `mem_reach_iff`: the computed ends of matches are the ends of the spans of a pattern;
- `matchesIn_iff`: a pattern matches in a text exactly if it spans a part of it.
-/

namespace ContentGraph.Regex

/-! ### Increasing lists -/

namespace Positions

/-- A list of positions that stands for a set. -/
def Increasing (positions : Positions) : Prop :=
  positions.Pairwise (· < ·)

theorem mem_union {position : Nat} (left right : Positions) :
    position ∈ union left right ↔ position ∈ left ∨ position ∈ right := by
  fun_induction union left right with
  | case1 right => simp
  | case2 left => simp
  | case3 a left b right less inductionHypothesis =>
      simp only [List.mem_cons, inductionHypothesis, or_assoc]
  | case4 a left b right notLess less inductionHypothesis =>
      rw [List.mem_cons, inductionHypothesis, List.mem_cons (a := position) (b := b), or_left_comm]
  | case5 a left b right notLess notGreater inductionHypothesis =>
      have same : b = a := by omega
      rw [List.mem_cons, inductionHypothesis, List.mem_cons, List.mem_cons, same,
        or_or_distrib_left]

theorem increasing_union {left right : Positions} (isLeft : Increasing left)
    (isRight : Increasing right) : Increasing (union left right) := by
  fun_induction union left right with
  | case1 right => exact isRight
  | case2 left => exact isLeft
  | case3 a left b right less inductionHypothesis =>
      obtain ⟨aboveLeft, isLeft⟩ := List.pairwise_cons.mp isLeft
      have aboveRight := (List.pairwise_cons.mp isRight).1
      refine List.pairwise_cons.mpr ⟨?_, inductionHypothesis isLeft isRight⟩
      intro position member
      rcases (mem_union _ _).mp member with inLeft | inRight
      · exact aboveLeft position inLeft
      · rcases List.mem_cons.mp inRight with rfl | inRight
        · exact less
        · exact Nat.lt_trans less (aboveRight position inRight)
  | case4 a left b right notLess less inductionHypothesis =>
      obtain ⟨aboveRight, isRight⟩ := List.pairwise_cons.mp isRight
      have aboveLeft := (List.pairwise_cons.mp isLeft).1
      refine List.pairwise_cons.mpr ⟨?_, inductionHypothesis isLeft isRight⟩
      intro position member
      rcases (mem_union _ _).mp member with inLeft | inRight
      · rcases List.mem_cons.mp inLeft with rfl | inLeft
        · exact less
        · exact Nat.lt_trans less (aboveLeft position inLeft)
      · exact aboveRight position inRight
  | case5 a left b right notLess notGreater inductionHypothesis =>
      have same : b = a := by omega
      obtain ⟨aboveLeft, isLeft⟩ := List.pairwise_cons.mp isLeft
      obtain ⟨aboveRight, isRight⟩ := List.pairwise_cons.mp isRight
      refine List.pairwise_cons.mpr ⟨?_, inductionHypothesis isLeft isRight⟩
      intro position member
      rcases (mem_union _ _).mp member with inLeft | inRight
      · exact aboveLeft position inLeft
      · exact same ▸ aboveRight position inRight

theorem mem_without {position : Nat} {left right : Positions} (isLeft : Increasing left)
    (isRight : Increasing right) :
    position ∈ without left right ↔ position ∈ left ∧ position ∉ right := by
  fun_induction without left right with
  | case1 right => simp
  | case2 left => simp
  | case3 a left b right less inductionHypothesis =>
      have isLeft := (List.pairwise_cons.mp isLeft).2
      have notRight : a ∉ b :: right := by
        intro member
        rcases List.mem_cons.mp member with rfl | inRight
        · omega
        · have := (List.pairwise_cons.mp isRight).1 a inRight
          omega
      rw [List.mem_cons, inductionHypothesis isLeft isRight]
      constructor
      · rintro (rfl | both)
        · exact ⟨List.mem_cons_self, notRight⟩
        · exact ⟨List.mem_cons_of_mem a both.1, both.2⟩
      · rintro ⟨member, absent⟩
        rcases List.mem_cons.mp member with isFirst | inLeft
        · exact .inl isFirst
        · exact .inr ⟨inLeft, absent⟩
  | case4 a left b right notLess less inductionHypothesis =>
      have notLeft : b ∉ a :: left := by
        intro member
        rcases List.mem_cons.mp member with rfl | inLeft
        · omega
        · have := (List.pairwise_cons.mp isLeft).1 b inLeft
          omega
      rw [inductionHypothesis isLeft (List.pairwise_cons.mp isRight).2,
        List.mem_cons (a := position) (b := b), not_or]
      refine and_congr_right fun inLeft => (and_iff_right ?_).symm
      rintro rfl
      exact notLeft inLeft
  | case5 a left b right notLess notGreater inductionHypothesis =>
      have same : b = a := by omega
      obtain ⟨aboveLeft, isLeft⟩ := List.pairwise_cons.mp isLeft
      rw [inductionHypothesis isLeft (List.pairwise_cons.mp isRight).2, List.mem_cons,
        List.mem_cons, not_or, same]
      constructor
      · rintro ⟨inLeft, absent⟩
        refine ⟨.inr inLeft, ?_, absent⟩
        rintro rfl
        have := aboveLeft position inLeft
        omega
      · rintro ⟨rfl | inLeft, differ, absent⟩
        · exact absurd rfl differ
        · exact ⟨inLeft, absent⟩

theorem increasing_without {left right : Positions} (isLeft : Increasing left) :
    Increasing (without left right) := by
  have keeps : (without left right).Sublist left := by
    fun_induction without left right with
    | case1 right => exact .refl _
    | case2 left => exact .refl _
    | case3 a left b right less inductionHypothesis =>
        exact (inductionHypothesis (List.pairwise_cons.mp isLeft).2).cons_cons a
    | case4 a left b right notLess less inductionHypothesis => exact inductionHypothesis isLeft
    | case5 a left b right notLess notGreater inductionHypothesis =>
        exact (inductionHypothesis (List.pairwise_cons.mp isLeft).2).cons a
  exact isLeft.sublist keeps

/-- Positions that all move on by one stay in order. -/
theorem increasing_filterMap {starts : Positions} {move : Nat -> Option Nat}
    (moves : ∀ position reached, move position = some reached -> reached = position + 1)
    (increasing : Increasing starts) : Increasing (starts.filterMap move) := by
  rw [Increasing, List.pairwise_filterMap]
  refine List.Pairwise.imp ?_ increasing
  intro low high below left isLeft right isRight
  rw [moves low left isLeft, moves high right isRight]
  omega

end Positions

/-! ### Spans -/

namespace Pattern

variable {text : Array Char} {pattern body first second : Pattern} {set : CharClass}
  {condition : Assertion} {start middle stop count more rounds : Nat} {starts : Positions}

theorem spans_char_iff :
    Spans text (.char set) start stop ↔
      ∃ c, text[start]? = some c ∧ set.holds c.toNat = true ∧ stop = start + 1 := by
  constructor
  · intro spans
    cases spans with
    | char found member => exact ⟨_, found, member, rfl⟩
  · rintro ⟨c, found, member, rfl⟩
    exact .char found member

theorem spans_assertion_iff :
    Spans text (.assertion condition) start stop ↔
      condition.holds text start = true ∧ stop = start := by
  constructor
  · intro spans
    cases spans with
    | assertion met => exact ⟨met, rfl⟩
  · rintro ⟨met, rfl⟩
    exact .assertion met

theorem spans_seq_iff :
    Spans text (.seq first second) start stop ↔
      ∃ middle, Spans text first start middle ∧ Spans text second middle stop := by
  constructor
  · intro spans
    cases spans with
    | seq before after => exact ⟨_, before, after⟩
  · rintro ⟨middle, before, after⟩
    exact .seq before after

theorem spansTimes_zero_iff : SpansTimes text body 0 start stop ↔ stop = start := by
  constructor
  · intro times
    cases times with
    | zero => rfl
  · rintro rfl
    exact .zero _

theorem spansTimes_succ_iff :
    SpansTimes text body (count + 1) start stop ↔
      ∃ middle, Spans text body start middle ∧ SpansTimes text body count middle stop := by
  constructor
  · intro times
    cases times with
    | next once rest => exact ⟨_, once, rest⟩
  · rintro ⟨middle, once, rest⟩
    exact .next once rest

theorem spansTimes_add_iff :
    SpansTimes text body (count + more) start stop ↔
      ∃ middle, SpansTimes text body count start middle ∧
        SpansTimes text body more middle stop := by
  induction count generalizing start with
  | zero => simp [spansTimes_zero_iff]
  | succ count inductionHypothesis =>
      rw [Nat.add_right_comm, spansTimes_succ_iff]
      simp only [inductionHypothesis, spansTimes_succ_iff]
      constructor
      · rintro ⟨next, once, middle, before, after⟩
        exact ⟨middle, ⟨next, once, before⟩, after⟩
      · rintro ⟨middle, ⟨next, once, before⟩, after⟩
        exact ⟨next, once, middle, before, after⟩

mutual

/-- A match does not end before its start, and ends inside of the text unless it is empty. -/
theorem Spans.le {pattern : Pattern} {start stop : Nat} :
    Spans text pattern start stop -> start ≤ stop ∧ (stop = start ∨ stop ≤ text.size)
  | .empty _ => ⟨Nat.le_refl _, .inl rfl⟩
  | .char found _ => by
      obtain ⟨inside, _⟩ := Array.getElem?_eq_some_iff.mp found
      omega
  | .assertion _ => ⟨Nat.le_refl _, .inl rfl⟩
  | .seq before after => by
      have := before.le
      have := after.le
      omega
  | .altLeft taken => taken.le
  | .altRight taken => taken.le
  | .repeated _ _ times => times.le

theorem SpansTimes.le {body : Pattern} {count start stop : Nat} :
    SpansTimes text body count start stop -> start ≤ stop ∧ (stop = start ∨ stop ≤ text.size)
  | .zero _ => ⟨Nat.le_refl _, .inl rfl⟩
  | .next once rest => by
      have := once.le
      have := rest.le
      omega

end

/-- Empty repetitions can be left out, so that no more are needed than there are characters. -/
theorem SpansTimes.shorten (times : SpansTimes text body count start stop) :
    ∃ fewer ≤ count, fewer ≤ text.size ∧ SpansTimes text body fewer start stop := by
  suffices ∃ fewer ≤ count, fewer ≤ stop - start ∧ SpansTimes text body fewer start stop by
    obtain ⟨fewer, isFewer, short, shorter⟩ := this
    have := times.le
    exact ⟨fewer, isFewer, by omega, shorter⟩
  induction count generalizing start with
  | zero => exact ⟨0, Nat.le_refl 0, Nat.zero_le _, times⟩
  | succ count inductionHypothesis =>
      obtain ⟨middle, once, rest⟩ := spansTimes_succ_iff.mp times
      obtain ⟨fewer, isFewer, short, shorter⟩ := inductionHypothesis rest
      have onceLe := once.le
      have restLe := rest.le
      by_cases moves : middle = start
      · subst moves
        exact ⟨fewer, by omega, short, shorter⟩
      · exact ⟨fewer + 1, by omega, by omega, spansTimes_succ_iff.mpr ⟨middle, once, shorter⟩⟩

/-! ### The rounds of a search -/

/-- A step leads from any positions to the ends of the matches of a pattern that start there. -/
structure Finds (text : Array Char) (pattern : Pattern) (step : Positions -> Positions) : Prop where
  increasing : ∀ {starts}, starts.Increasing -> (step starts).Increasing
  mem_iff : ∀ {starts stop}, starts.Increasing ->
    (stop ∈ step starts ↔ ∃ start ∈ starts, Spans text pattern start stop)

variable {step : Positions -> Positions}

private theorem iterate_increasing (finds : Finds text body step) (count : Nat)
    (increasing : starts.Increasing) : (Positions.iterate step count starts).Increasing := by
  induction count generalizing starts with
  | zero => exact increasing
  | succ count inductionHypothesis =>
      rw [Positions.iterate]
      split
      · exact List.Pairwise.nil
      · exact inductionHypothesis (finds.increasing increasing)

/-- A number of steps leads to the ends of as many repetitions. -/
theorem mem_iterate_iff (finds : Finds text body step) (increasing : starts.Increasing) :
    stop ∈ Positions.iterate step count starts ↔
      ∃ start ∈ starts, SpansTimes text body count start stop := by
  induction count generalizing starts with
  | zero => simp [Positions.iterate, spansTimes_zero_iff]
  | succ count inductionHypothesis =>
      rw [Positions.iterate]
      split
      · next isEmpty =>
          rw [List.isEmpty_iff.mp isEmpty]
          simp
      · rw [inductionHypothesis (finds.increasing increasing)]
        simp only [finds.mem_iff increasing, spansTimes_succ_iff]
        constructor
        · rintro ⟨middle, ⟨start, member, once⟩, rest⟩
          exact ⟨start, member, middle, once, rest⟩
        · rintro ⟨start, member, middle, once, rest⟩
          exact ⟨middle, ⟨start, member, once⟩, rest⟩

/-- What a search keeps from round to round: the frontier has been seen, and every step from a
position behind the frontier leads to what has been seen. -/
structure Searched (text : Array Char) (body : Pattern) (seen frontier : Positions) : Prop where
  seen_increasing : seen.Increasing
  frontier_increasing : frontier.Increasing
  subset : ∀ position ∈ frontier, position ∈ seen
  behind : ∀ {start stop}, start ∈ seen -> start ∉ frontier -> Spans text body start stop ->
    stop ∈ seen

namespace Searched

variable {seen frontier : Positions}

/-- One step from what has been seen leads to what has been seen or to what is fresh. -/
private theorem mem_of_spans (searched : Searched text body seen frontier)
    (finds : Finds text body step) (isSeen : start ∈ seen) (once : Spans text body start stop) :
    stop ∈ seen ∨ stop ∈ Positions.without (step frontier) seen := by
  have isStep := finds.increasing searched.frontier_increasing
  rw [Positions.mem_without isStep searched.seen_increasing,
    finds.mem_iff searched.frontier_increasing]
  by_cases inFrontier : start ∈ frontier
  · by_cases known : stop ∈ seen
    · exact .inl known
    · exact .inr ⟨⟨start, inFrontier, once⟩, known⟩
  · exact .inl (searched.behind isSeen inFrontier once)

/-- A round of the search keeps the invariant. -/
private theorem round (searched : Searched text body seen frontier)
    (finds : Finds text body step) :
    Searched text body (Positions.union seen (Positions.without (step frontier) seen))
      (Positions.without (step frontier) seen) where
  seen_increasing := Positions.increasing_union searched.seen_increasing
    (Positions.increasing_without (finds.increasing searched.frontier_increasing))
  frontier_increasing :=
    Positions.increasing_without (finds.increasing searched.frontier_increasing)
  subset := fun position member => (Positions.mem_union _ _).mpr (.inr member)
  behind := by
    intro start stop isSeen notFresh once
    rw [Positions.mem_union] at isSeen ⊢
    rcases isSeen with isOld | isFresh
    · exact searched.mem_of_spans finds isOld once
    · exact absurd isFresh notFresh

/-- The rounds of a search reach what at most as many repetitions reach. -/
theorem mem_closure_iff (searched : Searched text body seen frontier)
    (finds : Finds text body step) :
    stop ∈ Positions.closure step rounds seen frontier ↔
      ∃ start ∈ seen, ∃ count ≤ rounds, SpansTimes text body count start stop := by
  induction rounds generalizing seen frontier with
  | zero => simp [Positions.closure, spansTimes_zero_iff]
  | succ rounds inductionHypothesis =>
      have isStep := finds.increasing searched.frontier_increasing
      rw [Positions.closure]
      split
      · next noneFresh =>
          -- Nothing is fresh: what has been seen is closed under steps.
          rw [List.isEmpty_iff] at noneFresh
          have closed : ∀ count start, start ∈ seen -> SpansTimes text body count start stop ->
              stop ∈ seen := by
            intro count
            induction count with
            | zero =>
                intro start isSeen times
                exact spansTimes_zero_iff.mp times ▸ isSeen
            | succ count inductionHypothesis =>
                intro start isSeen times
                obtain ⟨middle, once, rest⟩ := spansTimes_succ_iff.mp times
                refine inductionHypothesis middle ?_ rest
                rcases searched.mem_of_spans finds isSeen once with isOld | isFresh
                · exact isOld
                · rw [noneFresh] at isFresh
                  cases isFresh
          constructor
          · intro isSeen
            exact ⟨stop, isSeen, 0, Nat.zero_le _, .zero stop⟩
          · rintro ⟨start, isSeen, count, -, times⟩
            exact closed count start isSeen times
      · rw [inductionHypothesis (searched.round finds)]
        simp only [Positions.mem_union]
        constructor
        · rintro ⟨start, isOld | isFresh, count, few, times⟩
          · exact ⟨start, isOld, count, by omega, times⟩
          · rw [Positions.mem_without isStep searched.seen_increasing,
              finds.mem_iff searched.frontier_increasing] at isFresh
            obtain ⟨⟨origin, inFrontier, once⟩, _⟩ := isFresh
            exact ⟨origin, searched.subset origin inFrontier, count + 1, by omega,
              spansTimes_succ_iff.mpr ⟨start, once, times⟩⟩
        · rintro ⟨start, isSeen, count, few, times⟩
          cases count with
          | zero =>
              rw [spansTimes_zero_iff] at times
              exact ⟨stop, .inl (times ▸ isSeen), 0, Nat.zero_le _, .zero stop⟩
          | succ count =>
              obtain ⟨middle, once, rest⟩ := spansTimes_succ_iff.mp times
              exact ⟨middle, searched.mem_of_spans finds isSeen once, count, by omega, rest⟩

theorem increasing_closure (searched : Searched text body seen frontier)
    (finds : Finds text body step) (rounds : Nat) :
    (Positions.closure step rounds seen frontier).Increasing := by
  induction rounds generalizing seen frontier with
  | zero => exact searched.seen_increasing
  | succ rounds inductionHypothesis =>
      rw [Positions.closure]
      split
      · exact searched.seen_increasing
      · exact inductionHypothesis (searched.round finds)

end Searched

/-! ### What is reached -/

private theorem finds_char (set : CharClass) :
    Finds text (.char set) (reach text (.char set)) := by
  refine ⟨fun increasing => ?_, fun {starts stop} _ => ?_⟩
  · rw [reach]
    refine Positions.increasing_filterMap (fun position reached isReached => ?_) increasing
    split at isReached
    · split at isReached
      · exact (Option.some.inj isReached).symm
      · cases isReached
    · cases isReached
  · rw [reach, List.mem_filterMap]
    refine exists_congr fun start => and_congr_right fun _ => ?_
    rw [spans_char_iff]
    cases text[start]? with
    | none => simp
    | some c =>
        by_cases member : set.holds c.toNat = true
        · simp only [member, if_true, Option.some.injEq]
          constructor
          · rintro rfl
            exact ⟨c, rfl, member, rfl⟩
          · rintro ⟨_, _, _, rfl⟩
            rfl
        · simp [member]

private theorem finds_assertion (condition : Assertion) :
    Finds text (.assertion condition) (reach text (.assertion condition)) := by
  refine ⟨fun increasing => increasing.filter _, fun {starts stop} _ => ?_⟩
  rw [reach, List.mem_filter]
  simp only [spans_assertion_iff]
  constructor
  · rintro ⟨member, met⟩
    exact ⟨stop, member, met, rfl⟩
  · rintro ⟨start, member, met, rfl⟩
    exact ⟨member, met⟩

private theorem finds_seq (findsFirst : Finds text first (reach text first))
    (findsSecond : Finds text second (reach text second)) :
    Finds text (.seq first second) (reach text (.seq first second)) := by
  refine ⟨fun increasing => findsSecond.increasing (findsFirst.increasing increasing),
    fun {starts stop} increasing => ?_⟩
  rw [reach, findsSecond.mem_iff (findsFirst.increasing increasing)]
  simp only [findsFirst.mem_iff increasing, spans_seq_iff]
  constructor
  · rintro ⟨middle, ⟨start, member, before⟩, after⟩
    exact ⟨start, member, middle, before, after⟩
  · rintro ⟨start, member, middle, before, after⟩
    exact ⟨middle, ⟨start, member, before⟩, after⟩

private theorem finds_alt (findsFirst : Finds text first (reach text first))
    (findsSecond : Finds text second (reach text second)) :
    Finds text (.alt first second) (reach text (.alt first second)) := by
  refine ⟨fun increasing => Positions.increasing_union (findsFirst.increasing increasing)
    (findsSecond.increasing increasing), fun {starts stop} increasing => ?_⟩
  rw [reach, Positions.mem_union, findsFirst.mem_iff increasing, findsSecond.mem_iff increasing]
  constructor
  · rintro (⟨start, member, taken⟩ | ⟨start, member, taken⟩)
    · exact ⟨start, member, .altLeft taken⟩
    · exact ⟨start, member, .altRight taken⟩
  · rintro ⟨start, member, spans⟩
    cases spans with
    | altLeft taken => exact .inl ⟨start, member, taken⟩
    | altRight taken => exact .inr ⟨start, member, taken⟩

private theorem finds_repeated {most : Option Nat} (finds : Finds text body (reach text body))
    (least : Nat) :
    Finds text (.repeated body least most) (reach text (.repeated body least most)) := by
  have searched {starts : Positions} (increasing : starts.Increasing) :
      Searched text body (Positions.iterate (reach text body) least starts)
        (Positions.iterate (reach text body) least starts) :=
    ⟨iterate_increasing finds least increasing, iterate_increasing finds least increasing,
      fun _ member => member, fun member absent => absurd member absent⟩
  refine ⟨fun increasing => (searched increasing).increasing_closure finds _,
    fun {starts stop} increasing => ?_⟩
  rw [reach, (searched increasing).mem_closure_iff finds]
  simp only [mem_iterate_iff finds increasing]
  constructor
  · rintro ⟨middle, ⟨start, member, before⟩, count, few, after⟩
    refine ⟨start, member, .repeated (Nat.le_add_right least count) ?_
      (spansTimes_add_iff.mpr ⟨middle, before, after⟩)⟩
    rintro limit rfl
    exact Nat.add_le_add_left few least
  · rintro ⟨start, member, spans⟩
    cases spans with
    | repeated enough few times =>
        obtain ⟨extra, rfl⟩ := Nat.exists_eq_add_of_le enough
        obtain ⟨middle, before, after⟩ := spansTimes_add_iff.mp times
        cases most with
        | none =>
            -- Any number of repetitions may follow: as many as there are characters suffice.
            obtain ⟨fewer, _, short, shorter⟩ := after.shorten
            exact ⟨middle, ⟨start, member, before⟩, fewer,
              Nat.le_trans short (Nat.le_succ _), shorter⟩
        | some limit =>
            have fits : extra ≤ limit := Nat.le_of_add_le_add_left (few limit rfl)
            exact ⟨middle, ⟨start, member, before⟩, extra, fits, after⟩

/-- The computed ends of matches are the ends of the spans of a pattern. -/
theorem finds_reach (text : Array Char) (pattern : Pattern) :
    Finds text pattern (reach text pattern) := by
  induction pattern with
  | empty =>
      refine ⟨fun increasing => increasing, fun {starts stop} _ => ?_⟩
      rw [reach]
      constructor
      · intro member
        exact ⟨stop, member, .empty stop⟩
      · rintro ⟨start, member, spans⟩
        cases spans with
        | empty => exact member
  | char set => exact finds_char set
  | assertion condition => exact finds_assertion condition
  | seq first second findsFirst findsSecond => exact finds_seq findsFirst findsSecond
  | alt left right findsLeft findsRight => exact finds_alt findsLeft findsRight
  | repeated body least more finds => exact finds_repeated finds least

theorem mem_reach_iff (pattern : Pattern) (increasing : starts.Increasing) :
    stop ∈ pattern.reach text starts ↔ ∃ start ∈ starts, Spans text pattern start stop :=
  (finds_reach text pattern).mem_iff increasing

/-- A pattern matches in a text exactly if it spans some part of it. -/
theorem matchesIn_iff (pattern : Pattern) (text : String) :
    pattern.matchesIn text = true ↔
      ∃ start stop, start ≤ text.toList.length ∧
        Spans text.toList.toArray pattern start stop := by
  have increasing : Positions.Increasing (List.range (text.toList.toArray.size + 1)) :=
    List.pairwise_lt_range
  rw [matchesIn, Bool.not_eq_true', List.isEmpty_eq_false_iff_exists_mem]
  refine (exists_congr fun stop => mem_reach_iff pattern increasing).trans ?_
  simp only [List.mem_range, List.size_toArray, Nat.lt_succ_iff]
  constructor
  · rintro ⟨stop, start, inside, spans⟩
    exact ⟨start, stop, inside, spans⟩
  · rintro ⟨start, stop, inside, spans⟩
    exact ⟨stop, start, inside, spans⟩

end Pattern

end ContentGraph.Regex
