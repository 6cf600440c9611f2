import ContentGraph.Files.PathText
import ContentGraph.Proofs.Text.Split

/-!
Contract: what paths lead through and end in.

Owns:
- the components of joined paths, and of a path below a base: joined to the base again it has the
  components it had (`components_join_below`);
- `fileName?_append`: what is put after a path goes to the end of its last part, so a longer
  end gives another file name;
- `splitExtension_append`: a name with an extension is cut there.

Does not own: cutting texts at marks (`Proofs.Text.Split`).
-/

namespace ContentGraph.Files

/-! ### Components -/

@[simp] theorem bodyComponents_nil : bodyComponents [] = [] := rfl

@[simp] theorem bodyComponents_separator (rest : List Char) :
    bodyComponents ('/' :: rest) = bodyComponents rest := by
  rw [bodyComponents, Text.splitAt, if_pos rfl, List.filterMap_cons]
  rfl

theorem bodyComponents_append (before after : List Char) :
    bodyComponents (before ++ '/' :: after) = bodyComponents before ++ bodyComponents after := by
  rw [bodyComponents, Text.splitAt_append_mark, List.filterMap_append]
  rfl

theorem isPart_of_mem_bodyComponents {path : List Char} {component : Component}
    (member : component ∈ bodyComponents path) : component.isPart = true := by
  obtain ⟨part, _, isComponent⟩ := List.mem_filterMap.mp member
  unfold Component.ofPart? at isComponent
  split at isComponent <;> cases isComponent <;> rfl

theorem length_leadComponents_le (path : List Char) : (leadComponents path).length ≤ 1 := by
  fun_cases leadComponents path <;> simp

theorem countP_leadComponents (path : List Char) :
    (leadComponents path).countP Component.isPart = 0 := by
  fun_cases leadComponents path <;> rfl

theorem leadComponents_append {before : List Char} (someBefore : before ≠ []) (after : List Char) :
    leadComponents (before ++ '/' :: after) = leadComponents before := by
  fun_cases leadComponents before
  case case1 => rfl
  case case2 => rfl
  case case3 => rfl
  case case4 notRoot notPoint notCurrent =>
    cases before with
    | nil => exact absurd rfl someBefore
    | cons first rest =>
        unfold leadComponents
        split
        · next isRoot => cases isRoot; exact absurd rfl (notRoot _)
        · next isPoint => simp at isPoint
        · next isCurrent =>
            cases rest with
            | nil => cases isCurrent; exact absurd rfl notPoint
            | cons second others => cases isCurrent; exact absurd rfl (notCurrent _)
        · rfl

/-- A separator between two texts keeps the components of both, and what the first starts with. -/
theorem components_append {before : List Char} (someBefore : before ≠ []) (after : List Char) :
    components (String.ofList (before ++ '/' :: after)) =
      components (String.ofList before) ++ bodyComponents after := by
  simp only [components, String.toList_ofList, leadComponents_append someBefore,
    bodyComponents_append, List.append_assoc]

/-- A path below another that it does not replace has the components of both. -/
theorem components_join {base path : String} (someBase : base ≠ "")
    (relative : path.toList.head? ≠ some '/') :
    components (join base path) = components base ++ bodyComponents path.toList := by
  have someChars : base.toList ≠ [] := by simpa using someBase
  have notEmpty : base.isEmpty = false := by simpa using someBase
  rw [join, if_neg (by simp [relative, notEmpty])]
  split
  · next closed =>
      -- The base ends in a separator, and has the same components without it.
      obtain ⟨above, isAbove⟩ : ∃ above, base.toList = above ++ ['/'] :=
        List.getLast?_eq_some_iff.mp closed
      have isBase : base = String.ofList (above ++ ['/']) := by rw [← isAbove, String.ofList_toList]
      have isJoined : base ++ path = String.ofList (above ++ '/' :: path.toList) := by
        simp [isBase, String.ofList_append, ← String.toList_inj]
      cases above with
      | nil => simp [isBase, components, leadComponents]
      | cons first rest =>
          rw [isJoined, isBase, components_append (List.cons_ne_nil _ _),
            components_append (List.cons_ne_nil _ _), List.append_assoc]
          rfl
  · have isJoined : base ++ "/" ++ path = String.ofList (base.toList ++ '/' :: path.toList) := by
      simp [← String.toList_inj]
    rw [isJoined, components_append someChars, String.ofList_toList]

/-! ### A path below another -/

theorem bodyComponents_dropLeading (path : List Char) :
    bodyComponents (dropLeading path) = bodyComponents path := by
  fun_induction dropLeading path with
  | case1 rest inductionHypothesis => rw [inductionHypothesis, bodyComponents_separator]
  | case2 rest inductionHypothesis =>
      rw [inductionHypothesis]
      exact (bodyComponents_append ['.'] rest).symm
  | case3 => rfl
  | case4 => rfl

theorem head?_dropLeading (path : List Char) : (dropLeading path).head? ≠ some '/' := by
  fun_induction dropLeading path with
  | case1 rest inductionHypothesis => exact inductionHypothesis
  | case2 rest inductionHypothesis => exact inductionHypothesis
  | case3 => simp
  | case4 path notRoot _ _ =>
      cases path with
      | nil => simp
      | cons first rest =>
          intro isRoot
          cases isRoot
          exact notRoot rest rfl

/-- Without separators and points at its start, a path starts with a part that counts. -/
theorem ofPart?_takeWhile_dropLeading {path : List Char} (someLeft : dropLeading path ≠ []) :
    ∃ component, Component.ofPart? ((dropLeading path).takeWhile (· ≠ '/')) = some component := by
  fun_induction dropLeading path with
  | case1 rest inductionHypothesis => exact inductionHypothesis someLeft
  | case2 rest inductionHypothesis => exact inductionHypothesis someLeft
  | case3 => exact absurd rfl someLeft
  | case4 path notRoot notCurrent notPoint =>
      cases path with
      | nil => exact absurd rfl someLeft
      | cons first rest =>
          have isName : first ≠ '/' := fun isRoot => notRoot rest (isRoot ▸ rfl)
          rw [List.takeWhile_cons_of_pos (by simpa using isName)]
          unfold Component.ofPart?
          split
          · next isNil => cases isNil
          · next isPoint =>
              obtain ⟨rfl, isOver⟩ := List.cons_eq_cons.mp isPoint
              cases rest with
              | nil => exact absurd rfl notPoint
              | cons second others =>
                  by_cases isCurrent : second = '/'
                  · exact absurd (isCurrent ▸ rfl) (notCurrent others)
                  · rw [List.takeWhile_cons_of_pos (by simpa using isCurrent)] at isOver
                    cases isOver
          · exact ⟨_, rfl⟩
          · exact ⟨_, rfl⟩

/-- A part that counts is the first component of a path without a root. -/
theorem bodyComponents_of_part {path : List Char} {component : Component}
    (isPart : Component.ofPart? (path.takeWhile (· ≠ '/')) = some component) :
    bodyComponents path = component :: bodyComponents (path.dropWhile (· ≠ '/')) := by
  have unmarked : '/' ∉ path.takeWhile (· ≠ '/') := by
    intro member
    simpa using List.all_eq_true.mp List.all_takeWhile _ member
  have first : bodyComponents (path.takeWhile (· ≠ '/')) = [component] := by
    rw [bodyComponents, Text.splitAt_of_not_mem unmarked, List.filterMap_cons, isPart]
    rfl
  conv => left; rw [← @List.takeWhile_append_dropWhile _ (fun c => decide (c ≠ '/')) path]
  cases left : path.dropWhile (· ≠ '/') with
  | nil => rw [List.append_nil, first, bodyComponents_nil]
  | cons mark rest =>
      have isMark : mark = '/' := by
        have ends := List.head?_dropWhile_not (fun c => decide (c ≠ '/')) path
        rw [left] at ends
        simpa using ends
      rw [isMark, bodyComponents_append, first, bodyComponents_separator]
      rfl

theorem bodyComponents_dropParts (count : Nat) (path : List Char) :
    bodyComponents (dropParts count path) = (bodyComponents path).drop count := by
  induction count generalizing path with
  | zero => exact bodyComponents_dropLeading path
  | succ count inductionHypothesis =>
      rw [dropParts, inductionHypothesis]
      by_cases isEmpty : dropLeading path = []
      · rw [← bodyComponents_dropLeading path, isEmpty]
        simp
      · obtain ⟨component, isPart⟩ := ofPart?_takeWhile_dropLeading isEmpty
        rw [← bodyComponents_dropLeading path, bodyComponents_of_part isPart, List.drop_succ_cons]

theorem head?_dropParts (count : Nat) (path : List Char) :
    (dropParts count path).head? ≠ some '/' := by
  induction count generalizing path with
  | zero => exact head?_dropLeading path
  | succ count inductionHypothesis => exact inductionHypothesis _

theorem dropLeading_eq_self {path : List Char} (noLead : leadComponents path = []) :
    dropLeading path = path := by
  unfold dropLeading
  split
  · cases noLead
  · cases noLead
  · cases noLead
  · rfl

theorem components_eq_nil_iff {path : String} : components path = [] ↔ path = "" := by
  constructor
  · intro isNil
    obtain ⟨noLead, noBody⟩ := List.append_eq_nil_iff.mp isNil
    have isKept := dropLeading_eq_self noLead
    by_cases someChars : path.toList = []
    · exact String.toList_eq_nil_iff.mp someChars
    · obtain ⟨component, isPart⟩ := ofPart?_takeWhile_dropLeading (isKept.symm ▸ someChars)
      rw [isKept] at isPart
      rw [bodyComponents_of_part isPart] at noBody
      cases noBody
  · rintro rfl
    rfl

/-- What follows some of the components of a path are its parts without theirs. -/
private theorem drop_countP_of_append {path : String} {top rest : List Component}
    (someTop : top ≠ []) (isPath : top ++ rest = components path) :
    (bodyComponents path.toList).drop (top.countP Component.isPart) = rest := by
  rcases List.append_eq_append_iff.mp isPath with ⟨others, isLead, isRest⟩ | ⟨parts, isTop, isBody⟩
  · -- The first of them is how the path starts.
    have noOthers : others = [] := by
      have short := length_leadComponents_le path.toList
      have some : 0 < top.length := List.length_pos_iff.mpr someTop
      rw [isLead, List.length_append] at short
      exact List.length_eq_zero_iff.mp (by omega)
    rw [noOthers, List.append_nil] at isLead
    rw [isRest, noOthers, ← isLead, countP_leadComponents]
    rfl
  · have onlyParts : parts.countP Component.isPart = parts.length := by
      refine List.countP_eq_length.mpr fun component member => ?_
      exact isPart_of_mem_bodyComponents (isBody ▸ List.mem_append_left _ member)
    rw [isTop, List.countP_append, countP_leadComponents, onlyParts, isBody, Nat.zero_add,
      List.drop_left]

/-- A path below a base and the base joined to it again have the same components. -/
theorem components_join_below {base path : String}
    (reached : components base <+: components path ∨ path.toList.head? = some '/') :
    components (join base (below base path)) = components path := by
  simp only [below]
  split
  · next isBelow =>
      simp only [Bool.and_eq_true, Bool.not_eq_true', List.isEmpty_eq_false_iff,
        List.isPrefixOf_iff_prefix] at isBelow
      obtain ⟨someTop, rest, isPath⟩ := isBelow
      have someBase : base ≠ "" := fun isEmpty => someTop (components_eq_nil_iff.mpr isEmpty)
      have relative : (String.ofList (dropParts ((components base).countP Component.isPart)
          path.toList)).toList.head? ≠ some '/' := by
        rw [String.toList_ofList]
        exact head?_dropParts _ _
      rw [components_join someBase relative, String.toList_ofList, bodyComponents_dropParts,
        drop_countP_of_append someTop isPath, isPath]
  · next notBelow =>
      simp only [Bool.and_eq_true, Bool.not_eq_true', List.isEmpty_eq_false_iff,
        List.isPrefixOf_iff_prefix, not_and] at notBelow
      have replaces : path.toList.head? = some '/' ∨ base.isEmpty = true := by
        by_cases someTop : components base = []
        · exact .inr (by simp [components_eq_nil_iff.mp someTop])
        · exact .inl (reached.resolve_left (notBelow someTop))
      rw [join, if_pos (by simpa using replaces)]

/-- Joining keeps a path below a base, or makes it absolute. -/
theorem reaches_join {base path : String} (name : String)
    (reached : components base <+: components path ∨ path.toList.head? = some '/') :
    components base <+: components (join path name) ∨ (join path name).toList.head? = some '/' := by
  by_cases isAbsolute : name.toList.head? = some '/'
  · rw [join, if_pos (by simp [isAbsolute])]
    exact .inr isAbsolute
  · by_cases isEmpty : path = ""
    · -- Only an empty base has an empty path below it.
      subst isEmpty
      have noBase : components base = [] := by
        rcases reached with isPrefix | isRoot
        · exact List.prefix_nil.mp isPrefix
        · cases isRoot
      exact .inl (noBase ▸ List.nil_prefix)
    · rcases reached with isPrefix | isRoot
      · left
        rw [components_join isEmpty isAbsolute]
        exact isPrefix.trans (List.prefix_append _ _)
      · right
        rw [join, if_neg (by simp [isAbsolute, isEmpty])]
        obtain ⟨rest, isPath⟩ := List.head?_eq_some_iff.mp isRoot
        split <;> simp [isPath]

/-- The paths that are reached from below a base come back when the base is joined to them. -/
theorem components_join_below_of_joined (base directory : String) (names : List String) :
    let path := names.foldl join (join base directory)
    components (join base (below base path)) = components path := by
  have reached : ∀ path, components base <+: components path ∨ path.toList.head? = some '/' ->
      components base <+: components (names.foldl join path) ∨
        (names.foldl join path).toList.head? = some '/' := by
    induction names with
    | nil => exact fun path reached => reached
    | cons name rest inductionHypothesis =>
        exact fun path reached => inductionHypothesis _ (reaches_join name reached)
  exact components_join_below (reached _ (reaches_join directory (.inl List.prefix_rfl)))

/-! ### File names -/

/-- The characters after the last separator of a path. -/
def lastPart (path : String) : List Char :=
  ((Text.splitAt '/' path.toList).getLast?).getD []

/-- A path whose last part is a name ends in that name. -/
private theorem getLast?_components {path : String} {front : List (List Char)} {part : List Char}
    {name : String} (cut : Text.splitAt '/' path.toList = front ++ [part])
    (isName : Component.ofPart? part = some (.normal name)) :
    (components path).getLast? = some (.normal name) := by
  have body : bodyComponents path.toList =
      front.filterMap Component.ofPart? ++ [.normal name] := by
    simp [bodyComponents, cut, isName]
  rw [components, body, ← List.append_assoc, List.getLast?_concat]

/-- A part that ends in three characters or more is a name and no point or step upwards. -/
theorem ofPart?_append {tail : String} (part : List Char) (isLong : 3 ≤ tail.length) :
    Component.ofPart? (part ++ tail.toList) = some (.normal (String.ofList part ++ tail)) := by
  have long : 3 ≤ (part ++ tail.toList).length := by
    simp only [List.length_append, String.length_toList]
    omega
  unfold Component.ofPart?
  split
  · next isNil => simp [isNil] at long
  · next isPoint => simp [isPoint] at long
  · next isParent => simp [isParent] at long
  · simp [String.ofList_append]

/-- What is put after a path goes to the end of its file name.  Three characters are enough for
the last part to be a name and no point or step upwards. -/
theorem fileName?_append {tail : String} (path : String) (noSeparator : '/' ∉ tail.toList)
    (isLong : 3 ≤ tail.length) :
    fileName? (path ++ tail) = some (String.ofList (lastPart path) ++ tail) := by
  obtain ⟨front, last, cut, cutLonger⟩ := Text.splitAt_append noSeparator path.toList
  have isLast : lastPart path = last := by simp [lastPart, cut]
  have cutPath : Text.splitAt '/' (path ++ tail).toList = front ++ [last ++ tail.toList] := by
    rw [String.toList_append, cutLonger]
  rw [fileName?, getLast?_components cutPath (ofPart?_append last isLong), isLast]

theorem fileName?_eq_some_iff {path name : String} :
    fileName? path = some name ↔ (components path).getLast? = some (.normal name) := by
  unfold fileName?
  constructor
  · intro named
    split at named
    · next found => rw [found, Option.some.inj named]
    · cases named
  · intro isLast
    rw [isLast]

/-- The file name of a path is among its parts. -/
theorem getLast?_bodyComponents {path name : String} (named : fileName? path = some name) :
    (bodyComponents path.toList).getLast? = some (.normal name) := by
  have isLast := fileName?_eq_some_iff.mp named
  rw [components, List.getLast?_append, Option.or_eq_some_iff] at isLast
  refine isLast.resolve_right fun isLead => ?_
  have noParts := List.countP_eq_zero.mp (countP_leadComponents path.toList)
  exact noParts _ (List.mem_of_getLast? isLead.2) rfl

/-- A relative path keeps its file name below another. -/
theorem fileName?_join {path name : String} (base : String) (named : fileName? path = some name)
    (relative : path.toList.head? ≠ some '/') : fileName? (join base path) = some name := by
  by_cases isEmpty : base = ""
  · rw [join, if_pos (by simp [isEmpty])]
    exact named
  · rw [fileName?_eq_some_iff, components_join isEmpty relative, List.getLast?_append,
      getLast?_bodyComponents named]
    rfl

private theorem eq_of_ofPart? {part : List Char} {name : String}
    (isName : Component.ofPart? part = some (.normal name)) : String.ofList part = name := by
  unfold Component.ofPart? at isName
  split at isName <;> cases isName
  rfl

theorem bodyComponents_of_not_mem {part : List Char} (unmarked : '/' ∉ part) :
    bodyComponents part = (Component.ofPart? part).toList := by
  rw [bodyComponents, Text.splitAt_of_not_mem unmarked, List.filterMap_cons]
  cases Component.ofPart? part <;> rfl

/-- What is put after a path with a file name goes to the end of that name, unless a separator
closes the path: then it is a name of its own. -/
theorem fileName?_append_or {path name tail : String} (named : fileName? path = some name)
    (noSeparator : '/' ∉ tail.toList) (isLong : 3 ≤ tail.length) :
    fileName? (path ++ tail) = some (name ++ tail) ∨
      ∃ inner, components (path ++ tail) = components path ++ [.normal inner] := by
  have isBody := getLast?_bodyComponents named
  by_cases separated : '/' ∈ path.toList
  · obtain ⟨above, last, isPath, unmarked⟩ : ∃ above last, path.toList = above ++ '/' :: last ∧
        '/' ∉ last := by
      obtain ⟨last, above, isReversed, unmarked⟩ :=
        List.eq_append_cons_of_mem (List.mem_reverse.mpr separated)
      exact ⟨above.reverse, last.reverse, by simpa using congrArg List.reverse isReversed,
        by simpa using unmarked⟩
    rw [isPath, bodyComponents_append, bodyComponents_of_not_mem unmarked] at isBody
    cases isPart : Component.ofPart? last with
    | some component =>
        left
        have isName : component = .normal name := by simpa [isPart] using isBody
        have isLast : lastPart path = last := by
          simp [lastPart, isPath, Text.splitAt_append_mark, Text.splitAt_of_not_mem unmarked]
        rw [fileName?_append path noSeparator isLong, isLast, eq_of_ofPart? (isName ▸ isPart)]
    | none =>
        right
        have someAbove : above ≠ [] := by
          rintro rfl
          simp [isPart] at isBody
        have isWhole : path = String.ofList (above ++ '/' :: last) := by
          rw [← isPath, String.ofList_toList]
        have isLonger : path ++ tail = String.ofList (above ++ '/' :: (last ++ tail.toList)) := by
          simp [isWhole, ← String.toList_inj]
        have unmarkedLonger : '/' ∉ last ++ tail.toList := by simp [unmarked, noSeparator]
        refine ⟨String.ofList last ++ tail, ?_⟩
        rw [isLonger, isWhole, components_append someAbove, components_append someAbove,
          bodyComponents_of_not_mem unmarkedLonger, bodyComponents_of_not_mem unmarked, isPart,
          ofPart?_append last isLong]
        simp
  · left
    have isWhole : lastPart path = path.toList := by
      rw [lastPart, Text.splitAt_of_not_mem separated]
      rfl
    have isName : Component.ofPart? path.toList = some (.normal name) := by
      rw [bodyComponents_of_not_mem separated] at isBody
      cases isPart : Component.ofPart? path.toList with
      | none => simp [isPart] at isBody
      | some component => simpa [isPart] using isBody
    rw [fileName?_append path noSeparator isLong, isWhole, eq_of_ofPart? isName]

/-- A path joined to another ends in it. -/
theorem join_eq_append (base path : String) : ∃ before, join base path = before ++ path := by
  unfold join
  split
  · exact ⟨"", by simp⟩
  · split
    · exact ⟨base, rfl⟩
    · exact ⟨base ++ "/", rfl⟩

/-- A name is cut at its last point. -/
theorem splitExtension_append {stem tail : String} {extension : List Char} (someStem : stem ≠ "")
    (isTail : tail.toList = '.' :: extension) (unmarked : '.' ∉ extension) :
    splitExtension (stem ++ tail) = (stem, some (String.ofList extension)) := by
  have someChars : stem.toList.isEmpty = false := by simpa using someStem
  rw [splitExtension, String.toList_append, isTail, Text.splitAtLast?_append_mark unmarked]
  simp [someChars]

end ContentGraph.Files
