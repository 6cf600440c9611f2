import ContentGraph.Proofs.Files.PathText
import ContentGraph.Proofs.Files.Tree

/-!
Contract: paths that stay below another, and where they lead.

Owns:
- `StaysInside`, a relative path without steps upwards that names a file: it stays one with more
  characters at its end, and a name joined to plain names is one;
- `Tree.resolve?`, where components lead by their names alone;
- `Tree.Contains`, the locations below a path: what a path leads to that stays inside, and all that
  making its directories changes below a directory that is there.

Does not own: which paths records get (`Proofs.Mutation.Confinement`).
-/

namespace ContentGraph.Files

/-! ### Paths that stay inside -/

/-- A component that does not lead upwards or to the root. -/
def Component.Descends (component : Component) : Prop :=
  component = .current ∨ ∃ name, component = .normal name

/-- A relative path without steps upwards that names a file. -/
structure StaysInside (path : String) : Prop where
  relative : path.toList.head? ≠ some '/'
  steps : ∀ component ∈ components path, component.Descends
  named : ∃ name, fileName? path = some name

variable {path base name tail : String} {component : Component}

/-- A component of a path is a part of it, or what its start stands for. -/
theorem mem_components_cases (member : component ∈ components path) :
    component = .current ∨ component = .root ∧ path.toList.head? = some '/' ∨
      component ∈ bodyComponents path.toList := by
  rcases List.mem_append.mp member with isLead | isPart
  · revert isLead
    fun_cases leadComponents path.toList with
    | case1 rest => exact fun isLead => .inr (.inl ⟨List.mem_singleton.mp isLead, rfl⟩)
    | case2 => exact fun isLead => .inl (List.mem_singleton.mp isLead)
    | case3 => exact fun isLead => .inl (List.mem_singleton.mp isLead)
    | case4 => exact fun isLead => absurd isLead List.not_mem_nil
  · exact .inr (.inr isPart)

theorem root_mem_components (isAbsolute : path.toList.head? = some '/') :
    Component.root ∈ components path := by
  obtain ⟨rest, isPath⟩ := List.head?_eq_some_iff.mp isAbsolute
  rw [components, isPath]
  exact List.mem_cons_self

theorem StaysInside.of_steps (steps : ∀ component ∈ components path, component.Descends)
    (named : fileName? path = some name) : StaysInside path := by
  refine ⟨fun isAbsolute => ?_, steps, name, named⟩
  rcases steps _ (root_mem_components isAbsolute) with impossible | ⟨_, impossible⟩ <;>
    cases impossible

theorem StaysInside.ne_empty (stays : StaysInside path) : path ≠ "" := by
  rintro rfl
  obtain ⟨name, named⟩ := stays.named
  cases named

/-- The last part of a path grows to a name; the parts before it stay. -/
theorem mem_bodyComponents_append {path : List Char} (noSeparator : '/' ∉ tail.toList)
    (isLong : 3 ≤ tail.length) (member : component ∈ bodyComponents (path ++ tail.toList)) :
    component ∈ bodyComponents path ∨ ∃ name, component = .normal name := by
  obtain ⟨front, last, cut, cutLonger⟩ := Text.splitAt_append noSeparator path
  rw [bodyComponents, cutLonger, List.filterMap_append] at member
  rcases List.mem_append.mp member with isBefore | isLast
  · left
    rw [bodyComponents, cut, List.filterMap_append]
    exact List.mem_append_left _ isBefore
  · right
    rw [List.filterMap_cons, ofPart?_append last isLong, List.filterMap_nil] at isLast
    exact ⟨_, List.mem_singleton.mp isLast⟩

/-- More characters at its end do not change how a path starts. -/
theorem head?_append (someChars : path ≠ "") (tail : String) :
    (path ++ tail).toList.head? = path.toList.head? := by
  have someChars : path.toList ≠ [] := by simpa using someChars
  rw [String.toList_append, List.head?_append_of_ne_nil _ someChars]

/-- More characters at its end keep a path inside. -/
theorem StaysInside.append (stays : StaysInside path) (noSeparator : '/' ∉ tail.toList)
    (isLong : 3 ≤ tail.length) : StaysInside (path ++ tail) := by
  have relative : (path ++ tail).toList.head? ≠ some '/' :=
    head?_append stays.ne_empty tail ▸ stays.relative
  refine StaysInside.of_steps (fun component member => ?_)
    (fileName?_append path noSeparator isLong)
  rcases mem_components_cases member with isCurrent | ⟨_, isAbsolute⟩ | isPart
  · exact .inl isCurrent
  · exact absurd isAbsolute relative
  · rw [String.toList_append] at isPart
    rcases mem_bodyComponents_append noSeparator isLong isPart with isOld | isName
    · exact stays.steps component (List.mem_append_right _ isOld)
    · exact .inr isName

/-- A text of three characters or more without separators is a name. -/
theorem bodyComponents_of_name (noSeparator : '/' ∉ name.toList) (isLong : 3 ≤ name.length) :
    bodyComponents name.toList = [.normal name] := by
  have isPart : Component.ofPart? name.toList = some (.normal name) := by
    simpa using ofPart?_append [] isLong
  rw [bodyComponents_of_not_mem noSeparator, isPart]
  rfl

theorem components_of_name (noSeparator : '/' ∉ name.toList) (isLong : 3 ≤ name.length) :
    components name = [.normal name] := by
  have noLead : leadComponents name.toList = [] := by
    have isLong : 3 ≤ name.toList.length := isLong
    revert noSeparator isLong
    fun_cases leadComponents name.toList <;> simp
  rw [components, bodyComponents_of_name noSeparator isLong, noLead, List.nil_append]

theorem components_join_name (base : String) (noSeparator : '/' ∉ name.toList)
    (isLong : 3 ≤ name.length) :
    components (join base name) = components base ++ [.normal name] := by
  by_cases isEmpty : base = ""
  · subst isEmpty
    rw [join, if_pos (by simp), components_of_name noSeparator isLong]
    rfl
  · have relative : name.toList.head? ≠ some '/' :=
      fun isAbsolute => noSeparator (List.mem_of_head? isAbsolute)
    rw [components_join isEmpty relative, bodyComponents_of_name noSeparator isLong]

theorem fileName?_join_name (base : String) (noSeparator : '/' ∉ name.toList)
    (isLong : 3 ≤ name.length) : fileName? (join base name) = some name := by
  rw [fileName?_eq_some_iff, components_join_name base noSeparator isLong, List.getLast?_concat]

/-- A name below plain names stays inside. -/
theorem staysInside_join (plain : ∀ component ∈ components base, ∃ name, component = .normal name)
    (noSeparator : '/' ∉ name.toList) (isLong : 3 ≤ name.length) :
    StaysInside (join base name) := by
  refine StaysInside.of_steps (fun component member => ?_)
    (fileName?_join_name base noSeparator isLong)
  rw [components_join_name base noSeparator isLong] at member
  rcases List.mem_append.mp member with isBase | isName
  · exact .inr (plain component isBase)
  · exact .inr ⟨name, List.mem_singleton.mp isName⟩

/-- What is put after a path below another is put after the path. -/
theorem join_append (someChars : path ≠ "") (base tail : String) :
    join base path ++ tail = join base (path ++ tail) := by
  simp only [join, head?_append someChars tail]
  split
  · rfl
  split
  · exact String.append_assoc
  · simp only [String.append_assoc]

/-- A path that stays inside adds its parts to the components of a base. -/
theorem StaysInside.components_join (stays : StaysInside path) (base : String) :
    ∃ rest, components (join base path) = components base ++ rest ∧ rest ≠ [] ∧
      ∀ component ∈ rest, component.Descends := by
  obtain ⟨name, named⟩ := stays.named
  by_cases isEmpty : base = ""
  · subst isEmpty
    refine ⟨components path, ?_, ?_, stays.steps⟩
    · rw [join, if_pos (by simp)]
      rfl
    · exact fun isNil => stays.ne_empty (components_eq_nil_iff.mp isNil)
  · refine ⟨bodyComponents path.toList, Files.components_join isEmpty stays.relative, ?_, ?_⟩
    · have isLast := getLast?_bodyComponents named
      intro isNil
      rw [isNil] at isLast
      cases isLast
    · exact fun component member => stays.steps component (List.mem_append_right _ member)

/-! ### Where names lead -/

namespace Tree

variable {tree other : Tree} {start top location : Location} {front back steps : List Component}

/-- The location that components lead to from a given one by their names alone: whatever stands
on the way, a step upwards drops a name. -/
def resolve? (start : Location) : List Component -> Option Location
  | [] => some start
  | .current :: rest => resolve? start rest
  | .root :: _ => none
  | .parent :: rest => if start.isEmpty then none else resolve? start.dropLast rest
  | .normal name :: rest => resolve? (start ++ [name]) rest

theorem resolve?_append (start : Location) (front back : List Component) :
    resolve? start (front ++ back) = (resolve? start front).bind (resolve? · back) := by
  induction front generalizing start with
  | nil => rfl
  | cons component rest inductionHypothesis =>
      cases component with
      | current => exact inductionHypothesis start
      | root => rfl
      | parent =>
          simp only [List.cons_append, resolve?]
          split
          · rfl
          · exact inductionHypothesis _
      | normal name => exact inductionHypothesis _

/-- A walk through directories leads where the names say. -/
theorem resolve?_of_walk? (walked : tree.walk? start steps = some location) :
    resolve? start steps = some location := by
  induction steps generalizing start with
  | nil => exact walked
  | cons component rest inductionHypothesis =>
      simp only [walk?] at walked
      split at walked
      case isFalse => cases walked
      case isTrue =>
        cases component with
        | current => exact inductionHypothesis walked
        | root => cases walked
        | parent =>
            dsimp only at walked
            rw [resolve?]
            split at walked
            · cases walked
            · next notTop =>
                rw [if_neg notTop]
                exact inductionHypothesis walked
        | normal name => exact inductionHypothesis walked

/-- Without steps upwards, components lead below where they start. -/
theorem prefix_of_resolve? (descend : ∀ component ∈ steps, component.Descends)
    (resolved : resolve? start steps = some location) : start <+: location := by
  induction steps generalizing start with
  | nil => exact Option.some.inj resolved ▸ List.prefix_rfl
  | cons component rest inductionHypothesis =>
      obtain ⟨descends, descendRest⟩ := List.forall_mem_cons.mp descend
      rcases descends with rfl | ⟨name, rfl⟩
      · exact inductionHypothesis descendRest resolved
      · exact (List.prefix_append start [name]).trans (inductionHypothesis descendRest resolved)

/-! ### Locations below a path -/

/-- A location lies below a path: the names of the path lead to it or to somewhere above it.  A
path from which plain names lead to the home directory has the whole tree below it. -/
def Contains (tree : Tree) (path : String) (location : Location) : Prop :=
  (∃ steps top, tree.belowHome? path = some steps ∧ resolve? [] steps = some top ∧
      top <+: location) ∨
    ∃ rest, components tree.home = components path ++ rest ∧
      ∀ component ∈ rest, component.Descends

theorem Contains.congr {path : String} (sameHome : other.home = tree.home)
    (contains : other.Contains path location) : tree.Contains path location := by
  simpa only [Contains, belowHome?, sameHome] using contains

theorem belowHome?_eq_some_iff {path : String} :
    tree.belowHome? path = some steps ↔ components path = components tree.home ++ steps := by
  simp only [belowHome?, Option.ite_none_right_eq_some, Option.some.injEq,
    List.isPrefixOf_iff_prefix]
  constructor
  · rintro ⟨⟨rest, isPath⟩, rfl⟩
    rw [← isPath, List.drop_left]
  · intro isPath
    exact ⟨isPath ▸ List.prefix_append _ _, by rw [isPath, List.drop_left]⟩

/-- What a path leads to that goes down from another lies below that. -/
theorem contains_of_locate? {path longer : String} {rest : List Component}
    (goesOn : components longer = components path ++ rest)
    (descend : ∀ component ∈ rest, component.Descends)
    (located : tree.locate? longer = some location) : tree.Contains path location := by
  obtain ⟨steps, isBelow, walked⟩ := Option.bind_eq_some_iff.mp located
  rw [belowHome?_eq_some_iff, goesOn] at isBelow
  rcases List.append_eq_append_iff.mp isBelow with
    ⟨others, isHome, isRest⟩ | ⟨parts, isPath, isSteps⟩
  · -- The home directory lies below the path.
    refine .inr ⟨others, isHome, fun component member => descend component ?_⟩
    rw [isRest]
    exact List.mem_append_left _ member
  · rw [isSteps] at walked
    have resolved := resolve?_of_walk? walked
    rw [resolve?_append] at resolved
    obtain ⟨top, isTop, isLocation⟩ := Option.bind_eq_some_iff.mp resolved
    exact .inl ⟨parts, top, belowHome?_eq_some_iff.mpr isPath, isTop,
      prefix_of_resolve? descend isLocation⟩

/-- What a path that stays inside leads to below a root. -/
theorem contains_of_stays {root path : String} (stays : StaysInside path)
    (located : tree.locate? (join root path) = some location) : tree.Contains root location := by
  obtain ⟨rest, goesOn, -, descend⟩ := stays.components_join root
  exact contains_of_locate? goesOn descend located

/-! ### Directories made below a directory -/

/-- A walk to a directory starts at a directory. -/
theorem isDirectory_of_walk? (walked : tree.walk? start steps = some top)
    (isDirectory : tree.isDirectory top = true) : tree.isDirectory start = true := by
  cases steps with
  | nil => exact Option.some.inj walked ▸ isDirectory
  | cons component rest =>
      simp only [walk?] at walked
      split at walked
      · next isStart => exact isStart
      · cases walked

/-- On the way to a directory that is there, no directory is made. -/
theorem makeDirectories_append (walked : tree.walk? start front = some top)
    (isDirectory : tree.isDirectory top = true) :
    tree.makeDirectories start (front ++ back) = tree.makeDirectories top back := by
  induction front generalizing start with
  | nil => rw [Option.some.inj walked, List.nil_append]
  | cons component rest inductionHypothesis =>
      have isStart := isDirectory_of_walk? walked isDirectory
      simp only [walk?, if_pos isStart] at walked
      cases component with
      | current => exact inductionHypothesis walked
      | root => cases walked
      | parent =>
          dsimp only at walked
          split at walked
          · cases walked
          · next notTop =>
              simp only [List.cons_append, makeDirectories, if_neg notTop]
              exact inductionHypothesis walked
      | normal name =>
          have isNext := isDirectory_of_walk? walked isDirectory
          have isThere : tree.entry? (start ++ [name]) = some .directory := by
            simpa [Tree.isDirectory] using isNext
          simp only [List.cons_append, makeDirectories, isThere]
          exact inductionHypothesis walked

/-- Without steps upwards, directories are made below the start alone. -/
theorem prefix_of_makeDirectories (descend : ∀ component ∈ steps, component.Descends)
    (differs : Tree.entry? (tree.makeDirectories start steps).2 location ≠ tree.entry? location) :
    start <+: location := by
  induction steps generalizing tree start with
  | nil => exact absurd rfl differs
  | cons component rest inductionHypothesis =>
      obtain ⟨descends, descendRest⟩ := List.forall_mem_cons.mp descend
      rcases descends with rfl | ⟨name, rfl⟩
      · exact inductionHypothesis descendRest differs
      · have isInner : start <+: start ++ [name] := List.prefix_append start [name]
        simp only [makeDirectories] at differs
        split at differs
        · exact isInner.trans (inductionHypothesis descendRest differs)
        · exact absurd rfl differs
        · next free =>
            split at differs
            · by_cases isNew : location = start ++ [name]
              · exact isNew ▸ isInner
              · have isOld : Tree.entry? (tree.set (start ++ [name]) .directory) location =
                    tree.entry? location := by
                  rw [get_set tree (by simp), if_neg isNew]
                exact isInner.trans (inductionHypothesis descendRest (isOld ▸ differs))
            · exact absurd rfl differs

/-- Making the directories of a path that goes down from another one: what changes lies below that
one, or is a missing directory while no directory is there. -/
theorem makeDirectories_confined {path longer : String} {rest : List Component}
    (goesOn : components longer = components path ++ rest) (someRest : rest ≠ [])
    (descend : ∀ component ∈ rest, component.Descends)
    (isBelow : tree.belowHome? longer = some steps)
    (differs : Tree.entry? (tree.makeDirectories [] steps.dropLast).2 location ≠
      tree.entry? location) :
    tree.Contains path location ∨
      tree.isDirectoryPath path = false ∧ tree.entry? location = none ∧
        Tree.entry? (tree.makeDirectories [] steps.dropLast).2 location = some .directory := by
  cases isThere : tree.isDirectoryPath path with
  | false =>
      exact .inr ⟨rfl, ((makeDirectories_adds tree [] steps.dropLast).entry location).resolve_left
        differs⟩
  | true =>
      left
      obtain ⟨top, located, isDirectory⟩ := isDirectoryPath_iff.mp isThere
      obtain ⟨down, isDown, walked⟩ := Option.bind_eq_some_iff.mp located
      have isSteps : steps = down ++ rest := by
        have isPath := belowHome?_eq_some_iff.mp isDown
        have isLonger := belowHome?_eq_some_iff.mp isBelow
        rw [goesOn, isPath, List.append_assoc] at isLonger
        exact (List.append_cancel_left isLonger).symm
      rw [isSteps, List.dropLast_append_of_ne_nil someRest,
        makeDirectories_append walked isDirectory] at differs
      refine .inl ⟨down, top, isDown, resolve?_of_walk? walked,
        prefix_of_makeDirectories (fun component member => ?_) differs⟩
      exact descend component (List.dropLast_subset _ member)

end Tree

end ContentGraph.Files
