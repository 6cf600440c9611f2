import ContentGraph.Files.Tree
import ContentGraph.Proofs.Files.PathText
import ContentGraph.Proofs.Success

/-!
Contract: what operations on a tree leave as it is.

Owns:
- the entries after one entry is set or removed;
- `AddsDirectories`: making directories adds some and leaves everything else, files above all;
- where a path leads depends on the directories of a tree alone;
- what a successful write and a successful move do, each in one lemma.  Later statements about
  stored files go through these and do not open the operations again.

Does not own: which names paths end in (`Proofs.Files.PathText`).
-/

namespace ContentGraph.Files.Tree

variable {tree before after : Tree} {location other : Location} {entry : Entry} {body : Body}

/-! ### Single entries -/

private theorem lookup_cons (name key : Location) (held : Entry)
    (rest : List (Location × Entry)) :
    List.lookup key ((name, held) :: rest) =
      if key = name then some held else rest.lookup key := by
  by_cases same : key = name
  · subst same
    simp
  · have differ : (key == name) = false := by simpa using same
    simp [List.lookup_cons, differ, same]

private theorem lookup_append (key : Location) (front back : List (Location × Entry)) :
    (front ++ back).lookup key = (front.lookup key).or (back.lookup key) := by
  induction front with
  | nil => simp
  | cons first rest inductionHypothesis =>
      obtain ⟨name, held⟩ := first
      rw [List.cons_append, lookup_cons, lookup_cons, inductionHypothesis]
      split <;> rfl

private theorem lookup_filter_ne (removed key : Location) (entries : List (Location × Entry)) :
    (entries.filter fun old => old.1 ≠ removed).lookup key =
      if key = removed then none else entries.lookup key := by
  induction entries with
  | nil => simp
  | cons first rest inductionHypothesis =>
      obtain ⟨name, held⟩ := first
      rw [lookup_cons]
      by_cases isRemoved : name = removed
      · subst isRemoved
        rw [List.filter_cons_of_neg (by simp), inductionHypothesis]
        split <;> rfl
      · rw [List.filter_cons_of_pos (by simpa using isRemoved), lookup_cons, inductionHypothesis]
        by_cases isKey : key = name
        · simp [isKey, isRemoved]
        · simp [isKey]

@[simp] theorem get_nil (tree : Tree) : tree.entry? [] = some .directory := rfl

/-- Setting an entry below the top changes that entry alone. -/
theorem get_set (tree : Tree) (below : location ≠ []) (entry : Entry) (other : Location) :
    Tree.entry? (tree.set location entry) other =
      if other = location then some entry else tree.entry? other := by
  by_cases isTop : other = []
  · subst isTop
    simp [below.symm]
  · have notTop : other.isEmpty = false := by simpa using isTop
    simp only [notTop, entry?, set, lookup_append, lookup_filter_ne, lookup_cons]
    by_cases same : other = location
    · simp [same]
    · simp [same]

/-- Removing an entry below the top changes that entry alone. -/
theorem get_remove (tree : Tree) (below : location ≠ []) (other : Location) :
    Tree.entry? (tree.remove location) other =
      if other = location then none else tree.entry? other := by
  by_cases isTop : other = []
  · subst isTop
    simp [below.symm]
  · have notTop : other.isEmpty = false := by simpa using isTop
    simp only [notTop, entry?, remove, lookup_filter_ne]
    simp

theorem ne_nil_of_not_directory (notDirectory : tree.isDirectory location = false) :
    location ≠ [] := by
  rintro rfl
  simp [isDirectory] at notDirectory

/-! ### Directories that were made -/

/-- Two trees hold the same files at the same locations. -/
def SameFiles (before after : Tree) : Prop :=
  ∀ location body,
    before.entry? location = some (.file body) ↔ after.entry? location = some (.file body)

/-- Two trees have the same home, and the second one only has directories more, in places where
nothing was. -/
structure AddsDirectories (before after : Tree) : Prop where
  home : after.home = before.home
  entry (location : Location) :
    after.entry? location = before.entry? location ∨
      before.entry? location = none ∧ after.entry? location = some .directory

theorem AddsDirectories.refl (tree : Tree) : AddsDirectories tree tree :=
  ⟨rfl, fun _ => .inl rfl⟩

theorem AddsDirectories.trans {middle : Tree} (first : AddsDirectories before middle)
    (second : AddsDirectories middle after) : AddsDirectories before after := by
  refine ⟨second.home.trans first.home, fun location => ?_⟩
  rcases first.entry location with same | ⟨free, made⟩ <;>
    rcases second.entry location with stays | ⟨freeLater, madeLater⟩
  · exact .inl (stays.trans same)
  · exact .inr ⟨same ▸ freeLater, madeLater⟩
  · exact .inr ⟨free, stays.trans made⟩
  · exact absurd (made.symm.trans freeLater) (by simp)

theorem AddsDirectories.set_directory (tree : Tree) (free : tree.entry? location = none) :
    AddsDirectories tree (tree.set location .directory) := by
  have below : location ≠ [] := by
    rintro rfl
    cases free
  refine ⟨rfl, fun other => ?_⟩
  rw [get_set tree below]
  by_cases same : other = location
  · exact .inr ⟨same ▸ free, if_pos same⟩
  · exact .inl (if_neg same)

theorem AddsDirectories.sameFiles (adds : AddsDirectories before after) :
    SameFiles before after := by
  intro location body
  rcases adds.entry location with same | ⟨free, made⟩
  · rw [same]
  · simp [free, made]

/-- Making directories only adds directories, whether all of them can be made or not. -/
theorem makeDirectories_adds (tree : Tree) (start : Location) (components : List Component) :
    AddsDirectories tree (tree.makeDirectories start components).2 := by
  induction components generalizing tree start with
  | nil => exact .refl _
  | cons component rest inductionHypothesis =>
      cases component with
      | root => exact .refl _
      | current => exact inductionHypothesis tree start
      | parent =>
          simp only [makeDirectories]
          split
          · exact .refl _
          · exact inductionHypothesis tree _
      | normal name =>
          simp only [makeDirectories]
          split
          · exact inductionHypothesis tree _
          · exact .refl _
          · next free =>
              split
              · exact (AddsDirectories.set_directory tree free).trans (inductionHypothesis _ _)
              · exact .refl _

/-! ### Where paths lead -/

/-- A path leads to a directory if a directory stands where it leads. -/
theorem isDirectoryPath_iff {path : String} :
    tree.isDirectoryPath path = true ↔
      ∃ location, tree.locate? path = some location ∧ tree.isDirectory location = true := by
  have isFound : tree.isDirectoryPath path = true ↔ tree.find? path = some .directory := by
    simp [isDirectoryPath]
  simp [isFound, find?, Option.bind_eq_some_iff, isDirectory]

/-- Two trees have the same home and the same directories. -/
structure SameDirectories (before after : Tree) : Prop where
  home : after.home = before.home
  directory (location : Location) : after.isDirectory location = before.isDirectory location

theorem SameDirectories.trans {middle : Tree} (first : SameDirectories before middle)
    (second : SameDirectories middle after) : SameDirectories before after :=
  ⟨second.home.trans first.home,
    fun location => (second.directory location).trans (first.directory location)⟩

theorem SameDirectories.walk? (same : SameDirectories before after) (start : Location)
    (components : List Component) :
    after.walk? start components = before.walk? start components := by
  induction components generalizing start with
  | nil => rfl
  | cons component rest inductionHypothesis =>
      simp only [Tree.walk?, same.directory start]
      cases component <;> simp only [inductionHypothesis]

/-- Only directories decide where a path leads. -/
theorem SameDirectories.locate? (same : SameDirectories before after) (path : String) :
    after.locate? path = before.locate? path := by
  simp only [Tree.locate?, Tree.belowHome?, same.home]
  cases (if (components before.home).isPrefixOf (components path) then
      some ((components path).drop (components before.home).length) else none) with
  | none => rfl
  | some below => exact same.walk? [] below

/-- Paths with the same components lead to the same place. -/
theorem locate?_congr {path other : String} (same : components path = components other) :
    tree.locate? path = tree.locate? other := by
  simp only [Tree.locate?, Tree.belowHome?, same]

/-- A walk that ends in a name ends inside of a directory. -/
theorem walk?_concat {start : Location} {front : List Component} {name : String}
    (walked : tree.walk? start (front ++ [.normal name]) = some location) :
    ∃ parent, tree.walk? start front = some parent ∧ tree.isDirectory parent = true := by
  induction front generalizing start with
  | nil =>
      simp only [List.nil_append, Tree.walk?] at walked
      split at walked
      · next isDirectory => exact ⟨start, rfl, isDirectory⟩
      · cases walked
  | cons component rest inductionHypothesis =>
      simp only [List.cons_append, Tree.walk?] at walked ⊢
      split at walked
      case isFalse => cases walked
      case isTrue isDirectory =>
        rw [if_pos isDirectory]
        cases component with
        | root => cases walked
        | current => exact inductionHypothesis walked
        | parent =>
            dsimp only at walked ⊢
            split at walked
            · cases walked
            · next notTop =>
                rw [if_neg notTop]
                exact inductionHypothesis walked
        | normal other => exact inductionHypothesis walked

/-- A path with a name more than another leads inside of where that leads. -/
theorem isDirectory_of_locate?_inner {path longer name : String} {inner : Location}
    (inside : components longer = components path ++ [.normal name])
    (locatedInner : tree.locate? longer = some inner)
    (located : tree.locate? path = some location) : tree.isDirectory location = true := by
  obtain ⟨down, isBelow, walked⟩ := Option.bind_eq_some_iff.mp located
  simp only [belowHome?, Option.ite_none_right_eq_some, Option.some.injEq,
    List.isPrefixOf_iff_prefix] at isBelow
  obtain ⟨⟨rest, isPath⟩, rfl⟩ := isBelow
  have isInner : (components tree.home).isPrefixOf (components longer) = true := by
    rw [List.isPrefixOf_iff_prefix, inside, ← isPath, List.append_assoc]
    exact List.prefix_append _ _
  rw [Tree.locate?, belowHome?, if_pos isInner, inside, ← isPath, List.append_assoc,
    List.drop_left, Option.bind_some] at locatedInner
  rw [← isPath, List.drop_left] at walked
  obtain ⟨parent, walkedParent, isDirectory⟩ := walk?_concat locatedInner
  rw [walked] at walkedParent
  cases walkedParent
  exact isDirectory

/-- Two trees have the same home, and the directories of the first are there in the second. -/
structure GrowsDirectories (before after : Tree) : Prop where
  home : after.home = before.home
  directory (location : Location) (isDirectory : before.isDirectory location = true) :
    after.isDirectory location = true

theorem GrowsDirectories.refl (tree : Tree) : GrowsDirectories tree tree :=
  ⟨rfl, fun _ isDirectory => isDirectory⟩

theorem GrowsDirectories.trans {middle : Tree} (first : GrowsDirectories before middle)
    (second : GrowsDirectories middle after) : GrowsDirectories before after :=
  ⟨second.home.trans first.home,
    fun location isDirectory => second.directory location (first.directory location isDirectory)⟩

theorem SameDirectories.grows (same : SameDirectories before after) :
    GrowsDirectories before after :=
  ⟨same.home, fun location isDirectory => (same.directory location).trans isDirectory⟩

theorem GrowsDirectories.walk? (grows : GrowsDirectories before after) {start : Location}
    {components : List Component} (walked : before.walk? start components = some location) :
    after.walk? start components = some location := by
  induction components generalizing start with
  | nil => exact walked
  | cons component rest inductionHypothesis =>
      simp only [Tree.walk?] at walked ⊢
      split at walked
      case isFalse => cases walked
      case isTrue isDirectory =>
        rw [if_pos (grows.directory start isDirectory)]
        cases component with
        | root => cases walked
        | current => exact inductionHypothesis walked
        | parent =>
            dsimp only at walked ⊢
            split at walked
            · cases walked
            · next notTop =>
                rw [if_neg notTop]
                exact inductionHypothesis walked
        | normal _ => exact inductionHypothesis walked

/-- A path that leads somewhere still leads there when there are more directories. -/
theorem GrowsDirectories.locate? (grows : GrowsDirectories before after) {path : String}
    (located : before.locate? path = some location) : after.locate? path = some location := by
  obtain ⟨down, isBelow, walked⟩ := Option.bind_eq_some_iff.mp located
  rw [Tree.locate?, belowHome?, grows.home]
  rw [belowHome?] at isBelow
  rw [isBelow]
  exact grows.walk? walked

/-- A path that leads to a directory still does so when there are more directories. -/
theorem GrowsDirectories.isDirectoryPath (grows : GrowsDirectories before after) {path : String}
    (isThere : before.isDirectoryPath path = true) : after.isDirectoryPath path = true := by
  obtain ⟨location, located, isDirectory⟩ := isDirectoryPath_iff.mp isThere
  exact isDirectoryPath_iff.mpr
    ⟨location, grows.locate? located, grows.directory location isDirectory⟩

theorem AddsDirectories.grows (adds : AddsDirectories before after) :
    GrowsDirectories before after := by
  refine ⟨adds.home, fun location isDirectory => ?_⟩
  rcases adds.entry location with same | ⟨_, made⟩
  · rwa [Tree.isDirectory, same]
  · simp [Tree.isDirectory, made]

theorem SameDirectories.set_file (body : Body)
    (notDirectory : tree.isDirectory location = false) :
    SameDirectories tree (tree.set location (.file body)) := by
  refine ⟨rfl, ?_⟩
  intro other
  have below := ne_nil_of_not_directory notDirectory
  by_cases same : other = location
  · subst same
    simpa [isDirectory, get_set tree below] using notDirectory
  · simp [isDirectory, get_set tree below, same]

theorem SameDirectories.remove_file (notDirectory : tree.isDirectory location = false) :
    SameDirectories tree (tree.remove location) := by
  refine ⟨rfl, ?_⟩
  intro other
  have below := ne_nil_of_not_directory notDirectory
  by_cases same : other = location
  · subst same
    simpa [isDirectory, get_remove tree below] using notDirectory
  · simp [isDirectory, get_remove tree below, same]

/-- Walking along components that end in a name ends in that name. -/
theorem getLast?_of_walk? {components : List Component} {start : Location} {name : String}
    (named : components.getLast? = some (.normal name))
    (walked : tree.walk? start components = some location) :
    location.getLast? = some name := by
  induction components generalizing start with
  | nil => cases named
  | cons component rest inductionHypothesis =>
      simp only [Tree.walk?] at walked
      split at walked
      case isFalse => cases walked
      cases rest with
      | nil =>
          cases named
          have ends : start ++ [name] = location := Option.some.inj walked
          simp [← ends]
      | cons next others =>
          have namedRest : (next :: others).getLast? = some (.normal name) := by
            rwa [List.getLast?_cons_cons] at named
          cases component with
          | root => cases walked
          | current => exact inductionHypothesis namedRest walked
          | parent =>
              dsimp only at walked
              split at walked
              · cases walked
              · exact inductionHypothesis namedRest walked
          | normal _ => exact inductionHypothesis namedRest walked

/-- A path with a file name leads to an entry of that name, or to the top. -/
theorem getLast?_of_locate? {path name : String} (named : fileName? path = some name)
    (located : tree.locate? path = some location) (below : location ≠ []) :
    location.getLast? = some name := by
  obtain ⟨down, isBelow, walked⟩ := Option.bind_eq_some_iff.mp located
  simp only [belowHome?, Option.ite_none_right_eq_some, Option.some.injEq] at isBelow
  obtain ⟨-, rfl⟩ := isBelow
  refine getLast?_of_walk? ?_ walked
  rw [List.getLast?_drop, fileName?_eq_some_iff.mp named]
  split
  · next atEnd =>
      rw [List.drop_eq_nil_of_le atEnd] at walked
      cases walked
      exact absurd rfl below
  · rfl

/-! ### Writing and moving -/

/-- A successful write sets the file that its path leads to, which is no directory. -/
theorem writeText_ok {path text : String} (written : tree.writeText path text = .ok after) :
    ∃ location, tree.locate? path = some location ∧ tree.isDirectory location = false ∧
      after = tree.set location (.file (.text text)) := by
  unfold writeText at written
  split at written
  · cases written
  · next location located =>
      split at written
      · cases written
      · split at written
        · cases written
        · next usable =>
            cases written
            simp only [Bool.or_eq_true, Bool.not_eq_true', decide_eq_true_eq, not_or,
              Bool.not_eq_true] at usable
            exact ⟨location, located, usable.1.2, rfl⟩

/-- A successful move takes the entry from one location and sets it at the other, which is no
directory. -/
theorem rename_ok {source target : String} (moved : tree.rename source target = .ok after) :
    ∃ old new entry, tree.locate? source = some old ∧ tree.locate? target = some new ∧
      tree.entry? old = some entry ∧ tree.isDirectory new = false ∧
      after = (tree.remove old).set new entry := by
  unfold rename at moved
  split at moved
  · next old new locatedOld locatedNew =>
      split at moved
      · next entry found =>
          split at moved
          · cases moved
          · next usable =>
              cases moved
              simp only [Bool.or_eq_true, decide_eq_true_eq, not_or, Bool.not_eq_true] at usable
              exact ⟨old, new, entry, locatedOld, locatedNew, found, usable.1, rfl⟩
      · cases moved
  · cases moved

end ContentGraph.Files.Tree
