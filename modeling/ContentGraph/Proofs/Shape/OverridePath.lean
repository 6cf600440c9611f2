import ContentGraph.Proofs.Text.Split
import ContentGraph.Shape.Override
import Mathlib.Data.List.Chain

/-!
Contract: which texts are paths of overrides, and which segments they stand for.

Owns:
- `PathPart`, a part of a path between points, with its text and its segments;
- `parsePath_eq_ok_iff`: a text is read exactly if it is made of such parts, of which the last is
  not marked `[]obj`, and it is read as their segments;
- `PathSegments` and `pathText`, the segments that can be written and the text for them;
- `parsePath_exact`: nothing else is read, and what is written is read back.

Does not own: the trees that overrides compile to.
-/

namespace ContentGraph.Override

/-! ### The parts of a path -/

/-- A key that can stand in a path: it is not empty and has neither points nor brackets. -/
structure IsPathKey (key : String) : Prop where
  nonempty : key ≠ ""
  noPoint : '.' ∉ key.toList
  noOpening : '[' ∉ key.toList
  noClosing : ']' ∉ key.toList

/-- What follows the key of a part. -/
inductive Marker where
  /-- Nothing: the part is a field. -/
  | absent
  /-- `[]`: the elements of a list. -/
  | elements
  /-- `[]obj`: the elements of a list of objects, one of whose properties follows. -/
  | objects
deriving DecidableEq

/-- The text of a marker. -/
def Marker.chars : Marker -> List Char
  | .absent => []
  | .elements => ['[', ']']
  | .objects => ['[', ']', 'o', 'b', 'j']

/-- The segments that a marker stands for. -/
def Marker.segments : Marker -> List Segment
  | .absent => []
  | .elements | .objects => [.eachElement]

/-- A part of a path. -/
structure PathPart where
  key : String
  marker : Marker
  isKey : IsPathKey key

/-- The text of a part. -/
def PathPart.chars (part : PathPart) : List Char :=
  part.key.toList ++ part.marker.chars

/-- The segments that a part stands for. -/
def PathPart.segments (part : PathPart) : List Segment :=
  .key part.key :: part.marker.segments

theorem PathPart.point_not_mem_chars (part : PathPart) : '.' ∉ part.chars := by
  rw [chars, List.mem_append]
  rintro (inKey | inMarker)
  · exact part.isKey.noPoint inKey
  · revert inMarker
    cases part.marker <;> decide

/-- Parts of which the last may end a path: a property has to follow `[]obj`. -/
def Closed (parts : List PathPart) : Prop :=
  ∀ last, parts.getLast? = some last -> last.marker ≠ .objects

theorem closed_cons_iff {part : PathPart} {parts : List PathPart} :
    Closed (part :: parts) ↔ (parts = [] -> part.marker ≠ .objects) ∧ Closed parts := by
  cases parts with
  | nil => simp [Closed]
  | cons next rest => simp [Closed, List.getLast?_cons_cons]

/-! ### Reading -/

variable {segments : List Segment} {isLast : Bool}

private theorem isPathKey_ofList {key : List Char} (someKey : ¬ key.isEmpty = true)
    (noPoint : '.' ∉ key) (noBracket : ¬ (key.contains '[' || key.contains ']') = true) :
    IsPathKey (String.ofList key) := by
  simp only [List.isEmpty_iff, Bool.or_eq_true, List.contains_iff_mem, not_or] at someKey noBracket
  exact ⟨by simpa using someKey, by simpa using noPoint, by simpa using noBracket.1,
    by simpa using noBracket.2⟩

/-- A part is read as its segments, unless it is the last one and marked `[]obj`. -/
theorem segmentsOfPart_chars (part : PathPart) (allowed : isLast = true -> part.marker ≠ .objects) :
    segmentsOfPart isLast part.chars = .ok part.segments := by
  obtain ⟨key, marker, isKey⟩ := part
  have someKey := isKey.nonempty
  have noOpening := isKey.noOpening
  have noClosing := isKey.noClosing
  have cut (after : List Char) :
      Text.splitAtWord? ['[', ']'] (key.toList ++ '[' :: ']' :: after) =
        some (key.toList, after) :=
    Text.splitAtWord?_append noOpening after
  cases marker with
  | absent =>
      have uncut : Text.splitAtWord? ['[', ']'] key.toList = none :=
        Text.splitAtWord?_of_not_mem noOpening
      simp [segmentsOfPart, PathPart.chars, PathPart.segments, Marker.chars, Marker.segments, uncut,
        someKey, noOpening, noClosing]
  | elements =>
      simp [segmentsOfPart, PathPart.chars, PathPart.segments, Marker.chars, Marker.segments, cut,
        someKey, noOpening, noClosing]
  | objects =>
      simp [segmentsOfPart, PathPart.chars, PathPart.segments, Marker.chars, Marker.segments, cut,
        someKey, noOpening, noClosing]
      simpa using allowed

/-- What is read as a part is the text of one. -/
theorem exists_part_of_segmentsOfPart {text : List Char} (noPoint : '.' ∉ text)
    (isRead : segmentsOfPart isLast text = .ok segments) :
    ∃ part : PathPart, part.chars = text ∧ part.segments = segments ∧
      (isLast = true -> part.marker ≠ .objects) := by
  unfold segmentsOfPart at isRead
  cases cut : Text.splitAtWord? ['[', ']'] text with
  | none =>
      simp only [cut] at isRead
      split at isRead
      · cases isRead
      · next someKey =>
          split at isRead
          · cases isRead
          · next noBracket =>
              cases isRead
              exact ⟨⟨_, .absent, isPathKey_ofList someKey noPoint noBracket⟩,
                by simp [PathPart.chars, Marker.chars], rfl, nofun⟩
  | some around =>
      obtain ⟨key, after⟩ := around
      have isText : key ++ '[' :: ']' :: after = text := by
        simpa using (Text.eq_of_splitAtWord? cut).symm
      have noPointKey : '.' ∉ key := fun inKey => noPoint (isText ▸ List.mem_append_left _ inKey)
      simp only [cut] at isRead
      split at isRead
      · cases isRead
      · next someKey =>
          split at isRead
          · cases isRead
          · next noBracket =>
              have isKey := isPathKey_ofList someKey noPointKey noBracket
              -- Behind the first `[]` there is nothing, or `obj` in a part that is not the last.
              split at isRead
              · next isNone => cases isNone
              · next isSome =>
                  cases isSome
                  cases isRead
                  exact ⟨⟨_, .elements, isKey⟩,
                    by simpa [PathPart.chars, Marker.chars] using isText,
                    rfl, nofun⟩
              · next isSome =>
                  cases isSome
                  split at isRead
                  · cases isRead
                  · next notLast =>
                      cases isRead
                      exact ⟨⟨_, .objects, isKey⟩,
                        by simpa [PathPart.chars, Marker.chars] using isText, rfl,
                        fun isLast => absurd isLast notLast⟩
              · cases isRead

/-- Texts without points are read as parts one by one, and their segments follow each other. -/
theorem segmentsOfParts_eq_ok {texts : List (List Char)} (noPoint : ∀ text ∈ texts, '.' ∉ text) :
    segmentsOfParts texts = .ok segments ↔
      ∃ parts : List PathPart, Closed parts ∧ parts.map PathPart.chars = texts ∧
        parts.flatMap PathPart.segments = segments := by
  induction texts generalizing segments with
  | nil =>
      rw [segmentsOfParts]
      constructor
      · intro isRead
        cases isRead
        exact ⟨[], nofun, rfl, rfl⟩
      · rintro ⟨parts, _, noParts, rfl⟩
        rw [List.map_eq_nil_iff.mp noParts]
        rfl
  | cons text rest inductionHypothesis =>
      obtain ⟨noPointHere, noPointRest⟩ := List.forall_mem_cons.mp noPoint
      rw [segmentsOfParts]
      constructor
      · intro isRead
        split at isRead
        · cases isRead
        · next own isOwn =>
            split at isRead
            · cases isRead
            · next more isMore =>
                cases isRead
                obtain ⟨part, rfl, rfl, allowed⟩ := exists_part_of_segmentsOfPart noPointHere isOwn
                obtain ⟨parts, closed, rfl, rfl⟩ := (inductionHypothesis noPointRest).mp isMore
                refine ⟨part :: parts, ?_, rfl, rfl⟩
                exact closed_cons_iff.mpr ⟨fun isLast => allowed (by simp [isLast]), closed⟩
      · rintro ⟨parts, closed, areTexts, rfl⟩
        cases parts with
        | nil => cases areTexts
        | cons part parts =>
            obtain ⟨allowed, closedRest⟩ := closed_cons_iff.mp closed
            obtain ⟨rfl, rfl⟩ := List.cons.inj areTexts
            have isOwn : segmentsOfPart (parts.map PathPart.chars).isEmpty part.chars =
                .ok part.segments :=
              segmentsOfPart_chars part fun isLast => allowed (by simpa using isLast)
            rw [isOwn, (inductionHypothesis noPointRest).mpr ⟨parts, closedRest, rfl, rfl⟩]
            rfl

/-- A path is read exactly if it is made of parts, and as their segments. -/
theorem parsePath_eq_ok_iff {field : String} :
    parsePath field = .ok segments ↔
      ∃ parts : List PathPart, parts ≠ [] ∧ Closed parts ∧
        field.toList = ['.'].intercalate (parts.map PathPart.chars) ∧
        segments = parts.flatMap PathPart.segments := by
  -- Parts hold no points, so joining them by points and cutting at points undo each other.
  have isCut (parts : List PathPart) : parts.map PathPart.chars = Text.splitAt '.' field.toList ↔
      parts ≠ [] ∧ field.toList = ['.'].intercalate (parts.map PathPart.chars) := by
    constructor
    · intro isCut
      refine ⟨?_, by rw [isCut, Text.intercalate_splitAt]⟩
      rintro rfl
      exact Text.splitAt_ne_nil _ isCut.symm
    · rintro ⟨someParts, isJoined⟩
      rw [isJoined, Text.splitAt_intercalate (by simpa using someParts)]
      intro text member
      obtain ⟨part, _, rfl⟩ := List.mem_map.mp member
      exact part.point_not_mem_chars
  have isRead : parsePath field = .ok segments ↔
      segmentsOfParts (Text.splitAt '.' field.toList) = .ok segments := by
    unfold parsePath
    split
    · next isOk => rw [isOk, Except.ok.injEq, Except.ok.injEq]
    · next isError => rw [isError]; simp
  rw [isRead, segmentsOfParts_eq_ok fun _ => Text.mark_not_mem_of_mem_splitAt]
  constructor
  · rintro ⟨parts, closed, areParts, rfl⟩
    obtain ⟨someParts, isJoined⟩ := (isCut parts).mp areParts
    exact ⟨parts, someParts, closed, isJoined, rfl⟩
  · rintro ⟨parts, someParts, closed, isJoined, rfl⟩
    exact ⟨parts, closed, (isCut parts).mpr ⟨someParts, isJoined⟩, rfl⟩

/-! ### Writing -/

/-- The text of further segments: a point before each key, `[]` for each element marker. -/
def pathTail : List Segment -> List Char
  | [] => []
  | .key name :: rest => '.' :: (name.toList ++ pathTail rest)
  | .eachElement :: rest => '[' :: ']' :: pathTail rest

/-- The text of segments: keys joined by points, each element marker as `[]` after its key. -/
def pathText : List Segment -> String
  | .key name :: rest => String.ofList (name.toList ++ pathTail rest)
  | segments => String.ofList (pathTail segments)

/-- Segments that start with a key, mark no list twice in a row, and have keys that can stand in a
path. -/
structure PathSegments (segments : List Segment) : Prop where
  startsWithKey : ∃ name rest, segments = .key name :: rest
  markedOnce : segments.IsChain fun first second => first = .eachElement -> second ≠ .eachElement
  keys : ∀ name, .key name ∈ segments -> IsPathKey name

/-- Segments can be had from parts that are not marked `[]obj`, and their text is then that of the
parts. -/
private theorem exists_parts : ∀ segments : List Segment,
    (∀ first ∈ segments.head?, first ≠ .eachElement) ->
    (segments.IsChain fun first second => first = .eachElement -> second ≠ .eachElement) ->
    (∀ name, .key name ∈ segments -> IsPathKey name) ->
    ∃ parts : List PathPart, (∀ part ∈ parts, part.marker ≠ .objects) ∧
      segments = parts.flatMap PathPart.segments ∧
      pathTail segments = parts.flatMap fun part => '.' :: part.chars
  | [], _, _, _ => ⟨[], List.forall_mem_nil _, rfl, rfl⟩
  | .eachElement :: _, startsWithKey, _, _ => absurd rfl (startsWithKey _ rfl)
  | [.key name], _, _, keys => by
      refine ⟨[⟨name, .absent, keys name (by simp)⟩], by simp, rfl, ?_⟩
      simp [pathTail, PathPart.chars, Marker.chars]
  -- A key takes the element marker after it, if there is one, into its part.
  | .key name :: .key next :: rest, _, markedOnce, keys => by
      obtain ⟨parts, plain, areSegments, isText⟩ := exists_parts (.key next :: rest) (by simp)
        markedOnce.tail fun other member => keys other (List.mem_cons_of_mem _ member)
      refine ⟨⟨name, .absent, keys name List.mem_cons_self⟩ :: parts,
        List.forall_mem_cons.mpr ⟨nofun, plain⟩, ?_, ?_⟩
      · exact congrArg (.key name :: ·) areSegments
      · rw [pathTail, isText]
        simp [PathPart.chars, Marker.chars]
  | .key name :: .eachElement :: rest, _, markedOnce, keys => by
      obtain ⟨notMarked, restMarkedOnce⟩ := List.isChain_cons.mp markedOnce.tail
      obtain ⟨parts, plain, areSegments, isText⟩ := exists_parts rest
        (fun first isFirst => notMarked first isFirst rfl) restMarkedOnce
        fun other member => keys other (List.mem_cons_of_mem _ (List.mem_cons_of_mem _ member))
      refine ⟨⟨name, .elements, keys name List.mem_cons_self⟩ :: parts,
        List.forall_mem_cons.mpr ⟨nofun, plain⟩, ?_, ?_⟩
      · exact congrArg (.key name :: .eachElement :: ·) areSegments
      · rw [pathTail, pathTail, isText]
        simp [PathPart.chars, Marker.chars]

/-- Segments that can be written are read back from their text. -/
private theorem parsePath_pathText (writable : PathSegments segments) :
    parsePath (pathText segments) = .ok segments := by
  obtain ⟨⟨name, rest, rfl⟩, markedOnce, keys⟩ := writable
  obtain ⟨parts, plain, areSegments, isText⟩ := exists_parts _ (by simp) markedOnce keys
  have someParts : parts ≠ [] := by
    rintro rfl
    cases areSegments
  refine parsePath_eq_ok_iff.mpr ⟨parts, someParts, ?_, ?_, areSegments⟩
  · exact fun last isLast => plain last (List.mem_of_getLast? isLast)
  · obtain ⟨part, others, rfl⟩ := List.exists_cons_of_ne_nil someParts
    rw [pathTail, List.flatMap_cons, List.cons_append] at isText
    rw [pathText, String.toList_ofList, (List.cons.inj isText).2, List.map_cons,
      Text.intercalate_cons, List.flatMap_map]

/-- Reading paths is exact.  A text is read as a path exactly if it consists of parts joined by
points, each a key that can stand in a path, alone or followed by `[]` or `[]obj`, the last one not
by `[]obj`; and it is read as the keys in order, each followed by an element marker where its part
has one.  In turn, all segments that start with a key, mark no list twice in a row, and have such
keys are read back from their text. -/
theorem parsePath_exact :
    (∀ field segments, parsePath field = .ok segments ↔
        ∃ parts : List PathPart, parts ≠ [] ∧ Closed parts ∧
          field.toList = ['.'].intercalate (parts.map PathPart.chars) ∧
          segments = parts.flatMap PathPart.segments) ∧
      ∀ segments, PathSegments segments -> parsePath (pathText segments) = .ok segments :=
  ⟨fun _ _ => parsePath_eq_ok_iff, fun _ => parsePath_pathText⟩

/-- The segments of a property of the elements of a list. -/
def sampleSegments : List Segment :=
  [.key "meta", .key "tags", .eachElement, .key "name"]

theorem parsePath_exact_sampleSegments :
    PathSegments sampleSegments ∧ pathText sampleSegments = "meta.tags[].name" ∧
      parsePath "meta.tags[].name" = .ok sampleSegments := by
  have isPathKey : ∀ key ∈ ["meta", "tags", "name"], IsPathKey key := by
    simp only [List.forall_mem_cons, List.not_mem_nil, false_implies, implies_true, and_true]
    refine ⟨⟨?_, ?_, ?_, ?_⟩, ⟨?_, ?_, ?_, ?_⟩, ⟨?_, ?_, ?_, ?_⟩⟩ <;> decide
  have writable : PathSegments sampleSegments := by
    refine ⟨⟨_, _, rfl⟩, by simp [sampleSegments], fun name member => isPathKey name ?_⟩
    simpa [sampleSegments] using member
  have isText : pathText sampleSegments = "meta.tags[].name" := by decide
  exact ⟨writable, isText, isText ▸ parsePath_exact.2 sampleSegments writable⟩

end ContentGraph.Override
