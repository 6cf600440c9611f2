import ContentGraph.Json.Path
import ContentGraph.Shape.Reduce

/-!
Contract: names that are legal as they are.

Owns:
- `isAlpha_iff_code` and `isDigit_iff_code`, the codes of letters and digits;
- `isLegal_iff`: a legal name is a letter or an underscore, and then letters, digits and
  underscores;
- `isLegal_legalize`: making a text legal gives a legal name, and so does every transform;
- `fieldName_eq_error_iff`: a transform is refused exactly where it leaves a list marker;
- the identity transform keeps a legal name, and a legal name never indexes a list.
-/

namespace ContentGraph.Text

variable {name : String}

/-- A name that making legal leaves alone. -/
def IsLegal (name : String) : Prop :=
  legalize name = name

instance : DecidablePred IsLegal := fun name => inferInstanceAs (Decidable (legalize name = name))

private theorem isNameChar_of_replaced (chars : List Char) :
    ∀ c ∈ chars.map (fun c => if isNameChar c then c else '_'), isNameChar c = true := by
  intro c member
  obtain ⟨own, _, rfl⟩ := List.mem_map.mp member
  split
  · next isName => exact isName
  · decide

/-- A text is legal when it holds only name characters and does not start with a digit. -/
private theorem legal_of_toList {first : Char} {rest : List Char}
    (chars : name.toList = first :: rest) (noDigit : first.isDigit = false)
    (areNames : ∀ c ∈ name.toList, isNameChar c = true) : IsLegal name := by
  have kept : name.toList.map (fun c => if isNameChar c then c else '_') = name.toList :=
    (List.map_congr_left fun c member => if_pos (areNames c member)).trans name.toList.map_id'
  rw [IsLegal, legalize, kept, chars]
  simp only [noDigit, Bool.false_eq_true, if_false]
  rw [← chars, String.ofList_toList]

/-- Making a text legal gives a legal name. -/
theorem isLegal_legalize (name : String) : IsLegal (legalize name) := by
  have areNames := isNameChar_of_replaced name.toList
  unfold legalize
  generalize name.toList.map (fun c => if isNameChar c then c else '_') = chars at areNames
  cases chars with
  | nil => decide
  | cons first rest =>
      dsimp only
      by_cases isDigit : first.isDigit = true
      · rw [if_pos isDigit]
        refine legal_of_toList String.toList_ofList (by decide) ?_
        rw [String.toList_ofList]
        exact List.forall_mem_cons.mpr ⟨by decide, areNames⟩
      · rw [if_neg isDigit]
        refine legal_of_toList String.toList_ofList (by simpa using isDigit) ?_
        rw [String.toList_ofList]
        exact areNames

/-- Every transform gives legal names. -/
theorem isLegal_of_fieldName {transform : FieldTransform} {key : String}
    (isName : transform.fieldName key = .ok name) : IsLegal name := by
  unfold FieldTransform.fieldName at isName
  dsimp only at isName
  split at isName
  · cases isName
  · cases isName
    exact isLegal_legalize _

private theorem toList_of_legal (legal : IsLegal name) :
    ∃ first rest, name.toList = first :: rest ∧ first.isDigit = false ∧
      ∀ c ∈ name.toList, isNameChar c = true := by
  have chars : (legalize name).toList = name.toList := by rw [legal]
  have replaced := isNameChar_of_replaced name.toList
  rw [legalize] at chars
  cases cut : name.toList with
  | nil => simp [cut] at chars
  | cons first rest =>
      rw [cut, List.map_cons] at chars replaced
      generalize (if isNameChar first then first else '_') = shown at chars replaced
      dsimp only at chars
      by_cases isDigit : shown.isDigit = true
      · -- the underscore put before a digit makes the name longer
        rw [if_pos isDigit, String.toList_ofList] at chars
        have lengths := congrArg List.length chars
        simp at lengths
      · rw [if_neg isDigit, String.toList_ofList] at chars
        rw [chars] at replaced
        obtain ⟨rfl, _⟩ := List.cons.inj chars
        exact ⟨shown, rest, rfl, by simpa using isDigit, replaced⟩

/-- A letter or an underscore, and then letters, digits and underscores. -/
def IsGraphName (name : String) : Prop :=
  ∃ first rest, name.toList = first :: rest ∧ (first.isAlpha = true ∨ first = '_') ∧
    ∀ c ∈ rest, c.isAlphanum = true ∨ c = '_'

/-- The codes of letters. -/
theorem isAlpha_iff_code {c : Char} :
    c.isAlpha = true ↔ 65 ≤ c.toNat ∧ c.toNat ≤ 90 ∨ 97 ≤ c.toNat ∧ c.toNat ≤ 122 := by
  change (decide ('A'.val ≤ c.val ∧ c.val ≤ 'Z'.val) ||
    decide ('a'.val ≤ c.val) && decide (c.val ≤ 'z'.val)) = true ↔ _
  simp only [Bool.or_eq_true, Bool.and_eq_true, decide_eq_true_eq, UInt32.le_iff_toNat_le]
  rfl

/-- The codes of digits. -/
theorem isDigit_iff_code {c : Char} : c.isDigit = true ↔ 48 ≤ c.toNat ∧ c.toNat ≤ 57 := by
  change (decide ('0'.val ≤ c.val) && decide (c.val ≤ '9'.val)) = true ↔ _
  simp only [Bool.and_eq_true, decide_eq_true_eq, UInt32.le_iff_toNat_le]
  rfl

theorem isLegal_iff : IsLegal name ↔ IsGraphName name := by
  have isNameChar_iff (c : Char) : isNameChar c = true ↔ c.isAlphanum = true ∨ c = '_' := by
    simp [isNameChar]
  constructor
  · intro legal
    obtain ⟨first, rest, chars, noDigit, areNames⟩ := toList_of_legal legal
    rw [chars, List.forall_mem_cons] at areNames
    refine ⟨first, rest, chars, ?_, fun c member => (isNameChar_iff c).mp (areNames.2 c member)⟩
    have isFirst := (isNameChar_iff first).mp areNames.1
    rwa [Char.isAlphanum, noDigit, Bool.or_false] at isFirst
  · rintro ⟨first, rest, chars, isFirst, areRest⟩
    have noDigit : first.isDigit = false := by
      rcases isFirst with isLetter | rfl
      · have codes := isAlpha_iff_code.mp isLetter
        refine Bool.eq_false_iff.mpr fun isDigit => ?_
        have digit := isDigit_iff_code.mp isDigit
        omega
      · decide
    refine legal_of_toList chars noDigit ?_
    rw [chars]
    refine List.forall_mem_cons.mpr ⟨(isNameChar_iff first).mpr ?_, fun c member =>
      (isNameChar_iff c).mpr (areRest c member)⟩
    rwa [Char.isAlphanum, noDigit, Bool.or_false]

private theorem scan_eq_true_iff (chars : List Char) :
    FieldTransform.holdsListMarker.scan chars = true ↔ ['[', ']'] <:+: chars := by
  fun_induction FieldTransform.holdsListMarker.scan chars with
  | case1 rest => simpa using (List.prefix_append ['[', ']'] rest).isInfix
  | case2 first rest noMarker inductionHypothesis =>
      rw [inductionHypothesis, List.infix_cons_iff]
      refine (or_iff_right ?_).symm
      rintro ⟨later, isMarker⟩
      cases isMarker
      exact noMarker later rfl rfl
  | case3 => simp

/-- A key gets no name exactly where its transform still holds a list marker. -/
theorem fieldName_eq_error_iff {transform : FieldTransform} {key : String} {failure : Failure} :
    transform.fieldName key = .error failure ↔
      ['[', ']'] <:+: (transform.apply key).toList ∧
        failure = .illegalFieldName (transform.apply key) := by
  rw [← scan_eq_true_iff]
  unfold FieldTransform.fieldName FieldTransform.holdsListMarker
  dsimp only
  split
  · next isMarked => rw [and_iff_right isMarked, Except.error.injEq, eq_comm]
  · next isFree => exact iff_of_false nofun fun both => isFree both.1

private theorem scan_of_names {chars : List Char} (areNames : ∀ c ∈ chars, isNameChar c = true) :
    FieldTransform.holdsListMarker.scan chars = false := by
  induction chars with
  | nil => rfl
  | cons first rest inductionHypothesis =>
      obtain ⟨isName, restAreNames⟩ := List.forall_mem_cons.mp areNames
      unfold FieldTransform.holdsListMarker.scan
      split
      · next isMarker =>
          cases isMarker
          exact absurd isName (by decide)
      · next isCons =>
          cases isCons
          exact inductionHypothesis restAreNames
      · rfl

/-- The identity transform keeps a legal name. -/
theorem fieldName_identity (legal : IsLegal name) :
    FieldTransform.identity.fieldName name = .ok name := by
  obtain ⟨_, _, _, _, areNames⟩ := toList_of_legal legal
  have unmarked : FieldTransform.holdsListMarker name = false := scan_of_names areNames
  have kept : legalize name = name := legal
  simp [FieldTransform.fieldName, FieldTransform.apply, unmarked, kept]

/-- A legal name is no index into a list. -/
theorem index?_of_legal (legal : IsLegal name) : Json.Value.index? name = none := by
  obtain ⟨first, rest, chars, noDigit, areNames⟩ := toList_of_legal legal
  have noPlus : first ≠ '+' := by
    rintro rfl
    have isName := areNames '+' (chars ▸ List.mem_cons_self)
    exact absurd isName (by decide)
  simp only [Json.Value.index?, chars]
  split
  · next isPlus =>
      cases isPlus
      exact absurd rfl noPlus
  · simp [noDigit]

end ContentGraph.Text
