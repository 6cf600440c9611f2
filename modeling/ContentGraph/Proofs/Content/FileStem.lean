import ContentGraph.Content.Source
import ContentGraph.Proofs.Text.Slug

/-!
Contract: which characters the name of a record's file is made of.

Owns:
- `isNumberText_text`: the text of a number has digits, signs, a point and an exponent;
- `separator_not_mem_stem`: neither that nor a slug can hold a separator of paths.

Does not own: slugs (`Proofs.Text.Slug`), and paths that a record states itself.
-/

namespace ContentGraph

/-! ### The texts of numbers -/

namespace Decimal

/-- The characters of numbers. -/
def isNumberChar (c : Char) : Bool :=
  c.isDigit || "-+.e".toList.contains c

/-- A text that has no other characters than those of numbers. -/
def IsNumberText (text : List Char) : Prop :=
  ∀ c ∈ text, isNumberChar c = true

theorem IsNumberText.cons {c : Char} {text : List Char} (isChar : isNumberChar c = true)
    (isText : IsNumberText text) : IsNumberText (c :: text) :=
  List.forall_mem_cons.mpr ⟨isChar, isText⟩

theorem IsNumberText.append {front back : List Char} (isFront : IsNumberText front)
    (isBack : IsNumberText back) : IsNumberText (front ++ back) :=
  List.forall_mem_append.mpr ⟨isFront, isBack⟩

theorem IsNumberText.subset {text part : List Char} (isText : IsNumberText text)
    (isPart : part ⊆ text) : IsNumberText part :=
  fun c member => isText c (isPart member)

theorem isNumberText_digitsOf (value : Nat) : IsNumberText (digitsOf value) := by
  intro c member
  rw [isNumberChar, Nat.isDigit_of_mem_toDigits (by decide) (by decide) member, Bool.true_or]

theorem isNumberText_toString (value : Int) : IsNumberText (toString value).toList := by
  have ofRepr (value : Nat) : IsNumberText value.repr.toList := by
    rw [Nat.repr_eq_ofList_toDigits, String.toList_ofList]
    exact isNumberText_digitsOf value
  cases value with
  | ofNat value => exact ofRepr value
  | negSucc value =>
      have isText : (toString (Int.negSucc value)).toList = '-' :: (value + 1).repr.toList := by
        rw [show toString (Int.negSucc value) = "-" ++ (value + 1).repr from rfl,
          String.toList_append]
        rfl
      rw [isText]
      exact (ofRepr (value + 1)).cons (by decide)

/-- The exponent of a number whose first figure stands before the point. -/
def exponentText (point : Int) : List Char :=
  ((if 0 < point then "+" else "") ++ toString (point - 1)).toList

theorem isNumberText_exponentText (point : Int) : IsNumberText (exponentText point) := by
  rw [exponentText, String.toList_append]
  refine IsNumberText.append ?_ (isNumberText_toString _)
  split <;> simp [IsNumberText, isNumberChar]

/-- The figures of a number with the point or the exponent that the power of ten asks for. -/
def laidOut (figures : List Char) (power : Int) : List Char :=
  let point : Int := figures.length + power
  if 0 ≤ power ∧ point ≤ 16 then
    figures ++ List.replicate power.toNat '0' ++ ['.', '0']
  else if 0 < point ∧ point ≤ 16 then
    figures.take point.toNat ++ '.' :: figures.drop point.toNat
  else if -5 < point ∧ point ≤ 0 then
    ['0', '.'] ++ List.replicate (-point).toNat '0' ++ figures
  else
    match figures with
    | [single] => single :: 'e' :: exponentText point
    | first :: rest => first :: '.' :: rest ++ 'e' :: exponentText point
    | [] => []

theorem text_eq (x : Double) :
    x.text "+" = (if x.negative then "-" else "") ++
      if x.mantissa = 0 then "0.0"
      else String.ofList (laidOut (digitsOf (shortestDigits x).1) (shortestDigits x).2) := by
  by_cases isZero : x.mantissa = 0
  · simp only [Double.text, if_pos isZero]
  · simp only [Double.text, if_neg isZero]
    rfl

theorem isNumberText_laidOut {figures : List Char} (isText : IsNumberText figures) (power : Int) :
    IsNumberText (laidOut figures power) := by
  have ofZeros (count : Nat) : IsNumberText (List.replicate count '0') := by
    intro c member
    rw [List.eq_of_mem_replicate member]
    decide
  have ofNone : IsNumberText [] := fun _ member => by cases member
  have isPoint : isNumberChar '.' = true := by decide
  have isZero : isNumberChar '0' = true := by decide
  have isMark : isNumberChar 'e' = true := by decide
  unfold laidOut
  dsimp only
  split
  · exact (isText.append (ofZeros _)).append ((ofNone.cons isZero).cons isPoint)
  split
  · exact (isText.subset (List.take_subset _ _)).append
      ((isText.subset (List.drop_subset _ _)).cons isPoint)
  split
  · exact (((ofNone.cons isPoint).cons isZero).append (ofZeros _)).append isText
  · have isExponent := isNumberText_exponentText (figures.length + power)
    obtain _ | ⟨first, _ | ⟨second, rest⟩⟩ := figures
    · exact isText
    · exact (isExponent.cons isMark).cons (isText first List.mem_cons_self)
    · obtain ⟨isFirst, isRest⟩ := List.forall_mem_cons.mp isText
      exact ((IsNumberText.append isRest (isExponent.cons isMark)).cons isPoint).cons isFirst

theorem isNumberText_text (x : Double) : IsNumberText (x.text "+").toList := by
  rw [text_eq, String.toList_append]
  refine IsNumberText.append ?_ ?_
  · split <;> simp [IsNumberText, isNumberChar]
  · split
    · simp [IsNumberText, isNumberChar]
    · rw [String.toList_ofList]
      exact isNumberText_laidOut (isNumberText_digitsOf _) _

end Decimal

namespace Content.ContentDirectory

open Json Decimal

theorem isNumberText_number (number : Number) : IsNumberText number.text.toList := by
  cases number with
  | int value => exact isNumberText_toString value
  | double value => exact isNumberText_text value

/-- The name of a record's file holds no separator of paths. -/
theorem separator_not_mem_stem {value : Value} {stem : String} (isStem : stem? value = some stem) :
    '/' ∉ stem.toList := by
  have isName (name : String) (found : (if name.isEmpty then none else some name) = some stem) :
      name = stem := by
    split at found
    · cases found
    · exact Option.some.inj found
  cases value with
  | string text =>
      rw [← isName _ isStem]
      exact Text.separator_not_mem_slugify text
  | number number =>
      rw [← isName _ isStem]
      intro member
      exact absurd (isNumberText_number number _ member) (by decide)
  | _ => cases isStem

end Content.ContentDirectory

end ContentGraph
