import ContentGraph.Graph.Output
import ContentGraph.Proofs.Schema.TypeText

/-!
Contract: the lists of declared types, as every reader of a type's text finds them.

Owns:
- `TypeRef.isList`, whether a reference is a list below its marks, and `Output.Mirrors`, the
  outputs with lists exactly where a reference has lists;
- `TypeRef.hasLooseMark`, white space between the closing bracket of a list and one of its marks;
- `Derives.framed`: a text stands for a list exactly in brackets, with white space before them and
  marks and white space after them;
- `lists_agree_iff`: when the kind of a computed field and its outputs have the lists of its type.
-/

namespace ContentGraph

open ContentGraph.Json

namespace TypeRef

variable {chars before inner after text : List Char} {ref element : TypeRef}

/-- The reference below its marks. -/
def unmarked : TypeRef -> TypeRef
  | .nonNull inner => unmarked inner
  | other => other

/-- Whether a reference is a list below its marks. -/
def isList (ref : TypeRef) : Bool :=
  match ref.unmarked with
  | .list _ => true
  | _ => false

/-! ### White space before marks -/

/-- What may stand around a reference: white space and marks. -/
def isAround (c : Char) : Bool :=
  Text.isBlank c || c == '!'

/-- Whether white space comes before the last of the marks that a text starts with. -/
def startsLoose (text : List Char) : Bool :=
  (Text.dropEndWhile Text.isBlank (text.takeWhile isAround)).any Text.isBlank

/-- Whether white space stands between the closing bracket of a list and one of its marks. -/
def hasLooseMark : List Char -> Bool
  | [] => false
  | c :: rest => (c == ']' && startsLoose rest) || hasLooseMark rest

private theorem startsLoose_append_bracket (text : List Char) :
    startsLoose (text ++ ']' :: after) = startsLoose text := by
  have stops : (text ++ ']' :: after).takeWhile isAround = text.takeWhile isAround := by
    rw [List.takeWhile_append]
    split
    · next whole =>
        rw [List.takeWhile_cons_of_neg (by decide), List.append_nil,
          (List.takeWhile_prefix isAround).eq_of_length whole]
    · rfl
  rw [startsLoose, startsLoose, stops]

private theorem hasLooseMark_append_bracket (text : List Char) :
    hasLooseMark (text ++ ']' :: after) = (hasLooseMark text || hasLooseMark (']' :: after)) := by
  induction text with
  | nil => rfl
  | cons c rest inductionHypothesis =>
      rw [List.cons_append, hasLooseMark, startsLoose_append_bracket, inductionHypothesis,
        ← Bool.or_assoc]
      rfl

private theorem hasLooseMark_append_of_not_mem (absent : ']' ∉ before) :
    hasLooseMark (before ++ text) = hasLooseMark text := by
  induction before with
  | nil => rfl
  | cons c rest inductionHypothesis =>
      rw [List.mem_cons, not_or] at absent
      have notBracket : (c == ']') = false := by
        rw [beq_eq_false_iff_ne]
        exact fun same => absent.1 same.symm
      rw [List.cons_append, hasLooseMark, inductionHypothesis absent.2, notBracket]
      rfl

private theorem hasLooseMark_of_not_mem (absent : ']' ∉ text) : hasLooseMark text = false := by
  have isNil : hasLooseMark (text ++ []) = hasLooseMark [] := hasLooseMark_append_of_not_mem absent
  rwa [List.append_nil] at isNil

/-! ### Texts in brackets -/

private theorem bracketed?_of_last {last : Char} (isLast : text.getLast? = some last)
    (notBracket : last ≠ ']') : bracketed? text = none := by
  unfold bracketed?
  split
  · next rest =>
      split
      · next endsInside =>
          rw [List.getLast?_cons, endsInside] at isLast
          exact absurd (Option.some.inj isLast).symm notBracket
      · rfl
  · rfl

private theorem bracketed?_of_not_mem (absent : '[' ∉ text) : bracketed? text = none := by
  unfold bracketed?
  split
  · exact absurd List.mem_cons_self absent
  · rfl

/-- A text in brackets, with white space before it, and marks and white space after it. -/
structure Framed (chars before inner after : List Char) : Prop where
  eq : chars = before ++ ('[' :: inner ++ ']' :: after)
  blank : ∀ c ∈ before, Text.isBlank c = true
  around : ∀ c ∈ after, isAround c = true

/-- A text stands for a name, and then it has no brackets, or for a list in brackets. -/
private theorem Derives.framed (derives : Derives chars ref) :
    ((∃ name, ref.unmarked = .named name) ∧ '[' ∉ chars ∧ ']' ∉ chars) ∨
      ∃ before inner after element,
        Framed chars before inner after ∧ Derives inner element ∧ ref.unmarked = .list element := by
  have noBlank : Text.isBlank '[' = false ∧ Text.isBlank ']' = false := by decide
  induction derives with
  | @named name isName =>
      refine .inl ⟨⟨name, rfl⟩, ?_, ?_⟩
      · intro member
        rcases alphanum_of_isGraphName isName member with impossible | impossible <;>
          revert impossible <;> decide
      · intro member
        rcases alphanum_of_isGraphName isName member with impossible | impossible <;>
          revert impossible <;> decide
  | @list inner element isElement _ =>
      exact .inr ⟨[], inner, [], element, ⟨rfl, List.forall_mem_nil _, List.forall_mem_nil _⟩,
        isElement, rfl⟩
  | nonNull _ inductionHypothesis =>
      rcases inductionHypothesis with ⟨isNamed, noOpening, noClosing⟩ |
        ⟨before, inner, after, element, framed, isElement, isUnmarked⟩
      · refine .inl ⟨isNamed, ?_, ?_⟩ <;> simp [noOpening, noClosing]
      · refine .inr ⟨before, inner, after ++ ['!'], element, ⟨?_, framed.blank, ?_⟩, isElement,
          isUnmarked⟩
        · simp [framed.eq]
        · intro c member
          rcases List.mem_append.mp member with inAfter | isMark
          · exact framed.around c inAfter
          · rw [List.mem_singleton.mp isMark]
            decide
  | @spaced blanks _ blanksAfter _ blankBefore blankAfter _ inductionHypothesis =>
      rcases inductionHypothesis with ⟨isNamed, noOpening, noClosing⟩ |
        ⟨before, inner, after, element, framed, isElement, isUnmarked⟩
      · have apart {c : Char} (notBlank : Text.isBlank c = false) :
            c ∉ blanks ∧ c ∉ blanksAfter := by
          constructor
          · intro member
            exact Bool.noConfusion ((blankBefore c member).symm.trans notBlank)
          · intro member
            exact Bool.noConfusion ((blankAfter c member).symm.trans notBlank)
        refine .inl ⟨isNamed, ?_, ?_⟩
        · simp [noOpening, apart noBlank.1]
        · simp [noClosing, apart noBlank.2]
      · refine .inr ⟨blanks ++ before, inner, after ++ blanksAfter, element, ⟨?_, ?_, ?_⟩,
          isElement, isUnmarked⟩
        · simp [framed.eq]
        · intro c member
          exact (List.mem_append.mp member).elim (blankBefore c) (framed.blank c)
        · intro c member
          rcases List.mem_append.mp member with inAfter | inBlanks
          · exact framed.around c inAfter
          · rw [isAround, blankAfter c inBlanks, Bool.true_or]

namespace Framed

/-- The marks of a list are loose inside its brackets or right after them. -/
theorem hasLooseMark_eq (framed : Framed chars before inner after) :
    hasLooseMark chars =
      (hasLooseMark inner || (Text.dropEndWhile Text.isBlank after).any Text.isBlank) := by
  have noClosing : ']' ∉ before := fun member =>
    Bool.noConfusion ((framed.blank _ member).symm.trans (by decide : Text.isBlank ']' = false))
  have noneAfter : ']' ∉ after := fun member =>
    Bool.noConfusion ((framed.around _ member).symm.trans (by decide : isAround ']' = false))
  have isAfter : hasLooseMark (']' :: after) =
      (Text.dropEndWhile Text.isBlank after).any Text.isBlank := by
    rw [hasLooseMark, hasLooseMark_of_not_mem noneAfter, startsLoose,
      List.takeWhile_eq_self_iff.mpr framed.around]
    simp
  have skipsOpening : hasLooseMark ('[' :: inner) = hasLooseMark inner := rfl
  rw [framed.eq, hasLooseMark_append_of_not_mem noClosing, hasLooseMark_append_bracket,
    skipsOpening, isAfter]

theorem trimChars_eq (framed : Framed chars before inner after) :
    Text.trimChars chars = '[' :: inner ++ ']' :: Text.dropEndWhile Text.isBlank after := by
  have isText : chars = before ++
      ('[' :: inner ++ ']' :: Text.dropEndWhile Text.isBlank after) ++
        after.rtakeWhile Text.isBlank := by
    rw [framed.eq, Text.dropEndWhile_eq_rdropWhile]
    simp [List.rdropWhile_append_rtakeWhile]
  rw [isText, Text.trimChars_between_blanks framed.blank fun _ => List.mem_rtakeWhile_imp]
  apply Text.trimChars_of_ends
  · intro c isFirst
    cases isFirst
    decide
  · intro c isLast
    rw [List.getLast?_append, List.getLast?_cons] at isLast
    cases ends : (Text.dropEndWhile Text.isBlank after).getLast? with
    | none =>
        rw [ends] at isLast
        cases isLast
        decide
    | some last =>
        rw [ends] at isLast
        cases isLast
        exact Text.kept_of_getLast?_dropEndWhile ends

/-- Marks without white space between them are passed over. -/
theorem declaredCore_of_tight (framed : Framed chars before inner after)
    (tight : (Text.dropEndWhile Text.isBlank after).any Text.isBlank = false) :
    Output.declaredCore chars = '[' :: inner ++ [']'] := by
  have areMarks : ∀ c ∈ Text.dropEndWhile Text.isBlank after, decide (c = '!') = true := by
    intro c member
    have isAround := framed.around c ((List.rdropWhile_prefix _ _).subset member)
    rw [List.any_eq_false] at tight
    simpa [TypeRef.isAround, tight c member] using isAround
  rw [Output.declaredCore, framed.trimChars_eq,
    show '[' :: inner ++ ']' :: Text.dropEndWhile Text.isBlank after =
      '[' :: inner ++ [']'] ++ Text.dropEndWhile Text.isBlank after by simp,
    Text.dropEndWhile_append_of_all areMarks]
  apply Text.dropEndWhile_of_last
  intro last isLast
  rw [List.getLast?_concat] at isLast
  cases isLast
  decide

/-- White space between the marks stays, so that no bracket stands at the end. -/
theorem bracketed?_of_loose (framed : Framed chars before inner after)
    (loose : (Text.dropEndWhile Text.isBlank after).any Text.isBlank = true) :
    bracketed? (Output.declaredCore chars) = none := by
  obtain ⟨blank, member, isBlank⟩ := List.any_eq_true.mp loose
  have noMark : decide (blank = '!') = false := by
    rw [decide_eq_false_iff_not]
    rintro rfl
    revert isBlank
    decide
  obtain ⟨last, inAfter, isKept, isLast⟩ :=
    Text.getLast?_dropEndWhile_append (· = '!') ('[' :: inner ++ [']']) ⟨blank, member, noMark⟩
  have notBracket : last ≠ ']' := by
    rintro rfl
    have isAround := framed.around _ ((List.rdropWhile_prefix _ _).subset inAfter)
    revert isAround
    decide
  have isCore : Output.declaredCore chars =
      Text.dropEndWhile (· = '!')
        ('[' :: inner ++ [']'] ++ Text.dropEndWhile Text.isBlank after) := by
    rw [Output.declaredCore, framed.trimChars_eq]
    simp
  rw [isCore]
  exact bracketed?_of_last isLast notBracket

end Framed

end TypeRef

/-! ### Kinds of computed fields -/

/-- A computed field counts as a list when the text of its type starts with a bracket. -/
theorem Kind.isList_resolved_iff (resolver : Resolver) :
    (Kind.resolved resolver).isList = true ↔ resolver.typeRef.toList.head? = some '[' := by
  show decide ((resolver.typeRef.toList.reverse.dropWhile (· = '!')).getLast? = some '[') = true ↔ _
  rw [decide_eq_true_iff]
  cases resolver.typeRef.toList with
  | nil => simp
  | cons c rest =>
      rw [List.reverse_cons, List.dropWhile_append]
      split
      · by_cases isMark : c = '!' <;> simp [isMark]
      · simp

/-! ### Outputs of computed fields -/

namespace Output

variable {chars inner : List Char} {ref : TypeRef} {value : Value}

/-- The output shows the value with a list exactly where the type has one: a value that is no array
is the only item there, and null stays null. -/
def Mirrors : TypeRef -> Value -> Output -> Prop
  | .named _, value, output => output = .leaf value ∨ (value.isObject = true ∧ output = .node value)
  | .nonNull inner, value, output => Mirrors inner value output
  | .list element, value, output =>
      if value.isNull then output = nothing
      else ∃ outputs, output = .list outputs ∧
        List.Forall₂ (fun item shown => Mirrors element item shown) (itemsOf value) outputs

theorem mirrors_unmarked (ref : TypeRef) (value : Value) (output : Output) :
    Mirrors ref.unmarked value output ↔ Mirrors ref value output := by
  induction ref with
  | nonNull inner inductionHypothesis => exact inductionHypothesis
  | _ => exact Iff.rfl

theorem ofDeclared_eq_none_iff : ofDeclared chars value = none ↔ value = .null := by
  rw [ofDeclared]
  cases value <;> simp only [Value.isNull, Bool.false_eq_true, if_false, if_true] <;>
    repeat' split
  all_goals simp

private theorem mem_of_mem_declaredCore {c : Char} (member : c ∈ declaredCore chars) :
    c ∈ chars := by
  have inTrimmed : c ∈ Text.trimChars chars := (List.rdropWhile_prefix _ _).subset member
  have inSuffix : c ∈ chars.dropWhile Text.isBlank :=
    (List.rdropWhile_prefix _ _).subset inTrimmed
  exact (List.dropWhile_suffix _).subset inSuffix

private theorem ofDeclared_bracketed
    (bracket : TypeRef.bracketed? (declaredCore chars) = some inner)
    (present : value.isNull = false) :
    ofDeclared chars value =
      some (.list ((itemsOf value).map fun item => (ofDeclared inner item).getD nothing)) := by
  rw [ofDeclared, present]
  simp only [Bool.false_eq_true, if_false]
  split <;> simp_all

private theorem ofDeclared_plain (value : Value)
    (noBracket : TypeRef.bracketed? (declaredCore chars) = none) :
    (ofDeclared chars value).getD nothing = .leaf value ∨
      (value.isObject = true ∧ (ofDeclared chars value).getD nothing = .node value) := by
  rw [ofDeclared]
  split
  · next isNull =>
      cases value with
      | null => exact .inl rfl
      | _ => cases isNull
  · split
    · simp_all
    · split
      · next isNode =>
          rw [Bool.and_eq_true] at isNode
          exact .inr ⟨isNode.1, rfl⟩
      · exact .inl rfl

/-- The outputs have the lists of the type exactly if no mark of a list is loose. -/
theorem mirrors_ofDeclared_iff (chars : List Char) (ref : TypeRef)
    (derives : TypeRef.Derives chars ref) :
    (∀ value, Mirrors ref value ((ofDeclared chars value).getD nothing)) ↔
      TypeRef.hasLooseMark chars = false := by
  rcases derives.framed with ⟨⟨name, isNamed⟩, noOpening, noClosing⟩ |
    ⟨before, inner, after, element, framed, isElement, isList⟩
  · rw [TypeRef.hasLooseMark_of_not_mem noClosing]
    refine iff_of_true (fun value => ?_) rfl
    have noBracket : TypeRef.bracketed? (declaredCore chars) = none :=
      TypeRef.bracketed?_of_not_mem fun member => noOpening (mem_of_mem_declaredCore member)
    rw [← mirrors_unmarked, isNamed]
    exact ofDeclared_plain value noBracket
  · have shorter : inner.length < chars.length := by
      rw [framed.eq]
      simp only [List.length_append, List.length_cons]
      omega
    have inductionHypothesis := mirrors_ofDeclared_iff inner element isElement
    rw [framed.hasLooseMark_eq, Bool.or_eq_false_iff, ← inductionHypothesis]
    cases loose : (Text.dropEndWhile Text.isBlank after).any Text.isBlank with
    | true =>
        -- The brackets are not seen, so that a single value is shown without a list.
        refine iff_of_false (fun mirrors => ?_) (fun both => Bool.noConfusion both.2)
        have single := mirrors (.bool true)
        rw [← mirrors_unmarked, isList] at single
        obtain ⟨outputs, isShown, _⟩ := single
        rcases ofDeclared_plain (.bool true) (framed.bracketed?_of_loose loose) with
          isLeaf | ⟨_, isNode⟩
        · cases isLeaf.symm.trans isShown
        · cases isNode.symm.trans isShown
    | false =>
        have bracket : TypeRef.bracketed? (declaredCore chars) = some inner := by
          rw [framed.declaredCore_of_tight loose]
          simp [TypeRef.bracketed?]
        have shown (value : Value) (present : value.isNull = false) :
            Mirrors ref value ((ofDeclared chars value).getD nothing) ↔
              ∀ item ∈ itemsOf value,
                Mirrors element item ((ofDeclared inner item).getD nothing) := by
          rw [← mirrors_unmarked, isList, ofDeclared_bracketed bracket present]
          simp [Mirrors, present, List.forall₂_map_right_iff, List.forall₂_same]
        constructor
        · intro mirrors
          refine ⟨fun item => ?_, rfl⟩
          exact (shown (.array [item]) rfl).mp (mirrors _) item List.mem_cons_self
        · rintro ⟨mirrors, -⟩ value
          cases isNull : value.isNull with
          | false => exact (shown value isNull).mpr fun item _ => mirrors item
          | true =>
              have isNothing : ofDeclared chars value = none := by
                rw [ofDeclared_eq_none_iff]
                cases value <;> first | rfl | cases isNull
              rw [← mirrors_unmarked, isList, isNothing]
              simp [Mirrors, isNull]
termination_by chars.length

end Output

/-! ### The readers of a type's text -/

/-- A kind, a reference and the outputs have the same lists as far as white space allows.  For
every resolver whose type is read: its kind says that it is a list exactly if the type is a list
and its text does not start with white space; null, and only null, gives no output; and the
outputs of all values have lists exactly where the type has them if and only if no white space
stands between the closing bracket of a list and one of its marks. -/
theorem Resolver.lists_agree_iff {resolver : Resolver} {ref : TypeRef}
    (isRead : TypeRef.parse resolver.typeRef = .ok ref) :
    ((Kind.resolved resolver).isList = true ↔
        ref.isList = true ∧ resolver.typeRef.toList.head?.any Text.isBlank = false) ∧
      (∀ value, Output.ofDeclared resolver.typeRef.toList value = none ↔ value = .null) ∧
      ((∀ value, Output.Mirrors ref value
          ((Output.ofDeclared resolver.typeRef.toList value).getD Output.nothing)) ↔
        TypeRef.hasLooseMark resolver.typeRef.toList = false) := by
  have derives := TypeRef.derives_of_parseChars _ ref isRead
  refine ⟨?_, fun _ => Output.ofDeclared_eq_none_iff, Output.mirrors_ofDeclared_iff _ ref derives⟩
  rw [Kind.isList_resolved_iff]
  rcases derives.framed with ⟨⟨name, isNamed⟩, noOpening, _⟩ |
    ⟨before, inner, after, element, framed, _, isList⟩
  · refine iff_of_false (fun isFirst => noOpening (List.mem_of_head? isFirst)) ?_
    simp [TypeRef.isList, isNamed]
  · have isListed : ref.isList = true := by simp only [TypeRef.isList, isList]
    rw [isListed, framed.eq]
    cases before with
    | nil => simp [show Text.isBlank '[' = false by decide]
    | cons c rest =>
        have isBlank : Text.isBlank c = true := framed.blank c List.mem_cons_self
        have notBracket : c ≠ '[' := by
          rintro rfl
          revert isBlank
          decide
        simp [isBlank, notBracket]

/-- A computed field of the given type that gives what is stored. -/
def sampleTyped (typeRef : String) : Resolver where
  typeRef := typeRef
  resolve := fun value _ _ => .ok value

/-- Lists of lists, none of which may be absent, with white space where no reader stumbles. -/
theorem Resolver.lists_agree_sampleTyped :
    let resolver := sampleTyped "[ [String!]! ]! "
    let ref : TypeRef := .nonNull (.list (.nonNull (.list (.nonNull (.named "String")))))
    TypeRef.parse resolver.typeRef = .ok ref ∧ (Kind.resolved resolver).isList = true ∧
      ∀ value, Output.Mirrors ref value
        ((Output.ofDeclared resolver.typeRef.toList value).getD Output.nothing) := by
  have isRead : TypeRef.parse (sampleTyped "[ [String!]! ]! ").typeRef =
      .ok (.nonNull (.list (.nonNull (.list (.nonNull (.named "String")))))) := by
    decide +kernel
  obtain ⟨isList, -, mirrors⟩ := Resolver.lists_agree_iff isRead
  exact ⟨isRead, isList.mpr (by decide +kernel), mirrors.mpr (by decide +kernel)⟩

/-- White space before a list hides it from the kind, and white space before a mark hides it from
the outputs. -/
theorem Resolver.lists_disagree :
    (TypeRef.parse " [String]" = .ok (.list (.named "String")) ∧
      (Kind.resolved (sampleTyped " [String]")).isList = false) ∧
    (TypeRef.parse "[String] !" = .ok (.nonNull (.list (.named "String"))) ∧
      Output.ofDeclared "[String] !".toList (.string "x") = some (.leaf (.string "x"))) := by
  refine ⟨⟨by decide +kernel, by decide +kernel⟩, by decide +kernel, ?_⟩
  cbv

end ContentGraph
