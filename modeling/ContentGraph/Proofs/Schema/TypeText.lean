import ContentGraph.Proofs.Success
import ContentGraph.Proofs.Text.LegalNames
import ContentGraph.Proofs.Text.Trim
import ContentGraph.Schema.TypeRef

/-!
Contract: which texts are references to graph types, and which references they are.

Owns:
- `TypeRef.Derives`, the grammar: names, brackets and marks, with white space around every part;
- the equations of the reader, by what the trimmed text ends with;
- `parseChars_of_derives` and `derives_of_parseChars`: the reader reads this grammar;
- `parse_exact`: it reads nothing else, the text of what was read is what was read without white
  space, and references with legal names are read back from their texts.
-/

namespace ContentGraph.TypeRef

variable {chars inner left right : List Char} {ref : TypeRef}

/-- The texts that stand for a reference. -/
inductive Derives : List Char -> TypeRef -> Prop where
  | named {name : String} (isName : Text.IsGraphName name) : Derives name.toList (.named name)
  | list {inner : List Char} {element : TypeRef} (isElement : Derives inner element) :
      Derives ('[' :: inner ++ [']']) (.list element)
  | nonNull {inner : List Char} {ref : TypeRef} (isInner : Derives inner ref) :
      Derives (inner ++ ['!']) (.nonNull ref)
  | spaced {before inner after : List Char} {ref : TypeRef}
      (blankBefore : ∀ c ∈ before, Text.isBlank c = true)
      (blankAfter : ∀ c ∈ after, Text.isBlank c = true) (isInner : Derives inner ref) :
      Derives (before ++ inner ++ after) ref

/-! ### Names -/

theorem isName_iff {name : String} : isName name.toList = true ↔ Text.IsGraphName name := by
  unfold Text.IsGraphName
  cases name.toList with
  | nil => simp [isName]
  | cons first rest => simp [isName, Text.isNameChar]

/-- The characters of a name are letters, digits and underscores. -/
theorem alphanum_of_isGraphName {name : String} (isName : Text.IsGraphName name) {c : Char}
    (member : c ∈ name.toList) : c.isAlphanum = true ∨ c = '_' := by
  obtain ⟨first, rest, isText, isFirst, areRest⟩ := isName
  rw [isText] at member
  rcases List.mem_cons.mp member with rfl | inRest
  · rcases isFirst with isLetter | isUnderscore
    · exact .inl (by simp [Char.isAlphanum, isLetter])
    · exact .inr isUnderscore
  · exact areRest c inRest

/-- The characters of a name are neither white space nor marks nor brackets. -/
theorem char_of_isGraphName {name : String} (isName : Text.IsGraphName name) {c : Char}
    (member : c ∈ name.toList) : Text.isBlank c = false ∧ c ≠ '!' ∧ c ≠ '[' := by
  rcases alphanum_of_isGraphName isName member with isAlphanum | rfl
  · have codes : 48 ≤ c.toNat ∧ c.toNat ≤ 122 ∧ c.toNat ≠ 91 := by
      rw [Char.isAlphanum, Bool.or_eq_true, Text.isAlpha_iff_code, Text.isDigit_iff_code]
        at isAlphanum
      omega
    refine ⟨?_, ?_, ?_⟩
    · simp only [Text.isBlank, Bool.or_eq_false_iff, Bool.and_eq_false_iff, decide_eq_false_iff_not,
        beq_eq_false_iff_ne]
      omega
    · rintro rfl
      exact absurd codes.1 (by decide)
    · rintro rfl
      exact absurd rfl codes.2.2
  · decide

/-! ### The equations of the reader -/

private theorem parseChars_marked (marked : (Text.trimChars chars).getLast? = some '!') :
    parseChars chars = (parseChars (Text.trimChars chars).dropLast).map .nonNull := by
  rw [parseChars]
  exact dif_pos marked

private theorem parseChars_bracketed (unmarked : (Text.trimChars chars).getLast? ≠ some '!')
    (bracket : bracketed? (Text.trimChars chars) = some inner) :
    parseChars chars = (parseChars inner).map .list := by
  rw [parseChars]
  simp only [dif_neg unmarked]
  split <;> simp_all

private theorem parseChars_plain (unmarked : (Text.trimChars chars).getLast? ≠ some '!')
    (noBracket : bracketed? (Text.trimChars chars) = none) :
    parseChars chars =
      if isName (Text.trimChars chars) then .ok (.named (String.ofList (Text.trimChars chars)))
      else .error (.graph (.typeReference (String.ofList (Text.trimChars chars)))) := by
  rw [parseChars]
  simp only [dif_neg unmarked]
  split <;> simp_all

/-- White space around a text makes no difference to what is read. -/
private theorem parseChars_congr (same : Text.trimChars left = Text.trimChars right) :
    parseChars left = parseChars right := by
  by_cases marked : (Text.trimChars right).getLast? = some '!'
  · rw [parseChars_marked marked, parseChars_marked (same ▸ marked), same]
  · cases bracket : bracketed? (Text.trimChars right) with
    | some inner =>
        rw [parseChars_bracketed marked bracket,
          parseChars_bracketed (same ▸ marked) (same ▸ bracket)]
    | none =>
        rw [parseChars_plain marked bracket, parseChars_plain (same ▸ marked) (same ▸ bracket),
          same]

/-! ### The grammar is what is read -/

private theorem parseChars_name {name : String} (isGraphName : Text.IsGraphName name) :
    parseChars name.toList = .ok (.named name) := by
  have isChar := fun c => char_of_isGraphName isGraphName (c := c)
  have isTrimmed : Text.trimChars name.toList = name.toList :=
    Text.trimChars_of_ends (fun c isFirst => (isChar c (List.mem_of_head? isFirst)).1)
      fun c isLast => (isChar c (List.mem_of_getLast? isLast)).1
  have unmarked : name.toList.getLast? ≠ some '!' := fun isMark =>
    (isChar '!' (List.mem_of_getLast? isMark)).2.1 rfl
  have noBracket : bracketed? name.toList = none := by
    unfold bracketed?
    split
    · next rest isText =>
        exact absurd rfl (isChar '[' (isText ▸ List.mem_cons_self)).2.2
    · rfl
  rw [← isTrimmed] at unmarked noBracket
  rw [parseChars_plain unmarked noBracket, isTrimmed, if_pos (isName_iff.mpr isGraphName),
    String.ofList_toList]

private theorem parseChars_list (inner : List Char) :
    parseChars ('[' :: inner ++ [']']) = (parseChars inner).map .list := by
  have isLast : ('[' :: inner ++ [']']).getLast? = some ']' := List.getLast?_concat
  have isTrimmed : Text.trimChars ('[' :: inner ++ [']']) = '[' :: inner ++ [']'] := by
    refine Text.trimChars_of_ends ?_ ?_
    · rintro c isFirst
      cases isFirst
      decide
    · intro c isEnd
      rw [isLast] at isEnd
      cases isEnd
      decide
  refine parseChars_bracketed ?_ ?_
  · rw [isTrimmed, isLast]
    decide
  · rw [isTrimmed]
    simp [bracketed?]

private theorem parseChars_nonNull (inner : List Char) :
    parseChars (inner ++ ['!']) = (parseChars inner).map .nonNull := by
  have isTrimmed : Text.trimChars (inner ++ ['!']) = inner.dropWhile Text.isBlank ++ ['!'] :=
    Text.trimChars_concat (by decide)
  have marked : (Text.trimChars (inner ++ ['!'])).getLast? = some '!' := by
    rw [isTrimmed, List.getLast?_concat]
  rw [parseChars_marked marked, isTrimmed, List.dropLast_concat,
    parseChars_congr (Text.trimChars_dropWhile inner)]

/-- What the grammar derives is read. -/
theorem parseChars_of_derives (derives : Derives chars ref) : parseChars chars = .ok ref := by
  induction derives with
  | named isName => exact parseChars_name isName
  | list _ inductionHypothesis => rw [parseChars_list, inductionHypothesis]; rfl
  | nonNull _ inductionHypothesis => rw [parseChars_nonNull, inductionHypothesis]; rfl
  | spaced blankBefore blankAfter _ inductionHypothesis =>
      rw [parseChars_congr (Text.trimChars_between_blanks blankBefore blankAfter),
        inductionHypothesis]

/-- The trimmed text stands for what the text stands for. -/
private theorem derives_of_trimChars (derives : Derives (Text.trimChars chars) ref) :
    Derives chars ref := by
  obtain ⟨before, after, blankBefore, blankAfter, isText⟩ := Text.exists_blanks_around chars
  rw [isText]
  exact .spaced blankBefore blankAfter derives

private theorem derives_of_isName (isGraphName : isName chars = true) :
    Derives chars (.named (String.ofList chars)) := by
  have isText : (String.ofList chars).toList = chars := String.toList_ofList
  rw [← isText] at isGraphName
  have derives := Derives.named (isName_iff.mp isGraphName)
  rwa [isText] at derives

private theorem eq_of_bracketed {text : List Char} (bracket : bracketed? text = some inner) :
    text = '[' :: inner ++ [']'] := by
  unfold bracketed? at bracket
  split at bracket
  · next rest =>
      split at bracket
      · next isLast =>
          cases bracket
          obtain ⟨front, rfl⟩ := List.getLast?_eq_some_iff.mp isLast
          rw [List.dropLast_concat, List.cons_append]
      · cases bracket
  · cases bracket

/-- What is read is derived by the grammar. -/
theorem derives_of_parseChars (chars : List Char) :
    ∀ ref, parseChars chars = .ok ref -> Derives chars ref := by
  -- The cases are those of the reader: a mark, brackets, a name, and nothing of these.
  induction chars using parseChars.induct with
  | case1 chars trimmed marked inductionHypothesis =>
      intro ref isRead
      rw [parseChars_marked marked] at isRead
      obtain ⟨inner, isInner, rfl⟩ := map_eq_ok.mp isRead
      have isText : (Text.trimChars chars).dropLast ++ ['!'] = Text.trimChars chars :=
        List.dropLast_append_getLast? '!' marked
      have derives := Derives.nonNull (inductionHypothesis inner isInner)
      exact derives_of_trimChars (isText ▸ derives)
  | case2 chars trimmed unmarked inner bracket inductionHypothesis =>
      intro ref isRead
      rw [parseChars_bracketed unmarked bracket] at isRead
      obtain ⟨element, isElement, rfl⟩ := map_eq_ok.mp isRead
      have isText : Text.trimChars chars = '[' :: inner ++ [']'] := eq_of_bracketed bracket
      have derives := Derives.list (inductionHypothesis element isElement)
      exact derives_of_trimChars (isText ▸ derives)
  | case3 chars trimmed unmarked noBracket isGraphName =>
      intro ref isRead
      rw [parseChars_plain unmarked noBracket, if_pos isGraphName] at isRead
      cases isRead
      exact derives_of_trimChars (derives_of_isName isGraphName)
  | case4 chars trimmed unmarked noBracket noName =>
      intro ref isRead
      rw [parseChars_plain unmarked noBracket, if_neg noName] at isRead
      cases isRead

/-! ### Texts of references -/

/-- The text of a reference is what stands for it without white space. -/
theorem text_of_derives (derives : Derives chars ref) :
    ref.text.toList = chars.filter fun c => !Text.isBlank c := by
  have noBlank :
      Text.isBlank '[' = false ∧ Text.isBlank ']' = false ∧ Text.isBlank '!' = false := by
    decide
  induction derives with
  | named isName =>
      refine (List.filter_eq_self.mpr fun c member => ?_).symm
      simp [char_of_isGraphName isName member]
  | list _ inductionHypothesis => simp [text, inductionHypothesis, noBlank]
  | nonNull _ inductionHypothesis => simp [text, inductionHypothesis, noBlank]
  | spaced blankBefore blankAfter _ inductionHypothesis =>
      have goes {blanks : List Char} (areBlank : ∀ c ∈ blanks, Text.isBlank c = true) :
          blanks.filter (fun c => !Text.isBlank c) = [] :=
        List.filter_eq_nil_iff.mpr fun c member => by simp [areBlank c member]
      rw [List.filter_append, List.filter_append, goes blankBefore, goes blankAfter,
        List.nil_append, List.append_nil, inductionHypothesis]

/-- A reference whose core is a graph name stands in its text. -/
theorem derives_text : ∀ ref : TypeRef, Text.IsGraphName ref.core -> Derives ref.text.toList ref
  | .named _, isName => .named isName
  | .list element, isName => by
      rw [text, String.toList_append, String.toList_append]
      exact .list (derives_text element isName)
  | .nonNull inner, isName => by
      rw [text, String.toList_append]
      exact .nonNull (derives_text inner isName)

/-- Reading types is exact.  A text is read as a reference exactly if the grammar of names,
brackets and marks, with white space around every part, derives the text as that reference; the
text of the reference is then what was read without white space.  In turn, every reference whose
core is a graph name, nested in any way, is read back from its text. -/
theorem parse_exact :
    (∀ text ref, parse text = .ok ref ↔ Derives text.toList ref) ∧
      (∀ text ref, parse text = .ok ref ->
        ref.text.toList = text.toList.filter fun c => !Text.isBlank c) ∧
      ∀ ref : TypeRef, Text.IsGraphName ref.core -> parse ref.text = .ok ref :=
  ⟨fun text ref => ⟨derives_of_parseChars text.toList ref, parseChars_of_derives⟩,
    fun text ref isRead => text_of_derives (derives_of_parseChars text.toList ref isRead),
    fun ref isName => parseChars_of_derives (derives_text ref isName)⟩

/-- Lists of lists of texts, in which neither lists nor texts may be absent. -/
def sampleRef : TypeRef :=
  .nonNull (.list (.nonNull (.list (.nonNull (.named "String")))))

theorem parse_exact_sampleRef :
    Text.IsGraphName sampleRef.core ∧ parse "[[String!]!]!" = .ok sampleRef ∧
      parse " [ [String !]! ]!" = .ok sampleRef ∧ Derives " [ [String !]! ]!".toList sampleRef := by
  have isGraphName : Text.IsGraphName sampleRef.core := isName_iff.mp (by decide +kernel)
  have isSpaced : parse " [ [String !]! ]!" = .ok sampleRef := by decide +kernel
  exact ⟨isGraphName, parse_exact.2.2 sampleRef isGraphName, isSpaced,
    (parse_exact.1 _ _).mp isSpaced⟩

end ContentGraph.TypeRef
