import ContentGraph.Json.Printer
import ContentGraph.Json.Reader

/-!
Contract: compact text tells values apart.

Owns:
- `stringBody?_escaped`, a quoted string is read as the text that was quoted, up to its closing
  quote and no further;
- `compact_append_injective`: the text of a value without numbers determines the value and its own
  end, whatever comes behind it.

Numbers are left out: their text has no mark at its end.
-/

namespace ContentGraph.Json

/-! ### Strings -/

theorem hexValue?_hexDigit {value : Nat} (small : value < 16) :
    Reader.hexValue? (hexDigit value) = some value := by
  have digits : ∀ digit < 16, Reader.hexValue? (hexDigit digit) = some digit := by decide
  exact digits value small

private theorem unicodeEscape?_control {c : Char} (control : c.toNat < 32) (rest : List Char) :
    Reader.unicodeEscape?
        ('0' :: '0' :: hexDigit (c.toNat / 16) :: hexDigit (c.toNat % 16) :: rest) =
      some (c, rest) := by
  have zero : Reader.hexValue? '0' = some 0 := rfl
  have high : Reader.hexValue? (hexDigit (c.toNat / 16)) = some (c.toNat / 16) :=
    hexValue?_hexDigit (by omega)
  have low : Reader.hexValue? (hexDigit (c.toNat % 16)) = some (c.toNat % 16) :=
    hexValue?_hexDigit (by omega)
  have unit : ((0 * 16 + 0) * 16 + c.toNat / 16) * 16 + c.toNat % 16 = c.toNat := by omega
  have quad : Reader.hexQuad?
      ('0' :: '0' :: hexDigit (c.toNat / 16) :: hexDigit (c.toNat % 16) :: rest) =
        some (c.toNat, rest) := by
    simp only [Reader.hexQuad?, zero, high, low, Option.bind_eq_bind, Option.bind_some, unit]
  have noPair : ¬(0xD800 ≤ c.toNat ∧ c.toNat < 0xDC00) := by omega
  have noHalf : ¬(0xDC00 ≤ c.toNat ∧ c.toNat < 0xE000) := by omega
  rw [Reader.unicodeEscape?, quad]
  simp only [Option.bind_eq_bind, Option.bind_some, if_neg noPair, if_neg noHalf,
    Char.ofNat_toNat]

/-- One escaped character is read in one step. -/
private theorem stringBody?_escapeChar (fuel : Nat) (read : List Char) (c : Char)
    (rest : List Char) :
    Reader.stringBody? (fuel + 1) read (escapeChar c ++ rest) =
      Reader.stringBody? fuel (c :: read) rest := by
  have known : ∀ number : Nat, c.toNat = number -> c = Char.ofNat number := fun number same => by
    rw [← same, Char.ofNat_toNat]
  unfold escapeChar
  split
  · next isQuote =>
      subst isQuote
      rfl
  split
  · next isBackslash =>
      subst isBackslash
      rfl
  split
  · next isControl =>
      rw [known 8 isControl]
      rfl
  split
  · next isControl =>
      rw [known 9 isControl]
      rfl
  split
  · next isControl =>
      rw [known 10 isControl]
      rfl
  split
  · next isControl =>
      rw [known 12 isControl]
      rfl
  split
  · next isControl =>
      rw [known 13 isControl]
      rfl
  split
  · next control =>
      have isRead := unicodeEscape?_control control rest
      simp [Reader.stringBody?, isRead]
  · next notQuote notBackslash _ _ _ _ _ notControl =>
      simp [Reader.stringBody?, notQuote, notBackslash, notControl]

/-- An escaped text is read up to the quote that closes it. -/
theorem stringBody?_escaped (text rest : List Char) : ∀ (fuel : Nat) (read : List Char),
    text.length < fuel ->
      Reader.stringBody? fuel read (text.flatMap escapeChar ++ '"' :: rest) =
        some (String.ofList (read.reverse ++ text), rest) := by
  induction text with
  | nil =>
      intro fuel read enough
      obtain ⟨more, rfl⟩ := Nat.exists_eq_add_of_lt enough
      simp [Reader.stringBody?]
  | cons c text inductionHypothesis =>
      intro fuel read enough
      obtain ⟨more, rfl⟩ : ∃ more, fuel = more + 1 := Nat.exists_eq_succ_of_ne_zero (by omega)
      rw [List.flatMap_cons, List.append_assoc, stringBody?_escapeChar,
        inductionHypothesis more (c :: read) (by simpa using enough)]
      simp

/-- A quoted text determines the text and where its closing quote is. -/
theorem quote_append_injective {left right : String} {behind after : List Char}
    (same : (quote left).toList ++ behind = (quote right).toList ++ after) :
    left = right ∧ behind = after := by
  simp only [quote, String.toList_ofList, List.cons_append, List.cons.injEq, true_and,
    List.append_assoc, List.nil_append] at same
  have readLeft := stringBody?_escaped left.toList behind
    (left.toList.length + right.toList.length + 1) [] (by omega)
  have readRight := stringBody?_escaped right.toList after
    (left.toList.length + right.toList.length + 1) [] (by omega)
  rw [same, readRight] at readLeft
  simpa [eq_comm] using readLeft

/-! ### Values -/

namespace Value

mutual

/-- A value of texts and nulls only. -/
def Textual : Value -> Prop
  | .null | .string _ => True
  | .array items => TextualItems items
  | .object fields => TextualFields fields
  | .bool _ | .number _ => False

/-- Every item is one of texts and nulls only. -/
def TextualItems : List Value -> Prop
  | [] => True
  | item :: rest => Textual item ∧ TextualItems rest

/-- Every field's value is one of texts and nulls only. -/
def TextualFields : List (String × Value) -> Prop
  | [] => True
  | (_, value) :: rest => Textual value ∧ TextualFields rest

end

/-- The character that the text of a value of texts and nulls starts with. -/
def opening : Value -> Char
  | .null => 'n'
  | .string _ => '"'
  | .array _ => '['
  | _ => '\x7b'

theorem exists_compact {value : Value} (textual : Textual value) :
    ∃ rest, value.compact.toList = value.opening :: rest := by
  cases value with
  | null => exact ⟨_, rfl⟩
  | string text => exact ⟨_, by rw [compact, quote, String.toList_ofList]; rfl⟩
  | array items => cases items <;> exact ⟨_, by simp [compact, opening]; rfl⟩
  | object fields => cases fields <;> exact ⟨_, by simp [compact, opening]; rfl⟩
  | _ => cases textual

private theorem opening_eq {left right : Value} {behind after : List Char}
    (isLeft : Textual left) (isRight : Textual right)
    (same : left.compact.toList ++ behind = right.compact.toList ++ after) :
    left.opening = right.opening := by
  obtain ⟨leftRest, leftText⟩ := exists_compact isLeft
  obtain ⟨rightRest, rightText⟩ := exists_compact isRight
  rw [leftText, rightText] at same
  exact (List.cons.inj same).1

/-- The text of a value never starts with the bracket that ends an array. -/
private theorem compact_ne_bracket {value : Value} {behind after : List Char}
    (textual : Textual value) : ']' :: behind ≠ value.compact.toList ++ after := by
  obtain ⟨rest, text⟩ := exists_compact textual
  rw [text]
  cases value <;> simp [opening]

private theorem bracket_append (behind : List Char) : "]".toList ++ behind = ']' :: behind := rfl

private theorem brace_append (behind : List Char) : "\x7d".toList ++ behind = '\x7d' :: behind :=
  rfl

private theorem compact_nil : (Value.array []).compact.toList = "[".toList ++ [']'] := rfl

mutual

/-- The compact text of a value of texts and nulls determines the value and its own end. -/
theorem compact_append_injective : ∀ left right : Value, Textual left -> Textual right ->
    ∀ {behind after : List Char},
      left.compact.toList ++ behind = right.compact.toList ++ after -> left = right ∧ behind = after
  | .bool _ => fun _ isLeft => by cases isLeft
  | .number _ => fun _ isLeft => by cases isLeft
  | .null => by
      intro right isLeft isRight behind after same
      have sameOpening := opening_eq isLeft isRight same
      cases right with
      | null => exact ⟨rfl, List.append_cancel_left same⟩
      | _ => simp [opening] at sameOpening
  | .string text => by
      intro right isLeft isRight behind after same
      have sameOpening := opening_eq isLeft isRight same
      cases right with
      | string other =>
          rw [compact, compact] at same
          obtain ⟨rfl, sameRest⟩ := quote_append_injective same
          exact ⟨rfl, sameRest⟩
      | _ => simp [opening] at sameOpening
  | .array items => by
      intro right isLeft isRight behind after same
      have sameOpening := opening_eq isLeft isRight same
      cases right with
      | array others =>
          cases items with
          | nil =>
              cases others with
              | nil => exact ⟨rfl, by simpa [compact] using same⟩
              | cons other others =>
                  rw [compact_nil, compact] at same
                  simp only [String.toList_append, List.append_assoc] at same
                  exact absurd (List.append_cancel_left same) (compact_ne_bracket isRight.1)
          | cons item items =>
              cases others with
              | nil =>
                  rw [compact_nil, compact] at same
                  simp only [String.toList_append, List.append_assoc] at same
                  exact absurd (List.append_cancel_left same).symm (compact_ne_bracket isLeft.1)
              | cons other others =>
                  simp only [compact, String.toList_append, List.append_assoc, bracket_append]
                    at same
                  obtain ⟨rfl, sameRest⟩ := compact_append_injective item other isLeft.1 isRight.1
                    (List.append_cancel_left same)
                  obtain ⟨rfl, sameBehind⟩ := compactItems_append_injective items others isLeft.2
                    isRight.2 sameRest
                  exact ⟨rfl, sameBehind⟩
      | _ => simp [opening] at sameOpening
  | .object fields => by
      intro right isLeft isRight behind after same
      have sameOpening := opening_eq isLeft isRight same
      cases right with
      | object others =>
          cases fields with
          | nil =>
              rcases others with _ | ⟨⟨key, other⟩, others⟩
              · exact ⟨rfl, by simpa [compact] using same⟩
              · simp [compact, quote] at same
          | cons field fields =>
              obtain ⟨key, value⟩ := field
              rcases others with _ | ⟨⟨otherKey, other⟩, others⟩
              · simp [compact, quote] at same
              · simp only [compact, String.toList_append, List.append_assoc, brace_append] at same
                obtain ⟨rfl, sameField⟩ := quote_append_injective (List.append_cancel_left same)
                obtain ⟨rfl, sameRest⟩ := compact_append_injective value other isLeft.1 isRight.1
                  (List.append_cancel_left sameField)
                obtain ⟨rfl, sameBehind⟩ := compactFields_append_injective fields others isLeft.2
                  isRight.2 sameRest
                exact ⟨rfl, sameBehind⟩
      | null => simp [opening] at sameOpening
      | string text => simp [opening] at sameOpening
      | array items => simp [opening] at sameOpening
      | _ => cases isRight

theorem compactItems_append_injective : ∀ left right : List Value, TextualItems left ->
    TextualItems right -> ∀ {behind after : List Char},
      (compactItems left).toList ++ ']' :: behind = (compactItems right).toList ++ ']' :: after ->
        left = right ∧ behind = after
  | [] => by
      intro right isLeft isRight behind after same
      cases right with
      | nil => simpa [compactItems] using same
      | cons other others => simp [compactItems] at same
  | item :: items => by
      intro right isLeft isRight behind after same
      cases right with
      | nil => simp [compactItems] at same
      | cons other others =>
          simp only [compactItems, String.toList_append, List.append_assoc] at same
          obtain ⟨rfl, sameRest⟩ := compact_append_injective item other isLeft.1 isRight.1
            (List.append_cancel_left same)
          obtain ⟨rfl, sameBehind⟩ := compactItems_append_injective items others isLeft.2 isRight.2
            sameRest
          exact ⟨rfl, sameBehind⟩

theorem compactFields_append_injective : ∀ left right : List (String × Value), TextualFields left ->
    TextualFields right -> ∀ {behind after : List Char},
      (compactFields left).toList ++ '\x7d' :: behind =
          (compactFields right).toList ++ '\x7d' :: after ->
        left = right ∧ behind = after
  | [] => by
      intro right isLeft isRight behind after same
      cases right with
      | nil => simpa [compactFields] using same
      | cons field others => simp [compactFields] at same
  | (key, value) :: fields => by
      intro right isLeft isRight behind after same
      cases right with
      | nil => simp [compactFields] at same
      | cons field others =>
          obtain ⟨otherKey, other⟩ := field
          simp only [compactFields, String.toList_append, List.append_assoc] at same
          obtain ⟨rfl, sameField⟩ := quote_append_injective (List.append_cancel_left same)
          obtain ⟨rfl, sameRest⟩ := compact_append_injective value other isLeft.1 isRight.1
            (List.append_cancel_left sameField)
          obtain ⟨rfl, sameBehind⟩ := compactFields_append_injective fields others isLeft.2
            isRight.2 sameRest
          exact ⟨rfl, sameBehind⟩

end

/-- Values of texts and nulls with one compact text are one value. -/
theorem compact_injective {left right : Value} (isLeft : Textual left) (isRight : Textual right)
    (same : left.compact = right.compact) : left = right := by
  have sameText : left.compact.toList ++ [] = right.compact.toList ++ [] := by rw [same]
  exact (compact_append_injective left right isLeft isRight sameText).1

end Value

end ContentGraph.Json
