import ContentGraph.Text.Blank
import ContentGraph.Yaml.Writer

/-!
Contract: what the text of an object always holds.

Owns:
- the writer only ever adds to what it has written;
- `render_not_blank`: the text of an object is never white space alone, since an object without
  fields is written in braces and every field has its colon.
-/

namespace ContentGraph.Yaml

open ContentGraph.Json

namespace Writer

theorem prefix_freshLine (out : List Char) : out <+: freshLine out := by
  unfold freshLine
  split
  · exact List.prefix_rfl
  · split
    · exact List.prefix_rfl
    · exact List.prefix_append _ _

mutual

/-- Writing a value adds to what is written. -/
theorem prefix_value (column : Nat) (continues : Bool) (out : List Char) (written : Value) :
    out <+: value column continues out written := by
  cases written with
  | null => exact List.prefix_append _ _
  | bool held => cases held <;> exact List.prefix_append _ _
  | number held => cases held <;> exact List.prefix_append _ _
  | string text => exact List.prefix_append _ _
  | array held =>
      cases held with
      | nil => exact List.prefix_append _ _
      | cons first rest =>
          rw [value]
          split
          · exact (List.prefix_append _ _).trans (prefix_items _ _ _ (first :: rest))
          · exact prefix_items _ _ _ (first :: rest)
  | object held =>
      cases held with
      | nil => exact List.prefix_append _ _
      | cons first rest =>
          rw [value]
          split
          · exact (List.prefix_append _ _).trans (prefix_fields _ _ _ (first :: rest))
          · exact prefix_fields _ _ _ (first :: rest)

theorem prefix_items (column : Nat) (inline : Bool) (out : List Char) (written : List Value) :
    out <+: items column inline out written := by
  cases written with
  | nil => exact List.prefix_rfl
  | cons item rest =>
      rw [items]
      refine List.IsPrefix.trans ?_ (prefix_items _ _ _ rest)
      refine List.IsPrefix.trans ?_ (prefix_value _ _ _ item)
      split
      · exact List.prefix_append _ _
      · exact (prefix_freshLine out).trans
          ((List.prefix_append _ _).trans (List.prefix_append _ _))

theorem prefix_fields (column : Nat) (inline : Bool) (out : List Char)
    (written : List (String × Value)) : out <+: fields column inline out written := by
  cases written with
  | nil => exact List.prefix_rfl
  | cons field rest =>
      obtain ⟨key, item⟩ := field
      rw [fields]
      refine List.IsPrefix.trans ?_ (prefix_fields _ _ _ rest)
      have started : out <+: (if inline then out else freshLine out ++ spaces column) := by
        split
        · exact List.prefix_rfl
        · exact (prefix_freshLine out).trans (List.prefix_append _ _)
      refine started.trans ?_
      generalize (if inline then out else freshLine out ++ spaces column) = start
      dsimp only
      split
      · refine List.IsPrefix.trans ?_ (prefix_value _ _ _ item)
        exact (List.prefix_append _ _).trans (List.prefix_append _ _)
      · refine List.IsPrefix.trans ?_ (prefix_value _ _ _ item)
        refine List.IsPrefix.trans ?_ (List.prefix_append _ _)
        refine List.IsPrefix.trans ?_ (List.prefix_append _ _)
        exact (List.prefix_append _ _).trans (prefix_freshLine _)

end

/-- The colon after the first key is written. -/
theorem colon_mem_fields (column : Nat) (inline : Bool) (out : List Char)
    (field : String × Value) (rest : List (String × Value)) :
    ':' ∈ fields column inline out (field :: rest) := by
  obtain ⟨key, item⟩ := field
  rw [fields]
  refine (prefix_fields _ _ _ rest).subset ?_
  split
  · exact (prefix_value _ _ _ item).subset (by simp)
  · exact (prefix_value _ _ _ item).subset (by simp)

end Writer

/-- The text of an object is never white space alone. -/
theorem render_not_blank (fields : Json.Object) :
    (render fields).toList.all Text.isBlank = false := by
  cases fields with
  | nil => decide
  | cons field rest =>
      have written : ':' ∈ (render (field :: rest)).toList := by
        rw [render, String.toList_ofList]
        · exact (Writer.prefix_freshLine _).subset (Writer.colon_mem_fields _ _ _ field rest)
        · simp
      rw [List.all_eq_false]
      exact ⟨':', written, by decide⟩

end ContentGraph.Yaml
