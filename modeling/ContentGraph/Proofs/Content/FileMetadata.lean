import ContentGraph.Content.Record
import ContentGraph.Proofs.Json.Defaults

/-!
Contract: the metadata that a record has from its file.

Owns:
- paths with forward separators;
- `find?_insertAll`, the lookup after fields were set one after another;
- the keys of the metadata, and the path and the slug among them.

Does not own: metadata that is filled in (`Proofs.Json.Defaults`).
-/

namespace ContentGraph.Content

open ContentGraph.Json

variable {fields : Object} {key path : String}

/-! ### Forward separators -/

@[simp] theorem forwardPath_forwardPath (path : String) :
    forwardPath (forwardPath path) = forwardPath path := by
  unfold forwardPath
  rw [String.toList_ofList, List.map_map]
  refine congrArg String.ofList (List.map_congr_left fun c _ => ?_)
  by_cases isBackward : c = '\\' <;> simp [isBackward]

theorem forwardPath_of_not_mem (forward : '\\' ∉ path.toList) : forwardPath path = path := by
  unfold forwardPath
  rw [List.map_congr_left fun c member => if_neg (ne_of_mem_of_not_mem member forward),
    List.map_id', String.ofList_toList]

/-! ### Setting the metadata -/

/-- The last value that is set under a key is the value there. -/
theorem find?_insertAll (additions : Object) (distinct : (Object.keys additions).Nodup) :
    Object.find? (Object.insertAll fields additions) key =
      (Object.find? additions key).or (Object.find? fields key) := by
  induction additions generalizing fields with
  | nil => rfl
  | cons addition rest inductionHypothesis =>
      obtain ⟨name, value⟩ := addition
      obtain ⟨isNew, distinctRest⟩ := List.nodup_cons.mp distinct
      have isRest := @inductionHypothesis (fields.insert name value) distinctRest
      by_cases isName : key = name
      · subst isName
        have absent : Object.find? rest key = none := Object.find?_eq_none_iff.mpr isNew
        rw [absent, Object.find?_insert_same] at isRest
        simpa [Object.find?, Object.insertAll] using isRest
      · rw [Object.find?_insert_other isName] at isRest
        simpa [Object.find?, Object.insertAll, Ne.symm isName] using isRest

theorem keys_fileMetadata (path : String) :
    Object.keys (fileMetadata path) ⊆ ["_filename", "_path", "_slug"] := by
  unfold fileMetadata
  cases Files.fileName? path <;> cases Files.fileStem? path <;> simp [Object.keys]

theorem nodup_keys_fileMetadata (path : String) : (Object.keys (fileMetadata path)).Nodup := by
  unfold fileMetadata
  cases Files.fileName? path <;> cases Files.fileStem? path <;> simp [Object.keys]

theorem find?_path_fileMetadata (path : String) :
    Object.find? (fileMetadata path) "_path" = some (.string (forwardPath path)) := by
  unfold fileMetadata
  cases Files.fileName? path <;> simp [Object.find?]

theorem find?_slug_fileMetadata (path : String) :
    Object.find? (fileMetadata path) "_slug" =
      (Files.fileStem? path).map fun stem => .string (Text.slugify stem) := by
  unfold fileMetadata
  cases Files.fileName? path <;> cases Files.fileStem? path <;> simp [Object.find?]

end ContentGraph.Content
