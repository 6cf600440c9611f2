import ContentGraph.Proofs.Content.FileMetadata
import ContentGraph.Proofs.Mutation.Confinement

/-!
Contract: the slug that a stored record comes back with.

Owns:
- `field?_slug_of_store`: it is the slug of the slug of the reference value, since the file is
  named for that slug and the metadata come from the file;
- `slugs_stable_iff`: where the two slugs agree.

Does not own: records that state a path, and those named for a number.
-/

namespace ContentGraph.Content.ContentDirectory

open ContentGraph.Json ContentGraph.Files ContentGraph.Text

/-! ### The stem of a new file -/

theorem eq_slugify_of_stem? {text stem : String} (isStem : stem? (.string text) = some stem) :
    stem = slugify text ∧ stem ≠ "" := by
  simp only [stem?] at isStem
  split at isStem
  · cases isStem
  · next someStem =>
      cases isStem
      exact ⟨rfl, by simpa using someStem⟩

theorem newExtension_starts (record : Object) :
    ∃ extension, (newExtension record).toList = '.' :: extension ∧ '.' ∉ extension := by
  unfold newExtension
  split
  · exact ⟨['m', 'd'], by decide, by decide⟩
  · exact ⟨['y', 'a', 'm', 'l'], by decide, by decide⟩

/-- The file of a new record has the stem that it was named for. -/
theorem fileStem?_of_new {value : Value} {stem : String} (isStem : stem? value = some stem)
    (someStem : stem ≠ "") (entry : CollectionEntry) (record : Object) :
    fileStem? (join entry.path (stem ++ newExtension record)) = some stem := by
  obtain ⟨noSeparator, isLong⟩ := newName_ends isStem record
  obtain ⟨extension, starts, unmarked⟩ := newExtension_starts record
  rw [fileStem?, fileName?_join_name entry.path noSeparator isLong, Option.map_some,
    splitExtension_append someStem starts unmarked]

/-! ### The slug of a stored record -/

/-- A record that is named for a text comes back with the slug of the slug of that text. -/
theorem field?_slug_of_store {directory next : ContentDirectory} {entry : CollectionEntry}
    {record : Object} {text : String} {answer : Value}
    (found : Object.find? record entry.referenceField = some (.string text))
    (unplaced : Object.find? record "_path" = none)
    (stored : directory.store entry (.object record) = (.ok answer, next)) :
    answer.field? "_slug" = some (.string (slugify (slugify text))) := by
  obtain ⟨path, _, _, placed, rfl, _⟩ := store_writes stored
  obtain ⟨stem, isStem, rfl⟩ := recordPath_ok unplaced placed
  rw [found, Option.bind_some] at isStem
  obtain ⟨isSlug, someStem⟩ := eq_slugify_of_stem? isStem
  have hasSlug := find?_slug_fileMetadata (join entry.path (stem ++ newExtension record))
  rw [fileStem?_of_new isStem someStem, isSlug] at hasSlug
  show Object.find? (Object.insertAll record (fileMetadata _)) "_slug" = _
  rw [find?_insertAll _ (nodup_keys_fileMetadata _), isSlug, hasSlug]
  rfl

/-- Slugs have no hyphen at an end or next to another.  A slug is its own slug exactly if the text
has no dotted capital I, and always is from the second time on; and a record that a directory names
for a text comes back with the slug of that text exactly if it has no dotted capital I. -/
theorem slugs_stable_iff (text : String) :
    ((slugify text).toList.head? ≠ some '-' ∧ (slugify text).toList.getLast? ≠ some '-' ∧
      ¬ ['-', '-'] <:+: (slugify text).toList) ∧
    (slugify (slugify text) = slugify text ↔ 'İ' ∉ text.toList) ∧
    slugify (slugify (slugify text)) = slugify (slugify text) ∧
    ∀ (directory next : ContentDirectory) (entry : CollectionEntry) (record : Object)
      (answer : Value), Object.find? record entry.referenceField = some (.string text) ->
        Object.find? record "_path" = none ->
        directory.store entry (.object record) = (.ok answer, next) ->
        answer.field? "_slug" = some (.string (slugify (slugify text))) ∧
          (answer.field? "_slug" = some (.string (slugify text)) ↔ 'İ' ∉ text.toList) := by
  refine ⟨slugify_apart text, slugify_slugify_iff, slugify_three_times text, ?_⟩
  intro directory next entry record answer found unplaced stored
  have isSlug := field?_slug_of_store found unplaced stored
  refine ⟨isSlug, ?_⟩
  rw [isSlug, Option.some.injEq, Value.string.injEq, slugify_slugify_iff]

theorem slugs_stable_iff_sampleFolder :
    (sampleFolder [] [] 0).state.store sampleFolderPosts.entry
        (.object [("id", .string "Hello World")]) =
      (.ok (sampleHelloNode "Hello World"),
        (sampleFolder [] [sampleHelloFile "id: Hello World\n"] 0).state) ∧
      (sampleHelloNode "Hello World").field? "_slug" =
        some (.string (slugify "Hello World")) := by
  have stored : (sampleFolder [] [] 0).state.store sampleFolderPosts.entry
        (.object [("id", .string "Hello World")]) =
      (.ok (sampleHelloNode "Hello World"),
        (sampleFolder [] [sampleHelloFile "id: Hello World\n"] 0).state) := by
    have described : sampleHelloNode "Hello World" =
        .object (Object.insertAll [("id", .string "Hello World")]
          (fileMetadata "posts/hello-world.yaml")) := by with_unfolding_all rfl
    rw [described]
    apply sampleFolder_store <;> with_unfolding_all rfl
  have answers := (slugs_stable_iff "Hello World").2.2.2 _ _ _ _ _ rfl rfl stored
  exact ⟨stored, answers.2.mpr (by decide)⟩

/-- A dotted capital I: the record is named for `i` with a dot over it, and comes back with the
slug `i`. -/
theorem slugs_differ_dotted :
    slugify "İ" = "i\u0307" ∧ slugify (slugify "İ") = "i" ∧
      ∃ answer next,
        (sampleFolder [] [] 0).state.store sampleFolderPosts.entry (.object [("id", .string "İ")]) =
          (.ok answer, next) ∧
        answer.field? "_slug" = some (.string "i") := by
  have first : slugify "İ" = "i\u0307" := by decide
  have second : slugify (slugify "İ") = "i" := by decide
  have stored : (sampleFolder [] [] 0).state.store sampleFolderPosts.entry
        (.object [("id", .string "İ")]) =
      (.ok (.object (Object.insertAll [("id", .string "İ")] (fileMetadata "posts/i\u0307.yaml"))),
        (sampleFolder [] [(["posts", "i\u0307.yaml"], .file (.text "id: İ\n"))] 0).state) := by
    apply sampleFolder_store <;> with_unfolding_all rfl
  exact ⟨first, second, _, _, stored, second ▸ field?_slug_of_store rfl rfl stored⟩

end ContentGraph.Content.ContentDirectory
