import ContentGraph.Proofs.Content.FileMetadata
import ContentGraph.Proofs.Content.FrontMatter
import ContentGraph.Proofs.Json.ObjectFields
import ContentGraph.Proofs.Success
import ContentGraph.Proofs.Yaml.Writer
import ContentGraph.Site
import Mathlib

/-!
Contract: a record that is written to its file and read again.

Owns:
- what the transformers make of a file: the parts of its node, and which transformer serves it;
- the fields that a file states (`ownFields`) are not touched by metadata or a raw body;
- `parse_documentText`, what is read from the text of a loaded record.

Does not own: reading and writing YAML.  What is needed of it stands in the hypotheses: a text
that the writer made is read as what it was made of, and is lines without a fence.
-/

namespace ContentGraph.Content

open ContentGraph.Json

/-! ### Fields that a file states -/

variable {fields : Object} {key body path text : String} {value : Value}

theorem not_reserved_of_mem_ownFields (member : key ∈ Object.keys (ownFields fields)) :
    isReserved key = false := by
  obtain ⟨field, kept, rfl⟩ := List.mem_map.mp member
  simpa using (List.mem_filter.mp kept).2

theorem find?_ownFields_of_reserved (reserved : isReserved key = true) :
    Object.find? (ownFields fields) key = none := by
  rw [Object.find?_eq_none_iff]
  intro member
  simp [not_reserved_of_mem_ownFields member] at reserved

theorem ownFields_ownFields (fields : Object) :
    ownFields (ownFields fields) = ownFields fields := by
  simp [ownFields]

/-- Setting a reserved key does not change what a file states. -/
theorem ownFields_insert (reserved : isReserved key = true) :
    ownFields (Object.insert fields key value) = ownFields fields := by
  induction fields with
  | nil => simp [Object.insert, ownFields, reserved]
  | cons field rest inductionHypothesis =>
      obtain ⟨name, held⟩ := field
      by_cases same : name = key
      · simp [Object.insert, ownFields, same, reserved]
      · simp only [ownFields] at inductionHypothesis
        simp [Object.insert, ownFields, same, List.filter_cons, inductionHypothesis]

theorem ownFields_fillMissing {defaults : Object}
    (reserved : ∀ key ∈ Object.keys defaults, isReserved key = true) :
    ownFields (Value.fillMissing fields defaults) = ownFields fields := by
  induction defaults generalizing fields with
  | nil => rw [Value.fillMissing]
  | cons field rest inductionHypothesis =>
      obtain ⟨name, default⟩ := field
      obtain ⟨isReserved, areReserved⟩ := List.forall_mem_cons.mp reserved
      rw [Value.fillMissing, inductionHypothesis areReserved, ownFields_insert isReserved]

/-- The metadata of a file is none of the fields that the file states. -/
theorem ownFields_withMetadata :
    ownFields (Value.fillMissing fields (fileMetadata path)) = ownFields fields := by
  refine ownFields_fillMissing ?_
  intro key member
  have isMetadata := keys_fileMetadata path member
  simp only [List.mem_cons, List.not_mem_nil, or_false] at isMetadata
  rcases isMetadata with rfl | rfl | rfl <;> decide

theorem find?_content_withMetadata :
    Object.find? (Value.fillMissing fields (fileMetadata path)) "_content" =
      Object.find? fields "_content" := by
  refine Value.find?_fillMissing_of_absent ?_
  intro member
  have isMetadata := keys_fileMetadata path member
  simp at isMetadata

/-! ### Raw bodies -/

theorem ownFields_withRawBody : ownFields (withRawBody fields body) = ownFields fields := by
  unfold withRawBody
  split
  · exact ownFields_insert rfl
  · rfl
  · exact ownFields_insert rfl

/-- The raw body is there unless the fields have a content that is no object. -/
theorem rawBody?_withRawBody
    (isObject : ∀ content, Object.find? (withRawBody fields body) "_content" = some content ->
      ∃ inner, content = .object inner) :
    rawBody? (withRawBody fields body) = some body := by
  cases held : Object.find? fields "_content" with
  | none =>
      simp [rawBody?, withRawBody, held, Value.field?, Value.fields?, Object.find?, Value.text?]
  | some content =>
      cases content with
      | object inner =>
          simp [rawBody?, withRawBody, held, Value.field?, Value.fields?, Value.text?]
      | _ =>
          have unchanged : withRawBody fields body = fields := by simp [withRawBody, held]
          rw [unchanged] at isObject
          obtain ⟨inner, impossible⟩ := isObject _ held
          cases impossible

/-- Among fields that a file states, the content is the only reserved key. -/
theorem eq_content_of_mem_withRawBody
    (member : key ∈ Object.keys (withRawBody (ownFields fields) body))
    (reserved : isReserved key = true) : key = "_content" := by
  have absent : Object.find? (ownFields fields) "_content" = none :=
    find?_ownFields_of_reserved rfl
  rw [withRawBody, absent] at member
  dsimp only at member
  rw [Object.keys_insert, if_neg (Object.find?_eq_none_iff.mp absent)] at member
  rcases List.mem_append.mp member with isOwn | isContent
  · simp [not_reserved_of_mem_ownFields isOwn] at reserved
  · exact List.mem_singleton.mp isContent

/-! ### Files and their transformers -/

/-- Whether a file is served by the transformer for YAML, in any case of its extension. -/
def isYamlPath (path : String) : Bool :=
  match loweredExtension? path with
  | some "yaml" | some "yml" | some "json" => true
  | _ => false

theorem loweredExtension?_of_markdown (isMarkdown : isMarkdownPath path = true) :
    loweredExtension? path = some "md" ∨ loweredExtension? path = some "markdown" := by
  unfold isMarkdownPath at isMarkdown
  split at isMarkdown
  · next extension => exact .inl (by rw [loweredExtension?, extension]; rfl)
  · next extension => exact .inr (by rw [loweredExtension?, extension]; rfl)
  · cases isMarkdown

theorem loweredExtension?_of_yaml (isYaml : isYamlPath path = true) :
    loweredExtension? path = some "yaml" ∨ loweredExtension? path = some "yml" ∨
      loweredExtension? path = some "json" := by
  unfold isYamlPath at isYaml
  split at isYaml
  · next extension => exact .inl extension
  · next extension => exact .inr (.inl extension)
  · next extension => exact .inr (.inr extension)
  · cases isYaml

theorem not_markdown_of_yaml (isYaml : isYamlPath path = true) : isMarkdownPath path = false := by
  cases isMarkdown : isMarkdownPath path with
  | false => rfl
  | true =>
      rcases loweredExtension?_of_markdown isMarkdown with isMd | isMd <;>
        rcases loweredExtension?_of_yaml isYaml with isYml | isYml | isYml <;>
          simp [isMd] at isYml

theorem parse_of_extension {registry : Registry} {transformer : Transformer} {extension : String}
    (lowered : loweredExtension? path = some extension)
    (served : registry.forExtension? extension = some transformer) (text : String) :
    registry.parse ⟨some path, .text text⟩ = transformer.parse path text := by
  simp [Registry.parse, lowered, served]

theorem parse_of_markdown (isMarkdown : isMarkdownPath path = true) (text : String) :
    Registry.withDefaults.parse ⟨some path, .text text⟩ = markdownNode path text := by
  have served : ∀ extension ∈ ["md", "markdown"],
      Registry.withDefaults.forExtension? extension = some markdownTransformer := by
    intro extension member
    simp only [List.mem_cons, List.not_mem_nil, or_false] at member
    rcases member with rfl | rfl <;> rfl
  rcases loweredExtension?_of_markdown isMarkdown with lowered | lowered
  · exact parse_of_extension lowered (served "md" (by simp)) text
  · exact parse_of_extension lowered (served "markdown" (by simp)) text

theorem parse_of_yaml (isYaml : isYamlPath path = true) (text : String) :
    Registry.withDefaults.parse ⟨some path, .text text⟩ = yamlTransformer.parse path text := by
  rcases loweredExtension?_of_yaml isYaml with lowered | lowered | lowered <;>
    exact parse_of_extension lowered rfl text

/-- The node of a markdown file: the fields of its front matter with the body. -/
theorem markdownNode_ok {node : Value} (made : markdownNode path text = .ok node) :
    ∃ front, frontFields path (splitFrontMatter text).1 = .ok front ∧
      node = .object (withRawBody front (splitFrontMatter text).2) := by
  unfold markdownNode at made
  obtain ⟨front, isFront, isNode⟩ := bind_eq_ok.mp made
  exact ⟨front, isFront, (Except.ok.inj isNode).symm⟩

/-- A text with front matter that is read as an object. -/
theorem markdownNode_of_parts {front : String} (cut : splitFrontMatter text = (some front, body))
    (notBlank : front.toList.all Text.isBlank = false)
    (reads : Yaml.parse? front = some (.object fields)) :
    markdownNode path text = .ok (.object (withRawBody fields body)) := by
  rw [markdownNode, cut]
  simp [frontFields, notBlank, yamlValue, reads, bind, Except.bind]

/-- A loaded record is what its file was parsed to, with the metadata of the file. -/
theorem loadRecord_ok {registry : Registry}
    (loaded : loadRecord registry ⟨some path, .text text⟩ = .ok (.object fields)) :
    ∃ parsed, registry.parse ⟨some path, .text text⟩ = .ok (.object parsed) ∧
      fields = Value.fillMissing parsed (fileMetadata path) := by
  unfold loadRecord at loaded
  cases parsed : registry.parse ⟨some path, .text text⟩ with
  | error failure => simp [parsed, Except.map] at loaded
  | ok node =>
      simp only [parsed, Except.map, Except.ok.injEq] at loaded
      cases node with
      | object found =>
          cases loaded
          exact ⟨found, rfl, rfl⟩
      | _ => cases loaded

/-! ### The text of a record, read again -/

/-- The text of a record in a markdown file is read as the fields that the file states, with the
record's body. -/
theorem markdownNode_documentText (isMarkdown : isMarkdownPath path = true)
    (isBody : rawBody? fields = some body)
    (reads : Yaml.parse? (Yaml.render (ownFields fields)) = some (.object (ownFields fields)))
    (whole : Unfenced (Yaml.render (ownFields fields))) :
    markdownNode path (documentText fields path) =
      .ok (.object (withRawBody (ownFields fields) body)) := by
  have shown : documentText fields path =
      "---\n" ++ Yaml.render (ownFields fields) ++ "---\n" ++ body := by
    rw [documentText, if_pos isMarkdown, isBody]
    rfl
  rw [shown]
  exact markdownNode_of_parts (splitFrontMatter_fenced whole body) (Yaml.render_not_blank _) reads

/-- The text of a record in a YAML file is read as the fields that the file states. -/
theorem yamlTransformer_documentText (isYaml : isYamlPath path = true)
    (reads : Yaml.parse? (Yaml.render (ownFields fields)) = some (.object (ownFields fields))) :
    yamlTransformer.parse path (documentText fields path) = .ok (.object (ownFields fields)) := by
  have shown : documentText fields path = Yaml.render (ownFields fields) := by
    rw [documentText, if_neg (by simp [not_markdown_of_yaml isYaml])]
  rw [shown]
  simp [yamlTransformer, yamlValue, reads, bind, Except.bind]

/-- Writing a record and reading it again gives back every field that its file stated and, for
markdown, the body, with fences of its own or not.  Reserved fields are not written: of them only
the content comes back, with the body alone. -/
theorem parse_documentText
    (loaded : loadRecord Registry.withDefaults ⟨some path, .text text⟩ = .ok (.object fields))
    (contentIsObject : ∀ content, Object.find? fields "_content" = some content ->
      ∃ inner, content = .object inner)
    (isServed : isMarkdownPath path = true ∨ isYamlPath path = true)
    (reads : Yaml.parse? (Yaml.render (ownFields fields)) = some (.object (ownFields fields)))
    (whole : isMarkdownPath path = true -> Unfenced (Yaml.render (ownFields fields))) :
    ∃ parsed again,
      Registry.withDefaults.parse ⟨some path, .text text⟩ = .ok (.object parsed) ∧
        Registry.withDefaults.parse ⟨some path, .text (documentText fields path)⟩ =
          .ok (.object again) ∧
        ownFields again = ownFields parsed ∧
        (isMarkdownPath path = true ->
          rawBody? parsed = some (splitFrontMatter text).2 ∧ rawBody? again = rawBody? parsed) ∧
        ∀ key ∈ Object.keys again, isReserved key = true ->
          isMarkdownPath path = true ∧ key = "_content" := by
  obtain ⟨parsed, isParsed, isLoaded⟩ := loadRecord_ok loaded
  have sameOwn : ownFields fields = ownFields parsed := by
    rw [isLoaded, ownFields_withMetadata]
  have sameContent : Object.find? fields "_content" = Object.find? parsed "_content" := by
    rw [isLoaded, find?_content_withMetadata]
  rcases isServed with isMarkdown | isYaml
  · have isNode := isParsed
    rw [parse_of_markdown isMarkdown] at isNode
    obtain ⟨front, _, isWithBody⟩ := markdownNode_ok isNode
    cases isWithBody
    rw [sameContent] at contentIsObject
    have isBody := rawBody?_withRawBody contentIsObject
    have isBodyLoaded : rawBody? fields = some (splitFrontMatter text).2 := by
      rw [← isBody, rawBody?, sameContent, rawBody?]
    have read := markdownNode_documentText isMarkdown isBodyLoaded reads (whole isMarkdown)
    have isBodyAgain : rawBody? (withRawBody (ownFields fields) (splitFrontMatter text).2) =
        some (splitFrontMatter text).2 := by
      simp [withRawBody, rawBody?, find?_ownFields_of_reserved, isReserved, Value.field?,
        Value.fields?, Object.find?, Value.text?]
    refine ⟨_, _, isParsed, (parse_of_markdown isMarkdown _).trans read, ?_, ?_, ?_⟩
    · rw [ownFields_withRawBody, ownFields_ownFields, sameOwn]
    · intro _
      exact ⟨isBody, isBodyAgain.trans isBody.symm⟩
    · intro key member reserved
      exact ⟨isMarkdown, eq_content_of_mem_withRawBody member reserved⟩
  · refine ⟨parsed, ownFields fields, isParsed,
      (parse_of_yaml isYaml _).trans (yamlTransformer_documentText isYaml reads), ?_, ?_, ?_⟩
    · rw [ownFields_ownFields, sameOwn]
    · intro isMarkdown
      rw [not_markdown_of_yaml isYaml] at isMarkdown
      cases isMarkdown
    · intro key member reserved
      rw [not_reserved_of_mem_ownFields member] at reserved
      cases reserved

/-! ### Sample files -/

/-- A post whose body holds a fence. -/
def sampleFencedPost : Object := [
  ("id", .string "a"),
  ("_content", .object [("raw", .string "One\n---\nTwo\n")]),
  ("_filename", .string "a.md"), ("_path", .string "a.md"), ("_slug", .string "a")]

theorem sampleFront_reads : Yaml.parse? "id: a\n" = some (.object [("id", .string "a")]) := by
  decide +kernel

theorem sampleFencedPost_loads :
    loadRecord Registry.withDefaults ⟨some "a.md", .text "---\nid: a\n---\nOne\n---\nTwo\n"⟩ =
      .ok (.object sampleFencedPost) := by
  have cut : splitFrontMatter "---\nid: a\n---\nOne\n---\nTwo\n" =
      (some "id: a\n", "One\n---\nTwo\n") := by
    with_unfolding_all rfl
  rw [loadRecord, parse_of_markdown (by with_unfolding_all rfl),
    markdownNode_of_parts cut (by decide) sampleFront_reads]
  with_unfolding_all rfl

theorem sampleFencedPost_render : Yaml.render (ownFields sampleFencedPost) = "id: a\n" := by
  with_unfolding_all rfl

theorem parse_documentText_sampleFencedPost :
    loadRecord Registry.withDefaults
        ⟨some "a.md", .text "---\nid: a\n---\nOne\n---\nTwo\n"⟩ = .ok (.object sampleFencedPost) ∧
      Yaml.parse? (Yaml.render (ownFields sampleFencedPost)) =
        some (.object (ownFields sampleFencedPost)) ∧
      Unfenced (Yaml.render (ownFields sampleFencedPost)) ∧
      ∃ parsed again,
        Registry.withDefaults.parse
            ⟨some "a.md", .text "---\nid: a\n---\nOne\n---\nTwo\n"⟩ = .ok (.object parsed) ∧
          Registry.withDefaults.parse
            ⟨some "a.md", .text (documentText sampleFencedPost "a.md")⟩ = .ok (.object again) ∧
          ownFields again = ownFields parsed ∧ rawBody? again = rawBody? parsed := by
  have reads : Yaml.parse? (Yaml.render (ownFields sampleFencedPost)) =
      some (.object (ownFields sampleFencedPost)) := by
    rw [sampleFencedPost_render, sampleFront_reads]
    rfl
  have whole : Unfenced (Yaml.render (ownFields sampleFencedPost)) := by
    rw [sampleFencedPost_render]
    exact ⟨.inr (by decide), by decide⟩
  have contentIsObject : ∀ content, Object.find? sampleFencedPost "_content" = some content ->
      ∃ inner, content = .object inner := by
    intro content held
    exact ⟨_, (Option.some.inj held).symm⟩
  have isMarkdown : isMarkdownPath "a.md" = true := by with_unfolding_all rfl
  obtain ⟨parsed, again, isParsed, isAgain, sameFields, sameBody, _⟩ :=
    parse_documentText sampleFencedPost_loads contentIsObject (.inl isMarkdown) reads
      (fun _ => whole)
  exact ⟨sampleFencedPost_loads, reads, whole, parsed, again, isParsed, isAgain, sameFields,
    (sameBody isMarkdown).2⟩

/-- A draft: its only field has a reserved key. -/
def sampleDraft : Object := [
  ("_a", .string "b"), ("_content", .object [("raw", .string "")]),
  ("_filename", .string "a.md"), ("_path", .string "a.md"), ("_slug", .string "a")]

theorem sampleDraft_loads :
    loadRecord Registry.withDefaults ⟨some "a.md", .text "---\n_a: b\n---\n"⟩ =
      .ok (.object sampleDraft) := by
  have reads : Yaml.parse? "_a: b\n" = some (.object [("_a", .string "b")]) := by
    decide +kernel
  have cut : splitFrontMatter "---\n_a: b\n---\n" = (some "_a: b\n", "") := by
    with_unfolding_all rfl
  rw [loadRecord, parse_of_markdown (by with_unfolding_all rfl),
    markdownNode_of_parts cut (by decide) reads]
  with_unfolding_all rfl

theorem sampleDraft_rereads :
    Registry.withDefaults.parse ⟨some "a.md", .text (documentText sampleDraft "a.md")⟩ =
      .ok (.object [("_content", .object [("raw", .string "")])]) := by
  have shown : documentText sampleDraft "a.md" = "---\n\x7b\x7d\n---\n" := by
    with_unfolding_all rfl
  have cut : splitFrontMatter "---\n\x7b\x7d\n---\n" = (some "\x7b\x7d\n", "") := by
    with_unfolding_all rfl
  have reads : Yaml.parse? "\x7b\x7d\n" = some (.object []) := by decide +kernel
  rw [shown, parse_of_markdown (by with_unfolding_all rfl),
    markdownNode_of_parts cut (by decide) reads]
  rfl

/-- A post in a file whose extension is in capitals. -/
def sampleCapitals : Object := [
  ("id", .string "a"), ("_content", .object [("raw", .string "One\n")]),
  ("_filename", .string "a.MD"), ("_path", .string "a.MD"), ("_slug", .string "a")]

theorem parse_of_capitals (text : String) :
    Registry.withDefaults.parse ⟨some "a.MD", .text text⟩ = markdownNode "a.MD" text := by
  have lowered : loweredExtension? "a.MD" = some "md" := by with_unfolding_all rfl
  have served : Registry.withDefaults.forExtension? "md" = some markdownTransformer := rfl
  exact parse_of_extension lowered served text

theorem sampleCapitals_loads :
    loadRecord Registry.withDefaults ⟨some "a.MD", .text "---\nid: a\n---\nOne\n"⟩ =
      .ok (.object sampleCapitals) := by
  have cut : splitFrontMatter "---\nid: a\n---\nOne\n" = (some "id: a\n", "One\n") := by
    with_unfolding_all rfl
  rw [loadRecord, parse_of_capitals, markdownNode_of_parts cut (by decide) sampleFront_reads]
  with_unfolding_all rfl

theorem sampleCapitals_rereads :
    Registry.withDefaults.parse ⟨some "a.MD", .text (documentText sampleCapitals "a.MD")⟩ =
      .ok (.object [("_content", .object [("raw", .string "id: a\n")])]) := by
  have shown : documentText sampleCapitals "a.MD" = "id: a\n" := by
    with_unfolding_all rfl
  rw [shown, parse_of_capitals]
  with_unfolding_all rfl

/-- What a file states under a reserved key does not come back.  Nor do the fields and the body
of a markdown file whose extension is in capitals: it is read as markdown and written as YAML. -/
theorem parse_documentText_loses :
    (loadRecord Registry.withDefaults ⟨some "a.md", .text "---\n_a: b\n---\n"⟩ =
          .ok (.object sampleDraft) ∧
        Object.find? sampleDraft "_a" = some (.string "b") ∧
        Registry.withDefaults.parse ⟨some "a.md", .text (documentText sampleDraft "a.md")⟩ =
          .ok (.object [("_content", .object [("raw", .string "")])])) ∧
      loadRecord Registry.withDefaults ⟨some "a.MD", .text "---\nid: a\n---\nOne\n"⟩ =
          .ok (.object sampleCapitals) ∧
        rawBody? sampleCapitals = some "One\n" ∧
        Registry.withDefaults.parse ⟨some "a.MD", .text (documentText sampleCapitals "a.MD")⟩ =
          .ok (.object [("_content", .object [("raw", .string "id: a\n")])]) :=
  ⟨⟨sampleDraft_loads, rfl, sampleDraft_rereads⟩, sampleCapitals_loads, rfl,
    sampleCapitals_rereads⟩

end ContentGraph.Content
