import ContentGraph.Proofs.Shape.CompiledOverrides
import ContentGraph.Proofs.Shape.OrderIndependence

/-!
Contract: where compiled overrides are found in a representative shape.

Owns:
- `Value.SingleAt` and `HoldsSingle`, the paths at which values and nodes hold single values, and
  `Kind.kindAt?`, the kind that a path of content keys leads to;
- `Kind.Sourced`, kinds whose scalars all come from such paths (`sourced_infer`, `Merged.sourced`);
- `Kind.Leads`, a path to a computed field or to free JSON on the way there: every merge with
  sourced kinds keeps it (`Merged.leads`), and so does naming (`Leads.kindAt?_of_rename`);
- `reduce_keeps_overrides`: the computed fields of compiled overrides are found in the
  representative shape, but for those below fields that content has widened to free JSON.

Does not own: which overrides are left in the compiled tree (`Proofs.Shape.CompiledOverrides`).
-/

namespace ContentGraph

open ContentGraph.Json

/-- A single value, a boolean, a number or a string, stands at a path of keys, lists being stepped
through freely. -/
inductive Json.Value.SingleAt : List String -> Value -> Prop where
  | bool (truth : Bool) : SingleAt [] (.bool truth)
  | number (number : Number) : SingleAt [] (.number number)
  | string (text : String) : SingleAt [] (.string text)
  | item {path : List String} {items : List Value} {item : Value} (member : item ∈ items)
      (single : SingleAt path item) : SingleAt path (.array items)
  | field {key : String} {path : List String} {fields : Object} {value : Value}
      (found : Object.find? fields key = some value) (single : SingleAt path value) :
      SingleAt (key :: path) (.object fields)

/-- Some object node holds a single value at a path. -/
def HoldsSingle (nodes : List Value) (path : List String) : Prop :=
  ∃ held, .object held ∈ nodes ∧ (Value.object held).SingleAt path

namespace Kind

variable {seen : List String -> Prop} {kind left right merge : Kind} {path : List String}
  {fields others : Shape} {resolver : Resolver} {transform : FieldTransform}

/-- The kind of what stands inside all lists. -/
def innermost : Kind -> Kind
  | .list element => innermost element
  | other => other

/-- The kind that a path of content keys leads to, lists being stepped through freely. -/
def kindAt? : Kind -> List String -> Option Kind
  | kind, [] => some kind
  | kind, key :: rest =>
      match kind.innermost with
      | .object fields =>
          match Shape.fieldBySource? fields key with
          | some field => kindAt? field.kind rest
          | none => none
      | _ => none

/-! ### Kinds whose scalars come from content -/

/-- A kind of plain content, whose scalars stand at paths where single values were seen. -/
inductive Sourced : (List String -> Prop) -> Kind -> Prop where
  | unknown {seen : List String -> Prop} : Sourced seen .unknown
  | scalar {seen : List String -> Prop} (isSeen : seen []) (form : Scalar) :
      Sourced seen (.scalar form)
  | list {seen : List String -> Prop} {element : Kind} (isElement : Sourced seen element) :
      Sourced seen (.list element)
  | object {seen : List String -> Prop} {fields : Shape}
      (inside : ∀ key field, fields.field? key = some field ->
        Sourced (fun path => seen (key :: path)) field.kind) : Sourced seen (.object fields)

theorem sourced_scalar_iff {form : Scalar} : Sourced seen (.scalar form) ↔ seen [] := by
  constructor
  · rintro ⟨⟩
    assumption
  · exact fun isSeen => .scalar isSeen form

theorem sourced_list_iff : Sourced seen (.list kind) ↔ Sourced seen kind := by
  constructor
  · rintro ⟨⟩
    assumption
  · exact .list

theorem sourced_object_iff :
    Sourced seen (.object fields) ↔ ∀ key field, fields.field? key = some field ->
      Sourced (fun path => seen (key :: path)) field.kind := by
  constructor
  · rintro ⟨⟩
    assumption
  · exact .object

theorem Sourced.mono {more : List String -> Prop} (sourced : Sourced seen kind)
    (includes : ∀ path, seen path -> more path) : Sourced more kind := by
  induction sourced generalizing more with
  | unknown => exact .unknown
  | scalar isSeen form => exact .scalar (includes _ isSeen) form
  | list _ inductionHypothesis => exact .list (inductionHypothesis includes)
  | object _ inductionHypothesis =>
      exact .object fun key field found =>
        inductionHypothesis key field found fun path => includes (key :: path)

/-- The merge of two sourced kinds is sourced. -/
theorem Merged.sourced (merged : Merged left right merge) : ∀ {seen : List String -> Prop},
    Sourced seen left -> Sourced seen right -> Sourced seen merge := by
  induction merged with
  | computedLeft => exact fun sourcedLeft _ => sourcedLeft
  | computedRight => exact fun _ sourcedRight => sourcedRight
  | unknownLeft => exact fun _ sourcedRight => sourcedRight
  | unknownRight => exact fun sourcedLeft _ => sourcedLeft
  | scalars | scalarObject | jsonList =>
      simp only [sourced_scalar_iff]
      exact fun isSeen _ => isSeen
  | objectScalar | listJson =>
      simp only [sourced_scalar_iff]
      exact fun _ isSeen => isSeen
  | lists elements inductionHypothesis =>
      simp only [sourced_list_iff]
      exact inductionHypothesis
  | listSingle isSingle taken inductionHypothesis =>
      simp only [sourced_list_iff]
      exact inductionHypothesis
  | singleList isSingle taken inductionHypothesis =>
      simp only [sourced_list_iff]
      exact fun sourcedLeft sourcedRight => inductionHypothesis sourcedRight sourcedLeft
  | @objects left right shared inductionHypothesis =>
      simp only [sourced_object_iff, Shape.field?_merge]
      intro seen sourcedLeft sourcedRight key field found
      cases isMine : left.field? key with
      | none =>
          rw [isMine] at found
          exact sourcedRight key field found
      | some mine =>
          rw [isMine] at found
          cases found
          cases isTheirs : right.field? key with
          | none => exact sourcedLeft key mine isMine
          | some theirs =>
              obtain ⟨member, rfl⟩ := Shape.mem_of_field? isMine
              exact inductionHypothesis mine member theirs isTheirs (sourcedLeft _ mine isMine)
                (sourcedRight _ theirs isTheirs)

mutual

/-- The scalars of the kind of a value come from the single values in it. -/
theorem sourced_infer : ∀ value : Value, Sourced (fun path => value.SingleAt path) (infer value)
  | .null => .unknown
  | .bool truth => .scalar (.bool truth) _
  | .number (.int number) => by
      rw [infer]
      split
      · exact .scalar (.number _) _
      · exact .scalar (.number _) _
  | .number (.double _) => .scalar (.number _) _
  | .string text => .scalar (.string text) _
  | .array items =>
      .list (sourced_inferItems items .unknown .unknown fun item member path single =>
        .item member single)
  | .object held => .object (sourced_inferFields held)

theorem sourced_inferItems : ∀ items : List Value, ∀ {seen : List String -> Prop} (kind : Kind),
    Sourced seen kind -> (∀ item ∈ items, ∀ path, item.SingleAt path -> seen path) ->
      Sourced seen (inferItems kind items)
  | [], _, _, sourced, _ => sourced
  | first :: rest, seen, kind, sourced, areSeen => by
      obtain ⟨firstSeen, restSeen⟩ := List.forall_mem_cons.mp areSeen
      have sourcedFirst : Sourced seen (infer first) := (sourced_infer first).mono firstSeen
      rw [inferItems]
      exact sourced_inferItems rest _ ((merged kind (infer first)).sourced sourced sourcedFirst)
        restSeen

theorem sourced_inferFields : ∀ held : Object, ∀ key field,
    (inferFields held).field? key = some field ->
      Sourced (fun path => (Value.object held).SingleAt (key :: path)) field.kind
  | [], key, field, found => by cases found
  | (name, value) :: rest, key, field, found => by
      rw [inferFields, Shape.field?] at found
      split at found
      · next same =>
          cases found
          have isFirst : Object.find? ((name, value) :: rest) key = some value := if_pos same
          exact (sourced_infer value).mono fun path single => .field isFirst single
      · next different =>
          refine (sourced_inferFields rest key field found).mono fun path single => ?_
          cases single with
          | field isLater single => exact .field ((if_neg different).trans isLater) single

end

/-! ### Paths to computed fields -/

/-- A path leads to a computed field, or to free JSON on the way there, where a single value was
seen. -/
inductive Leads (resolver : Resolver) : (List String -> Prop) -> Kind -> List String -> Prop where
  | found {seen : List String -> Prop} : Leads resolver seen (.resolved resolver) []
  | widened {seen : List String -> Prop} (isSeen : seen []) (key : String) (rest : List String) :
      Leads resolver seen (.scalar .json) (key :: rest)
  | element {seen : List String -> Prop} {element : Kind} {key : String} {rest : List String}
      (further : Leads resolver seen element (key :: rest)) :
      Leads resolver seen (.list element) (key :: rest)
  | inside {seen : List String -> Prop} {fields : Shape} {field : Field} {key : String}
      {rest : List String} (isField : fields.field? key = some field)
      (further : Leads resolver (fun path => seen (key :: path)) field.kind rest) :
      Leads resolver seen (.object fields) (key :: rest)

/-- Only at a computed field is the path at its end. -/
theorem Leads.path_ne_nil (leads : Leads resolver seen kind path)
    (plain : ∀ own, kind ≠ .resolved own) : path ≠ [] := by
  cases leads with
  | found => exact absurd rfl (plain resolver)
  | _ => exact List.cons_ne_nil _ _

/-- Where a single value was seen, free JSON takes the place of everything above a computed
field. -/
theorem Leads.json (leads : Leads resolver seen kind path) (plain : ∀ own, kind ≠ .resolved own)
    (isSeen : seen []) : Leads resolver seen (.scalar .json) path := by
  obtain ⟨key, rest, rfl⟩ := List.exists_cons_of_ne_nil (leads.path_ne_nil plain)
  exact .widened isSeen key rest

theorem leads_scalar_iff {form : Scalar} :
    Leads resolver seen (.scalar form) path ↔ form = .json ∧ path ≠ [] ∧ seen [] := by
  constructor
  · rintro ⟨⟩
    next isSeen => exact ⟨rfl, List.cons_ne_nil _ _, isSeen⟩
  · rintro ⟨rfl, somePath, isSeen⟩
    obtain ⟨key, rest, rfl⟩ := List.exists_cons_of_ne_nil somePath
    exact .widened isSeen key rest

theorem leads_list_iff :
    Leads resolver seen (.list kind) path ↔ path ≠ [] ∧ Leads resolver seen kind path := by
  constructor
  · rintro ⟨⟩
    next further => exact ⟨List.cons_ne_nil _ _, further⟩
  · rintro ⟨somePath, further⟩
    obtain ⟨key, rest, rfl⟩ := List.exists_cons_of_ne_nil somePath
    exact .element further

theorem Single.plain {single : Kind} (isSingle : Single single) (own : Resolver) :
    single ≠ .resolved own := by
  rintro rfl
  cases isSingle

/-- A path goes on leading there when plain content is merged in, on either side. -/
theorem Merged.leads (merged : Merged left right merge) :
    ∀ {seen : List String -> Prop} {path : List String},
      Leads resolver seen left path ∧ Sourced seen right ∨
        Sourced seen left ∧ Leads resolver seen right path ->
      Leads resolver seen merge path := by
  -- Both sides are taken together: a list takes a single value in from either of them.
  induction merged with
  | computedLeft =>
      rintro seen path (⟨leads, _⟩ | ⟨⟨⟩, _⟩)
      exact leads
  | computedRight =>
      rintro seen path (⟨_, ⟨⟩⟩ | ⟨_, leads⟩)
      exact leads
  | unknownLeft =>
      rintro seen path (⟨⟨⟩, _⟩ | ⟨_, leads⟩)
      exact leads
  | unknownRight =>
      rintro seen path (⟨leads, _⟩ | ⟨_, ⟨⟩⟩)
      exact leads
  | scalars left right =>
      simp only [leads_scalar_iff]
      rintro seen path (⟨⟨rfl, leads⟩, _⟩ | ⟨_, rfl, leads⟩)
      · exact ⟨by cases right <;> rfl, leads⟩
      · exact ⟨by cases left <;> rfl, leads⟩
  -- One side is a scalar: free JSON that the path led to, or content that was seen right here.
  | scalarObject form fields =>
      rintro seen path (⟨leads, _⟩ | ⟨sourced, leads⟩)
      · obtain ⟨rfl, _⟩ := leads_scalar_iff.mp leads
        exact leads
      · exact leads.json nofun (sourced_scalar_iff.mp sourced)
  | objectScalar fields form =>
      rintro seen path (⟨leads, sourced⟩ | ⟨_, leads⟩)
      · exact leads.json nofun (sourced_scalar_iff.mp sourced)
      · obtain ⟨rfl, _⟩ := leads_scalar_iff.mp leads
        exact leads
  | jsonList element =>
      rintro seen path (⟨leads, _⟩ | ⟨sourced, leads⟩)
      · exact leads
      · exact leads.json nofun (sourced_scalar_iff.mp sourced)
  | listJson element =>
      rintro seen path (⟨leads, sourced⟩ | ⟨_, leads⟩)
      · exact leads.json nofun (sourced_scalar_iff.mp sourced)
      · exact leads
  | lists elements inductionHypothesis =>
      simp only [leads_list_iff, sourced_list_iff]
      rintro seen path (⟨⟨somePath, leads⟩, sourced⟩ | ⟨sourced, somePath, leads⟩)
      · exact ⟨somePath, inductionHypothesis (.inl ⟨leads, sourced⟩)⟩
      · exact ⟨somePath, inductionHypothesis (.inr ⟨sourced, leads⟩)⟩
  | listSingle isSingle taken inductionHypothesis =>
      simp only [leads_list_iff, sourced_list_iff]
      rintro seen path (⟨⟨somePath, leads⟩, sourced⟩ | ⟨sourced, leads⟩)
      · exact ⟨somePath, inductionHypothesis (.inl ⟨leads, sourced⟩)⟩
      · exact ⟨leads.path_ne_nil isSingle.plain, inductionHypothesis (.inr ⟨sourced, leads⟩)⟩
  | singleList isSingle taken inductionHypothesis =>
      simp only [leads_list_iff, sourced_list_iff]
      rintro seen path (⟨leads, sourced⟩ | ⟨sourced, somePath, leads⟩)
      · exact ⟨leads.path_ne_nil isSingle.plain, inductionHypothesis (.inr ⟨sourced, leads⟩)⟩
      · exact ⟨somePath, inductionHypothesis (.inl ⟨leads, sourced⟩)⟩
  | @objects left right shared inductionHypothesis =>
      have isShared : ∀ {key : String} {mine theirs : Field}, left.field? key = some mine ->
          right.field? key = some theirs ->
          (left.merge right).field? key = some (mine.absorb (some theirs)) := by
        intro key mine theirs isMine isTheirs
        rw [Shape.field?_merge, isMine, isTheirs, Field.merge?]
      simp only [sourced_object_iff]
      rintro seen path (⟨leads, sourced⟩ | ⟨sourced, leads⟩)
      · cases leads with
        | @inside _ _ mine key _ isMine further =>
            cases isTheirs : right.field? key with
            | none => exact .inside (by rw [Shape.field?_merge, isMine, isTheirs]; rfl) further
            | some theirs =>
                obtain ⟨member, rfl⟩ := Shape.mem_of_field? isMine
                have merged := inductionHypothesis mine member theirs isTheirs
                  (.inl ⟨further, sourced _ theirs isTheirs⟩)
                exact .inside (isShared isMine isTheirs) merged
      · cases leads with
        | @inside _ _ theirs key _ isTheirs further =>
            cases isMine : left.field? key with
            | none => exact .inside (by rw [Shape.field?_merge, isMine]; exact isTheirs) further
            | some mine =>
                obtain ⟨member, rfl⟩ := Shape.mem_of_field? isMine
                have merged := inductionHypothesis mine member theirs isTheirs
                  (.inr ⟨sourced _ mine isMine, further⟩)
                exact .inside (isShared isMine isTheirs) merged

/-! ### From compiled overrides to the observed shape -/

/-- The keys of a computed field of a tree lead to it in the shape that the tree declares. -/
theorem leads_ofTree {tree : ResolverTree} (lies : tree.get? path = some (.resolver resolver)) :
    Leads resolver seen (.object (ofTree tree)) path := by
  induction path generalizing tree seen with
  | nil => cases lies
  | cons key rest inductionHypothesis =>
      cases rest with
      | nil => exact .inside (field?_ofTree lies) .found
      | cons next others =>
          simp only [ResolverTree.get?] at lies
          split at lies
          · next inner isNode => exact .inside (field?_ofTree isNode) (inductionHypothesis lies)
          · next inner isNode =>
              exact .inside (field?_ofTree isNode) (.element (inductionHypothesis lies))
          · cases lies

/-- Whether a path leads there depends on the field of its first key only. -/
theorem Leads.of_field? (leads : Leads resolver seen (.object fields) path)
    (kept : ∀ key field, path.head? = some key -> fields.field? key = some field ->
      others.field? key = some field) : Leads resolver seen (.object others) path := by
  cases leads with
  | inside isField further => exact .inside (kept _ _ rfl isField) further

/-- Paths go on leading there when plain nodes are observed. -/
theorem Leads.foldl_observe {nodes : List Value} (wellKeyed : ∀ node ∈ nodes, node.WellKeyed)
    (areSeen : ∀ path, HoldsSingle nodes path -> seen path)
    (leads : Leads resolver seen (.object fields) path) :
    Leads resolver seen (.object (nodes.foldl (Shape.observe []) fields)) path := by
  induction nodes generalizing fields with
  | nil => exact leads
  | cons node rest inductionHypothesis =>
      obtain ⟨keyed, restKeyed⟩ := List.forall_mem_cons.mp wellKeyed
      have restSeen : ∀ path, HoldsSingle rest path -> seen path :=
        fun path ⟨held, later, single⟩ => areSeen path ⟨held, List.mem_cons_of_mem _ later, single⟩
      have sourced : Sourced seen (.object (Shape.ofValue node)) := by
        cases node with
        | object held =>
            exact (sourced_infer (.object held)).mono fun path single =>
              areSeen path ⟨held, List.mem_cons_self, single⟩
        | _ => exact .object nofun
      refine inductionHypothesis restKeyed restSeen ?_
      rw [Shape.observe_nil keyed, ← merge_objects]
      exact (merged _ _).leads (.inl ⟨leads, sourced⟩)

theorem Leads.foldl_addMissing (keys : List String)
    (leads : Leads resolver seen (.object fields) path) :
    Leads resolver seen (.object (keys.foldl Shape.addMissing fields)) path := by
  induction keys generalizing fields with
  | nil => exact leads
  | cons key rest inductionHypothesis =>
      refine inductionHypothesis (leads.of_field? fun name field _ isField => ?_)
      rw [Shape.field?_addMissing, isField, Option.some_or]

/-- The keys of a computed field lead to it in the observed shape, or to free JSON above it. -/
theorem leads_observed {tree : ResolverTree} (referenceField : String) {nodes : List Value}
    (wellKeyed : ∀ node ∈ nodes, node.WellKeyed)
    (lies : tree.get? path = some (.resolver resolver)) (other : path.head? ≠ some "_collection") :
    Leads resolver (HoldsSingle nodes) (.object (Shape.observed tree [] referenceField nodes))
      path := by
  have seen : Leads resolver (HoldsSingle nodes)
      (.object (nodes.foldl (Shape.observe []) (ofTree tree))) path :=
    (leads_ofTree lies).foldl_observe wellKeyed fun _ => id
  refine (seen.foldl_addMissing (referenceField :: metadataFields)).of_field?
    fun key field isHead isField => ?_
  have kept : key ≠ "_collection" := fun isOther => other (isOther ▸ isHead)
  rw [Shape.observed, Shape.field?_filter fun name => decide (name ≠ "_collection")]
  rw [if_pos (by simpa using kept)]
  exact isField

/-! ### Naming -/

/-- Naming keeps paths of content keys: where no two fields of an object get one name, a path that
leads to a computed field, or to free JSON on the way there, still does. -/
theorem Leads.kindAt?_of_rename (leads : Leads resolver seen kind path) {renamed : Kind}
    (nameable : Every (Nameable transform) kind) (isNamed : rename transform kind = .ok renamed) :
    renamed.kindAt? path = some (.resolved resolver) ∨
      ∃ front back inner, path = front ++ back ∧ back ≠ [] ∧ renamed.kindAt? front = some inner ∧
        inner.innermost = .scalar .json ∧ seen front := by
  induction leads generalizing renamed with
  | found =>
      cases isNamed
      exact .inl rfl
  | widened isSeen key rest =>
      cases isNamed
      exact .inr ⟨[], key :: rest, .scalar .json, rfl, List.cons_ne_nil _ _, rfl, rfl, isSeen⟩
  | element further inductionHypothesis =>
      obtain ⟨inner, isInner, rfl⟩ := rename_list_ok.mp isNamed
      obtain isFound | ⟨front, back, json, isPath, someBack, isFront, isJson, isSeen⟩ :=
        inductionHypothesis nameable.2 isInner
      · exact .inl isFound
      · -- Free JSON right inside the list is what stands innermost in the list as well.
        cases front with
        | nil =>
            cases isFront
            exact .inr ⟨[], back, .list inner, isPath, someBack, rfl, isJson, isSeen⟩
        | cons key rest =>
            exact .inr ⟨key :: rest, back, json, isPath, someBack, isFront, isJson, isSeen⟩
  | @inside seen fields field key rest isField further inductionHypothesis =>
      obtain ⟨named, _, rfl⟩ := rename_object_ok.mp isNamed
      obtain ⟨entry, isEntry, _, isKind⟩ := exists_fieldBySource nameable.1 isNamed isField
      have isStep (steps : List String) :
          (Kind.object named).kindAt? (key :: steps) = entry.kind.kindAt? steps := by
        simp only [kindAt?, innermost, isEntry]
      obtain isFound | ⟨front, back, json, rfl, someBack, isFront, isJson, isSeen⟩ :=
        inductionHypothesis (nameable.of_field? isField) isKind
      · exact .inl ((isStep rest).trans isFound)
      · exact .inr ⟨key :: front, back, json, rfl, someBack, (isStep front).trans isFront, isJson,
          isSeen⟩

end Kind

namespace Shape

open Kind

/-- Overrides survive the content.  Where no two fields of an object get one name, the content keys
of a computed field of compiled overrides lead to that computed field in the representative shape
of any nodes, unless a field on the way there has been widened to free JSON, in lists of any depth;
and then some node holds a boolean, a number or a string right at that field, or in lists there. -/
theorem reduce_keeps_overrides (overrides : List Override) (tree : ResolverTree)
    (referenceField : String) (transform : FieldTransform) (nodes : List Value) (shape : Shape)
    (compiled : Override.compile overrides = .ok tree)
    (wellKeyed : ∀ node ∈ nodes, node.WellKeyed)
    (apart : Every (Apart transform) (.object (observed tree [] referenceField nodes)))
    (reduced : reduce tree [] referenceField transform nodes = .ok shape)
    (path : List String) (resolver : Resolver)
    (lies : tree.get? path = some (.resolver resolver)) (other : path.head? ≠ some "_collection") :
    (Kind.object shape).kindAt? path = some (.resolved resolver) ∨
      ∃ front back kind, path = front ++ back ∧ front ≠ [] ∧ back ≠ [] ∧
        (Kind.object shape).kindAt? front = some kind ∧ kind.innermost = .scalar .json ∧
        HoldsSingle nodes front := by
  have distinctTree : Every DistinctNames (.object (ofTree tree)) :=
    invariant_distinctNames.every_compile (fun _ _ _ _ => trivial) compiled
  have nothing : Every DistinctNames (.object (ofTree [])) := ⟨List.nodup_nil, trivial⟩
  have distinct :=
    every_observed invariant_distinctNames distinctTree nothing referenceField wellKeyed
  have named := namedBy_observed tree [] referenceField wellKeyed
  obtain isFound | ⟨front, back, kind, isPath, someBack, isFront, isJson, isSeen⟩ :=
    (leads_observed referenceField wellKeyed lies other).kindAt?_of_rename
      ((distinct.and named).and apart) (rename_object_ok.mpr ⟨shape, reduced, rfl⟩)
  · exact .inl isFound
  · refine .inr ⟨front, back, kind, isPath, ?_, someBack, isFront, isJson, isSeen⟩
    -- The shape itself is an object, not free JSON.
    rintro rfl
    cases isFront
    cases isJson

/-- Overrides of two properties of objects. -/
def sampleNestedOverrides : List Override :=
  [Override.sampleOverride "meta.title" "Int", Override.sampleOverride "cover.alt" "String"]

/-- A computed field that leaves values as they are. -/
def sampleResolver (typeRef : String) : Resolver where
  typeRef
  resolve value _ _ := .ok value

/-- The tree of `sampleNestedOverrides`. -/
def sampleNestedTree : ResolverTree :=
  [("meta", .object [("title", .resolver (sampleResolver "Int"))]),
   ("cover", .object [("alt", .resolver (sampleResolver "String"))])]

/-- Nodes that hold the first property in an object and in a list of objects, and in place of the
other object a text in a list. -/
def sampleMixedPosts : List Value :=
  [.object [("meta", .object [("title", .string "x")])],
   .object [("meta", .array [.object [("title", .ofInt 3)]]), ("cover", .array [.string "x.png"])]]

/-- The representative shape of `sampleMixedPosts`. -/
def sampleMixedPostsShape : Shape :=
  [.unnamed "meta" (.list (.object [.unnamed "title" (.resolved (sampleResolver "Int"))])),
   .unnamed "cover" (.list (.scalar .json)), .unnamed "id" (.scalar .string),
   .unnamed "_filename" (.scalar .string), .unnamed "_path" (.scalar .string),
   .unnamed "_slug" (.scalar .string)]

private theorem front_eq_of_pair {first second : String} {front back : List String}
    (isPath : [first, second] = front ++ back) (someFront : front ≠ []) (someBack : back ≠ []) :
    front = [first] := by
  cases front with
  | nil => exact absurd rfl someFront
  | cons key rest =>
      obtain ⟨rfl, isRest⟩ := List.cons.inj isPath
      cases rest with
      | nil => rfl
      | cons next others =>
          obtain ⟨_, isNil⟩ := List.cons.inj isRest
          exact absurd (List.append_eq_nil_iff.mp isNil.symm).2 someBack

theorem reduce_keeps_overrides_sampleMixedPosts :
    Override.compile sampleNestedOverrides = .ok sampleNestedTree ∧
      reduce sampleNestedTree [] "id" .identity sampleMixedPosts = .ok sampleMixedPostsShape ∧
      (Kind.object sampleMixedPostsShape).kindAt? ["meta", "title"] =
        some (.resolved (sampleResolver "Int")) ∧
      HoldsSingle sampleMixedPosts ["cover"] := by
  have compiled : Override.compile sampleNestedOverrides = .ok sampleNestedTree := by
    with_unfolding_all rfl
  have wellKeyed : ∀ node ∈ sampleMixedPosts, node.WellKeyed := by
    simp [sampleMixedPosts, Value.WellKeyed, Value.WellKeyedFields, Value.WellKeyedItems,
      Value.ofInt]
  have isObserved : observed sampleNestedTree [] "id" sampleMixedPosts = sampleMixedPostsShape := by
    with_unfolding_all rfl
  have reduced : reduce sampleNestedTree [] "id" .identity sampleMixedPosts =
      .ok sampleMixedPostsShape := by
    rw [reduce, isObserved]
    with_unfolding_all rfl
  have apart : Every (Apart .identity) (.object sampleMixedPostsShape) := by
    simp only [sampleMixedPostsShape, Field.unnamed, Every, EveryField, and_true]
    refine ⟨apart_of_keys (by decide +kernel), ⟨trivial, ?_, trivial⟩, ⟨trivial, trivial⟩, trivial,
      trivial, trivial, trivial⟩
    exact apart_of_keys (by decide +kernel)
  have kept := reduce_keeps_overrides sampleNestedOverrides sampleNestedTree "id" .identity
    sampleMixedPosts sampleMixedPostsShape compiled wellKeyed (isObserved ▸ apart) reduced
  refine ⟨compiled, reduced, ?_, ?_⟩
  · obtain isFound | ⟨front, back, kind, isPath, someFront, someBack, isFront, isJson, _⟩ :=
      kept ["meta", "title"] (sampleResolver "Int") rfl (by decide)
    · exact isFound
    · cases front_eq_of_pair isPath someFront someBack
      cases isFront
      cases isJson
  · obtain isFound | ⟨front, back, kind, isPath, someFront, someBack, _, _, isSeen⟩ :=
      kept ["cover", "alt"] (sampleResolver "String") rfl (by decide)
    · cases isFound
    · cases front_eq_of_pair isPath someFront someBack
      exact isSeen

end Shape

end ContentGraph
