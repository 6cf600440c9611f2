import ContentGraph.Proofs.Json.ObjectFields
import ContentGraph.Proofs.Success
import ContentGraph.Proofs.Text.Trim
import ContentGraph.Query.Execution
import ContentGraph.Schema.TypeDraft

/-!
Contract: computed fields that are asked for without arguments.

Owns:
- `toJson_ofJson`: the literal of a value without repeated keys has that value;
- `fieldArguments?_of_resolver`: a computed field gets the defaults of its arguments, and they are
  not changed when they are filled in once more;
- `ofDeclared_of_scalar`: a computed value of a scalar type is shown as it is.
-/

namespace ContentGraph

open ContentGraph.Json ContentGraph.Json.Object

/-! ### Literals of values -/

namespace Query.Literal

variable {value : String -> Value}

mutual

/-- The literal of a value has that value. -/
theorem toJson_ofJson : ∀ held : Value, held.WellKeyed -> toJson value (ofJson held) = held
  | .null, _ => rfl
  | .bool _, _ => rfl
  | .number _, _ => rfl
  | .string _, _ => rfl
  | .array items, wellKeyed => by
      rw [ofJson, toJson, itemsToJson_ofItems items wellKeyed]
  | .object fields, wellKeyed => by
      rw [ofJson, toJson, fieldsToJson_ofFields fields wellKeyed.2 wellKeyed.1 []
        fun _ _ => List.not_mem_nil]
      rfl

theorem itemsToJson_ofItems : ∀ items : List Value, Value.WellKeyedItems items ->
    itemsToJson value (ofItems items) = items
  | [], _ => rfl
  | item :: rest, wellKeyed => by
      rw [ofItems, itemsToJson, toJson_ofJson item wellKeyed.1,
        itemsToJson_ofItems rest wellKeyed.2]

theorem fieldsToJson_ofFields : ∀ fields : Object, Value.WellKeyedFields fields ->
    (fields.map Prod.fst).Nodup -> ∀ done : Object,
      (∀ key ∈ fields.map Prod.fst, key ∉ Object.keys done) ->
        fieldsToJson value done (ofFields fields) = done ++ fields
  | [], _, _, done, _ => (List.append_nil done).symm
  | (key, held) :: rest, wellKeyed, distinct, done, areNew => by
      obtain ⟨isNew, restNew⟩ := List.forall_mem_cons.mp areNew
      obtain ⟨apart, distinctRest⟩ := List.nodup_cons.mp distinct
      have restApart : ∀ other ∈ rest.map Prod.fst,
          other ∉ Object.keys (done ++ [(key, held)]) := by
        intro other member isDone
        rw [Object.keys, List.map_append, List.mem_append] at isDone
        rcases isDone with isOld | isFirst
        · exact restNew other member isOld
        · cases List.mem_singleton.mp isFirst
          exact apart member
      rw [ofFields, fieldsToJson, toJson_ofJson held wellKeyed.1, insert_of_absent isNew,
        fieldsToJson_ofFields rest wellKeyed.2 distinctRest _ restApart, List.append_assoc]
      rfl

end

end Query.Literal

/-! ### Default arguments -/

/-- The arguments of a computed field have names of their own and defaults without repeated
keys. -/
structure Resolver.PlainArguments (resolver : Resolver) : Prop where
  distinct : (resolver.arguments.map ArgumentSpec.name).Nodup
  wellKeyed : ∀ spec ∈ resolver.arguments, ∀ value, spec.default = some value -> value.WellKeyed

namespace Resolver

variable {given : Object} {specs : List ArgumentSpec} {resolver : Resolver}

/-- Fills in the default of an argument. -/
private def fill (args : Object) (spec : ArgumentSpec) : Object :=
  match spec.default with
  | some value => if Object.hasKey args spec.name then args else args.insert spec.name value
  | none => args

private theorem hasKey_fill {spec : ArgumentSpec} {key : String}
    (isHeld : Object.hasKey given key = true) : Object.hasKey (fill given spec) key = true := by
  unfold fill
  split
  · split
    · exact isHeld
    · by_cases same : key = spec.name
      · rw [same, Object.hasKey, find?_insert_same]
        rfl
      · rw [Object.hasKey, find?_insert_other same]
        exact isHeld
  · exact isHeld

private theorem hasKey_fillAll {key : String} (isHeld : Object.hasKey given key = true) :
    Object.hasKey (specs.foldl fill given) key = true := by
  induction specs generalizing given with
  | nil => exact isHeld
  | cons spec rest inductionHypothesis => exact inductionHypothesis (hasKey_fill isHeld)

private theorem hasKey_of_default :
    ∀ spec ∈ specs, spec.default.isSome = true ->
      Object.hasKey (specs.foldl fill given) spec.name = true := by
  induction specs generalizing given with
  | nil => exact List.forall_mem_nil _
  | cons spec rest inductionHypothesis =>
      refine List.forall_mem_cons.mpr ⟨fun hasDefault => ?_, inductionHypothesis⟩
      obtain ⟨value, isDefault⟩ := Option.isSome_iff_exists.mp hasDefault
      have isFilled : Object.hasKey (fill given spec) spec.name = true := by
        unfold fill
        rw [isDefault]
        dsimp only
        split
        · next isHeld => exact isHeld
        · rw [Object.hasKey, find?_insert_same]
          rfl
      rw [List.foldl_cons]
      exact hasKey_fillAll isFilled

private theorem fillAll_of_hasKey
    (areHeld : ∀ spec ∈ specs, spec.default.isSome = true ->
      Object.hasKey given spec.name = true) : specs.foldl fill given = given := by
  induction specs with
  | nil => rfl
  | cons spec rest inductionHypothesis =>
      obtain ⟨isHeld, restHeld⟩ := List.forall_mem_cons.mp areHeld
      have isFilled : fill given spec = given := by
        unfold fill
        split
        · next isDefault => rw [if_pos (isHeld (by rw [isDefault]; rfl))]
        · rfl
      rw [List.foldl_cons, isFilled]
      exact inductionHypothesis restHeld

/-- Defaults are filled in once. -/
theorem withDefaults_withDefaults (resolver : Resolver) (given : Object) :
    resolver.withDefaults (resolver.withDefaults given) = resolver.withDefaults given :=
  fillAll_of_hasKey hasKey_of_default

end Resolver

namespace Schema

variable {arguments declared : List Argument} {specs : List ArgumentSpec}

private theorem setArgument_of_new {argument : Argument}
    (isNew : argument.name ∉ arguments.map Argument.name) :
    setArgument arguments argument = arguments ++ [argument] := by
  induction arguments with
  | nil => rfl
  | cons old rest inductionHypothesis =>
      have different : old.name ≠ argument.name := fun same =>
        isNew (same ▸ List.mem_cons_self)
      have newRest : argument.name ∉ rest.map Argument.name := fun member =>
        isNew (List.mem_cons_of_mem _ member)
      rw [setArgument, if_neg different, inductionHypothesis newRest]
      rfl

/-- The declared argument of a specification. -/
private def Declares (spec : ArgumentSpec) (argument : Argument) : Prop :=
  argument.name = spec.name ∧ argument.default = spec.default.map Query.Literal.ofJson

private theorem declares_of_resolverArguments (distinct : (specs.map ArgumentSpec.name).Nodup)
    (areNew : ∀ name ∈ specs.map ArgumentSpec.name, name ∉ arguments.map Argument.name)
    (read : specs.foldlM (fun arguments spec => do
      let type ← TypeRef.parse spec.typeRef
      .ok (setArgument arguments ⟨spec.name, type, spec.default.map Query.Literal.ofJson⟩))
      arguments = Except.ok declared) :
    ∃ added, declared = arguments ++ added ∧ List.Forall₂ Declares specs added := by
  induction specs generalizing arguments with
  | nil =>
      cases read
      exact ⟨[], (List.append_nil _).symm, .nil⟩
  | cons spec rest inductionHypothesis =>
      obtain ⟨isNew, restNew⟩ := List.forall_mem_cons.mp areNew
      obtain ⟨apart, distinctRest⟩ := List.nodup_cons.mp distinct
      simp only [List.foldlM_cons, bind_eq_ok] at read
      obtain ⟨_, ⟨type, _, isSet⟩, readRest⟩ := read
      cases isSet
      rw [setArgument_of_new isNew] at readRest
      have restApart : ∀ name ∈ rest.map ArgumentSpec.name, name ∉ (arguments ++
          [Argument.mk spec.name type (spec.default.map Query.Literal.ofJson)]).map
            Argument.name := by
        intro name member isThere
        rw [List.map_append, List.mem_append] at isThere
        rcases isThere with isOld | isFirst
        · exact restNew name member isOld
        · cases List.mem_singleton.mp isFirst
          exact apart member
      obtain ⟨added, rfl, declares⟩ := inductionHypothesis distinctRest restApart readRest
      have declaresFirst : Declares spec
          ⟨spec.name, type, spec.default.map Query.Literal.ofJson⟩ := ⟨rfl, rfl⟩
      exact ⟨_ :: added, List.append_assoc arguments [_] added, .cons declaresFirst declares⟩

private theorem foldl_defaults (declares : List.Forall₂ Declares specs declared)
    (wellKeyed : ∀ spec ∈ specs, ∀ value, spec.default = some value -> value.WellKeyed)
    (given : Object) :
    declared.foldl
      (fun args argument =>
        match argument.default with
        | some literal =>
            if Object.hasKey args argument.name then args
            else Object.insert args argument.name (literal.toJson fun _ => .null)
        | none => args)
      given = specs.foldl Resolver.fill given := by
  induction declares generalizing given with
  | nil => rfl
  | @cons spec argument rest others declaresFirst _ inductionHypothesis =>
      obtain ⟨wellKeyedFirst, wellKeyedRest⟩ := List.forall_mem_cons.mp wellKeyed
      obtain ⟨isName, isDefault⟩ := declaresFirst
      rw [List.foldl_cons, List.foldl_cons, inductionHypothesis wellKeyedRest]
      congr 1
      unfold Resolver.fill
      cases held : spec.default with
      | none => simp [isDefault, held]
      | some value =>
          have same := @Query.Literal.toJson_ofJson (fun _ => .null) value
            (wellKeyedFirst value held)
          simp [isDefault, held, isName, same]

/-- A computed field without given arguments gets the defaults. -/
theorem fieldArguments?_of_resolver {resolver : Resolver} (plain : resolver.PlainArguments)
    (areArguments : resolverArguments resolver.arguments = .ok declared)
    (value? : String -> Option Value) :
    Query.fieldArguments? value? declared [] = some (resolver.withDefaults []) := by
  obtain ⟨added, isAdded, declares⟩ := declares_of_resolverArguments plain.distinct
    (fun _ _ => List.not_mem_nil) areArguments
  rw [List.nil_append] at isAdded
  subst isAdded
  exact congrArg some (foldl_defaults declares plain.wellKeyed [])

end Schema

/-! ### Computed values of scalar types -/

/-- A computed value of a scalar type is shown as it is. -/
theorem Output.ofDeclared_of_scalar {typeRef name : String}
    (isRead : TypeRef.parse typeRef = .ok (.named name)) (isScalar : name ∈ Schema.scalarNames)
    (value : Value) :
    ofDeclared typeRef.toList value = if value.isNull then none else some (.leaf value) := by
  rw [TypeRef.parse, TypeRef.parseChars] at isRead
  split at isRead
  · next marked =>
      cases inside : TypeRef.parseChars (Text.trimChars typeRef.toList).dropLast <;>
        simp [inside, Except.map] at isRead
  · next unmarked =>
      have isCore : declaredCore typeRef.toList = Text.trimChars typeRef.toList :=
        Text.dropEndWhile_of_last fun last isLast => by
          by_contra isMark
          have isMark : last = '!' := by simpa using isMark
          exact unmarked (isMark ▸ isLast)
      split at isRead
      · next inner _ =>
          cases inside : TypeRef.parseChars inner <;> simp [inside, Except.map] at isRead
      · next noBracket =>
          split at isRead
          · cases isRead
            have listed : ["String", "Int", "Float", "Boolean", "ID", "JSON"].contains
                (String.ofList (declaredCore typeRef.toList)) = true := by
              rw [isCore]
              simpa [Schema.scalarNames, Schema.jsonScalar] using isScalar
            rw [ofDeclared]
            split
            · rfl
            · split
              · next isBracket =>
                  rw [isCore, noBracket] at isBracket
                  cases isBracket
              · rw [listed]
                simp
          · cases isRead

end ContentGraph
