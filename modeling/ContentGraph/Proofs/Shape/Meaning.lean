import ContentGraph.Proofs.Shape.Merge

/-!
Contract: what a kind says about values, apart from the order in which it was observed.

Owns:
- `Meaning`: nesting of lists counted apart from what stands inside them, fields by name, and free
  JSON without a nesting of its own;
- `join`, commutative and associative;
- `meaning_merge`: merging kinds joins their meanings.

The merge itself is not associative: free JSON that meets a list takes the list's place, and a list
that meets two scalars of different forms keeps its own.  Meanings leave out just this nesting.
-/

namespace ContentGraph

namespace Scalar

theorem widen_comm (left right : Scalar) : left.widen right = right.widen left := by
  cases left <;> cases right <;> rfl

theorem widen_assoc (first second third : Scalar) :
    (first.widen second).widen third = first.widen (second.widen third) := by
  cases first <;> cases second <;> cases third <;> rfl

end Scalar

/-- What a kind says: how deep lists are nested, and what stands inside the innermost. -/
inductive Meaning where
  /-- No field of the name was seen. -/
  | absent
  /-- Values of different forms were seen. -/
  | mixed
  | unknown (depth : Nat)
  | scalar (depth : Nat) (form : Scalar)
  | object (depth : Nat) (fields : String -> Meaning)

namespace Meaning

/-- Free JSON says no more than that values are mixed. -/
def ofScalar (depth : Nat) : Scalar -> Meaning
  | .json => .mixed
  | form => .scalar depth form

/-- The meaning of a list of such values. -/
def deepen : Meaning -> Meaning
  | .absent => .absent
  | .mixed => .mixed
  | .unknown depth => .unknown (depth + 1)
  | .scalar depth form => .scalar (depth + 1) form
  | .object depth fields => .object (depth + 1) fields

/-- What two kinds say together. -/
def join : Meaning -> Meaning -> Meaning
  | .absent, other => other
  | .mixed, _ => .mixed
  | .unknown depth, .unknown deep => .unknown (max depth deep)
  | .unknown depth, .scalar deep form => .scalar (max depth deep) form
  | .unknown depth, .object deep fields => .object (max depth deep) fields
  | .scalar depth form, .unknown deep => .scalar (max depth deep) form
  | .scalar depth form, .scalar deep other => .ofScalar (max depth deep) (form.widen other)
  | .object depth fields, .unknown deep => .object (max depth deep) fields
  | .object depth fields, .object deep others =>
      .object (max depth deep) fun name => join (fields name) (others name)
  | .scalar _ _, .object _ _ => .mixed
  | .object _ _, .scalar _ _ => .mixed
  | own, .absent => own
  | _, .mixed => .mixed

variable {meaning left right : Meaning} {depth deep : Nat} {form : Scalar}
  {fields : String -> Meaning}

attribute [local simp] join

@[simp] theorem join_absent (meaning : Meaning) : meaning.join .absent = meaning := by
  cases meaning <;> simp

@[simp] theorem join_mixed (meaning : Meaning) : meaning.join .mixed = .mixed := by
  cases meaning <;> simp

@[simp] theorem absent_join (meaning : Meaning) : absent.join meaning = meaning := by
  simp

@[simp] theorem mixed_join (meaning : Meaning) : mixed.join meaning = .mixed := by
  simp

theorem join_comm (left right : Meaning) : left.join right = right.join left := by
  induction left generalizing right with
  | absent => simp
  | mixed => simp
  | unknown depth => cases right <;> simp [Nat.max_comm]
  | scalar depth form => cases right <;> simp [Nat.max_comm, Scalar.widen_comm form]
  | object depth fields inductionHypothesis =>
      cases right with
      | object deep others =>
          simp only [join, Nat.max_comm depth, inductionHypothesis]
      | _ => simp [Nat.max_comm]

/-! ### Free JSON inside a join -/

@[simp] theorem ofScalar_join_unknown :
    (ofScalar depth form).join (.unknown deep) = ofScalar (max depth deep) form := by
  cases form <;> simp [ofScalar]

@[simp] theorem ofScalar_join_scalar {other : Scalar} :
    (ofScalar depth form).join (.scalar deep other) =
      ofScalar (max depth deep) (form.widen other) := by
  cases form <;> cases other <;> simp [ofScalar, Scalar.widen]

@[simp] theorem ofScalar_join_object :
    (ofScalar depth form).join (.object deep fields) = .mixed := by
  cases form <;> simp [ofScalar]

@[simp] theorem unknown_join_ofScalar :
    (unknown deep).join (ofScalar depth form) = ofScalar (max deep depth) form := by
  rw [join_comm, ofScalar_join_unknown, Nat.max_comm]

@[simp] theorem scalar_join_ofScalar {other : Scalar} :
    (scalar deep other).join (ofScalar depth form) =
      ofScalar (max deep depth) (other.widen form) := by
  rw [join_comm, ofScalar_join_scalar, Nat.max_comm, Scalar.widen_comm]

@[simp] theorem object_join_ofScalar :
    (object deep fields).join (ofScalar depth form) = .mixed := by
  rw [join_comm, ofScalar_join_object]

theorem join_assoc (first second third : Meaning) :
    (first.join second).join third = first.join (second.join third) := by
  induction first generalizing second third with
  | absent => simp
  | mixed => simp
  | unknown depth => cases second <;> cases third <;> simp [Nat.max_assoc]
  | scalar depth form =>
      cases second <;> cases third <;> simp [Nat.max_assoc, Scalar.widen_assoc]
  | object depth fields inductionHypothesis =>
      cases second <;> cases third <;> simp [Nat.max_assoc, inductionHypothesis]

theorem join_right_comm (first second third : Meaning) :
    (first.join second).join third = (first.join third).join second := by
  rw [join_assoc, join_comm second, ← join_assoc]

/-! ### Lists -/

@[simp] theorem deepen_absent : absent.deepen = absent := rfl

@[simp] theorem deepen_mixed : mixed.deepen = mixed := rfl

@[simp] theorem deepen_unknown : (unknown depth).deepen = unknown (depth + 1) := rfl

@[simp] theorem deepen_scalar : (scalar depth form).deepen = scalar (depth + 1) form := rfl

@[simp] theorem deepen_object : (object depth fields).deepen = object (depth + 1) fields := rfl

@[simp] theorem deepen_ofScalar : (ofScalar depth form).deepen = ofScalar (depth + 1) form := by
  cases form <;> rfl

theorem deepen_join (left right : Meaning) :
    (left.join right).deepen = left.deepen.join right.deepen := by
  cases left <;> cases right <;> simp

end Meaning

/-! ### The meaning of a kind -/

namespace Kind

mutual

/-- What a kind says.  A computed field is compared with nothing and counts as mixed. -/
def meaning : Kind -> Meaning
  | .unknown => .unknown 0
  | .scalar form => .ofScalar 0 form
  | .list element => (meaning element).deepen
  | .object fields => .object 0 fun name => meaningAt fields name
  | .resolved _ => .mixed

/-- What a shape says about a name. -/
def meaningAt : List Field -> String -> Meaning
  | [], _ => .absent
  | .mk key _ kind :: rest, name => if key = name then meaning kind else meaningAt rest name

end

theorem meaningAt_eq (fields : Shape) (name : String) :
    meaningAt fields name = ((fields.field? name).map (·.kind.meaning)).getD .absent := by
  induction fields with
  | nil => rfl
  | cons first rest inductionHypothesis =>
      obtain ⟨key, sourceKey, kind⟩ := first
      by_cases same : key = name
      · simp [meaningAt, Shape.field?, Field.name, Field.kind, same]
      · simpa [meaningAt, Shape.field?, Field.name, same] using inductionHypothesis

theorem meaning_ne_absent : ∀ kind : Kind, kind.meaning ≠ .absent
  | .unknown => nofun
  | .scalar form => by cases form <;> simp [meaning, Meaning.ofScalar]
  | .list element => by
      have inside := meaning_ne_absent element
      rw [meaning]
      cases said : element.meaning <;> simp [said] at inside ⊢
  | .object _ => by simp [meaning]
  | .resolved _ => by simp [meaning]

theorem meaningAt_eq_absent_iff {fields : Shape} {name : String} :
    meaningAt fields name = .absent ↔ fields.field? name = none := by
  rw [meaningAt_eq]
  cases fields.field? name with
  | none => simp
  | some field => simpa using meaning_ne_absent field.kind

/-- A list takes in what a single value says. -/
private theorem deepen_join_single {single : Kind} (isSingle : Single single) {said : Meaning}
    (present : said ≠ .absent) :
    (said.join single.meaning).deepen = said.deepen.join single.meaning := by
  cases isSingle <;> cases said <;> simp [meaning, Meaning.join] at present ⊢

private theorem meaning_merged {left right merge : Kind} (merged : Merged left right merge) :
    merge.meaning = left.meaning.join right.meaning := by
  induction merged with
  | computedLeft => simp [meaning]
  | computedRight => simp [meaning]
  | unknownLeft other =>
      have present := meaning_ne_absent other
      cases said : other.meaning <;> simp [meaning, Meaning.join, said] at present ⊢
  | unknownRight other =>
      have present := meaning_ne_absent other
      cases said : other.meaning <;> simp [meaning, Meaning.join, said] at present ⊢
  | scalars left right => cases left <;> cases right <;> rfl
  | scalarObject form fields => cases form <;> simp [meaning, Meaning.ofScalar, Meaning.join]
  | objectScalar fields form => cases form <;> simp [meaning, Meaning.ofScalar, Meaning.join]
  | jsonList element => simp [meaning, Meaning.ofScalar]
  | listJson element => simp [meaning, Meaning.ofScalar]
  | lists elements inductionHypothesis =>
      rw [meaning, inductionHypothesis, Meaning.deepen_join, ← meaning, ← meaning]
  | @listSingle element single widened isSingle taken inductionHypothesis =>
      rw [meaning, inductionHypothesis, deepen_join_single isSingle (meaning_ne_absent element),
        ← meaning]
  | @singleList element single widened isSingle taken inductionHypothesis =>
      rw [meaning, inductionHypothesis, deepen_join_single isSingle (meaning_ne_absent element),
        ← meaning, Meaning.join_comm]
  | @objects left right shared inductionHypothesis =>
      simp only [meaning, Meaning.join, Nat.max_self, Meaning.object.injEq, true_and]
      funext name
      rw [meaningAt_eq, meaningAt_eq, meaningAt_eq, Shape.field?_merge]
      cases foundMine : left.field? name with
      | none => simp [Field.merge?]
      | some mine =>
          cases foundTheirs : right.field? name with
          | none => simp [Field.merge?, Field.absorb]
          | some theirs =>
              obtain ⟨member, named⟩ := Shape.mem_of_field? foundMine
              have joined := inductionHypothesis mine member theirs (named ▸ foundTheirs)
              simpa [Field.merge?, Field.absorb, Field.kind] using joined

/-- Merging kinds joins their meanings. -/
theorem meaning_merge (left right : Kind) :
    (left.merge right).meaning = left.meaning.join right.meaning :=
  meaning_merged (merged left right)

/-- Merging shapes joins what they say about each name. -/
theorem meaningAt_merge (left right : Shape) (name : String) :
    meaningAt (left.merge right) name = (meaningAt left name).join (meaningAt right name) := by
  have joined := meaning_merge (.object left) (.object right)
  simp only [merge_objects, meaning, Meaning.join, Meaning.object.injEq] at joined
  exact congrFun joined.2 name

end Kind

end ContentGraph
