import ContentGraph.Decimal.Reader
import ContentGraph.Failure
import ContentGraph.Json.Object
import ContentGraph.Json.Printer
import ContentGraph.Regex.Reader
import ContentGraph.Text.Blank
import ContentGraph.Text.Split

/-!
Contract: the comparators of filters.

Owns:
- strict equality and loose order of a field with a target;
- patterns: regular ones with optional delimiters and flags, and wildcards, where `*` is any
  run of characters and `?` exactly one;
- `Comparator`, one constructor for each family of operations, made from an operation's name
  and its value, and the test of a field that may be absent.
-/

namespace ContentGraph.Filter

open ContentGraph.Json ContentGraph.Decimal ContentGraph.Regex

/-- Strict equality: an absent field equals nothing, two numbers are equal when their doubles
are, and other values when they are equivalent. -/
def strictEq (field : Option Value) (target : Value) : Bool :=
  match field, target with
  | none, _ => false
  | some (.number a), .number b =>
      match a.toDouble?, b.toDouble? with
      | some x, some y => x.sameValue y
      | none, none => true
      | _, _ => false
  | some a, b => a.equivalent b

/-- The number that a value stands for in an order comparison. -/
def looseNumber? : Value -> Option Extended
  | .number value => value.toDouble?.map .finite
  | .bool value => (Double.ofInt? (if value then 1 else 0)).map .finite
  | .null => some (.finite (.zero false))
  | .string text => Extended.ofText? (Text.trim text)
  | _ => none

/-- Loose order: two strings by their characters, anything else by the numbers it stands for. -/
def looseOrder? (field : Option Value) (target : Value) : Option Ordering := do
  match ← field, target with
  | .string a, .string b => some (compare a b)
  | a, b => (← looseNumber? a).order? (← looseNumber? b)

/-- The relations of loose order. -/
inductive Relation where
  | less
  | lessOrEqual
  | greater
  | greaterOrEqual
deriving DecidableEq

/-- Whether an order satisfies a relation. -/
def Relation.admits : Relation -> Ordering -> Bool
  | .less, order => order == .lt
  | .lessOrEqual, order => order != .gt
  | .greater, order => order == .gt
  | .greaterOrEqual, order => order != .lt

/-- A pattern's text without its delimiters, and its flags: slashes around a text count as
delimiters when only flag letters follow the last one. -/
def undelimited (source : String) : List Char × List Char :=
  match source.toList with
  | '/' :: rest =>
      match Text.splitAtLast? '/' rest with
      | some (pattern, flags) =>
          if flags.all "gimsuy".toList.contains then (pattern, flags) else (source.toList, [])
      | none => (source.toList, [])
  | chars => (chars, [])

/-- The pattern that a filter's text writes down. -/
def regexPattern? (source : String) : Option Pattern :=
  let (pattern, flags) := undelimited source
  Pattern.parse?
    { caseless := flags.contains 'i'
      multiline := flags.contains 'm'
      dotAll := flags.contains 's' }
    (String.ofList pattern)

/-- The pattern of one wildcard character. -/
def wildcardChar (c : Char) : Pattern :=
  if c = '*' then .repeated (.char .any) 0 none
  else if c = '?' then .char .any
  else .char (.single c)

/-- The pattern of a wildcard, which has to match the whole text. -/
def wildcardPattern (glob : String) : Pattern :=
  .seq (.assertion .textStart)
    (.seq (Pattern.sequence (glob.toList.map wildcardChar)) (.assertion .textEnd))

/-- A comparator.  `expected` is false for the negated operation of a pair. -/
inductive Comparator where
  /-- `eq` and `ne`. -/
  | equals (expected : Bool) (target : Value)
  /-- `lt`, `lte`, `gt` and `gte`. -/
  | ordered (relation : Relation) (target : Value)
  /-- `in` and `nin`. -/
  | amongst (expected : Bool) (candidates : Value)
  /-- `includes` and `excludes`. -/
  | including (expected : Bool) (item : Value)
  | regex (pattern : Pattern)
  | wildcard (pattern : Pattern)
  /-- `exists`: present and not null. -/
  | present (wanted : Value)
  /-- `strictlyExists`: present, if only as null. -/
  | strictlyPresent (wanted : Value)
deriving DecidableEq

namespace Comparator

/-- The comparator of a named operation. -/
def ofOperation (operation : String) (target : Value) : Except Failure Comparator :=
  match operation with
  | "eq" => .ok (.equals true target)
  | "ne" => .ok (.equals false target)
  | "lt" => .ok (.ordered .less target)
  | "lte" => .ok (.ordered .lessOrEqual target)
  | "gt" => .ok (.ordered .greater target)
  | "gte" => .ok (.ordered .greaterOrEqual target)
  | "in" => .ok (.amongst true target)
  | "nin" => .ok (.amongst false target)
  | "includes" => .ok (.including true target)
  | "excludes" => .ok (.including false target)
  | "regex" =>
      match target with
      | .string source =>
          match regexPattern? source with
          | some pattern => .ok (.regex pattern)
          | none => .error (.invalidRegex source)
      | _ => .error (.filterType "regex" .patternString)
  | "wildcard" =>
      match target with
      | .string glob => .ok (.wildcard (wildcardPattern glob))
      | _ => .error (.filterType "wildcard" .patternString)
  | "exists" => .ok (.present target)
  | "strictlyExists" => .ok (.strictlyPresent target)
  | other => .error (.unsupportedOperation other)

/-- Tests a field, which may be absent. -/
def test (comparator : Comparator) (field : Option Value) : Except Failure Bool :=
  match comparator with
  | .equals expected target => .ok (strictEq field target == expected)
  | .ordered relation target => .ok ((looseOrder? field target).any relation.admits)
  | .amongst expected candidates =>
      match candidates with
      | .array items => .ok (items.any (strictEq field) == expected)
      | _ => .error (.filterType (if expected then "in" else "nin") .arrayValue)
  | .including expected target =>
      match field with
      | some (.array items) => .ok (items.any (fun item => strictEq (some item) target) == expected)
      | _ => .error (.filterType (if expected then "includes" else "excludes") .arrayField)
  | .regex pattern =>
      match field with
      | none => .ok false
      | some .null => .ok false
      | some (.string text) => .ok (pattern.matchesIn text)
      | some other => .ok (pattern.matchesIn other.compact)
  | .wildcard pattern =>
      match field with
      | some (.string text) => .ok (pattern.matchesIn text)
      | _ => .ok false
  | .present wanted =>
      match wanted with
      | .bool expected => .ok ((field.any fun value => !value.isNull) == expected)
      | _ => .error (.filterType "exists" .booleanValue)
  | .strictlyPresent wanted =>
      match wanted with
      | .bool expected => .ok (field.isSome == expected)
      | _ => .error (.filterType "strictlyExists" .booleanValue)

end Comparator

end ContentGraph.Filter
