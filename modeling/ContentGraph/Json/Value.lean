import ContentGraph.Decimal.Double

/-!
Contract: JSON values with ordered objects.

Owns:
- `Number`: an integer or a finite double, kept apart (`1` is not `1.0`);
- `Value`, whose objects are lists of fields in insertion order;
- decidable equality and the views of a value.

Does not own: the operations on objects (`Json.Object`), text (`Json.Printer`,
`Json.Reader`).
-/

namespace ContentGraph.Json

open ContentGraph.Decimal

/-- A number: an integer stays an integer, every other number is a finite double. -/
inductive Number where
  | int (value : Int)
  | double (value : Double)
deriving DecidableEq, Inhabited

/-- The nearest double. -/
def Number.toDouble? : Number -> Option Double
  | .int value => Double.ofInt? value
  | .double value => some value

/-- A JSON value.  Fields of an object keep the order in which they were inserted. -/
inductive Value where
  | null
  | bool (value : Bool)
  | number (value : Number)
  | string (value : String)
  | array (items : List Value)
  | object (fields : List (String × Value))
deriving Inhabited

/-- The fields of an object, in insertion order. -/
abbrev Object := List (String × Value)

namespace Value

mutual

/-- Equality of values is decidable. -/
def decideEq : (a b : Value) -> Decidable (a = b)
  | .null, .null => isTrue rfl
  | .bool a, .bool b => decidable_of_iff (a = b) (by simp)
  | .number a, .number b => decidable_of_iff (a = b) (by simp)
  | .string a, .string b => decidable_of_iff (a = b) (by simp)
  | .array a, .array b =>
      match decideEqItems a b with
      | isTrue same => isTrue (by simp [same])
      | isFalse differ => isFalse (by simp [differ])
  | .object a, .object b =>
      match decideEqFields a b with
      | isTrue same => isTrue (by simp [same])
      | isFalse differ => isFalse (by simp [differ])
  | .null, .bool _ | .null, .number _ | .null, .string _ | .null, .array _
  | .null, .object _ | .bool _, .null | .bool _, .number _ | .bool _, .string _
  | .bool _, .array _ | .bool _, .object _ | .number _, .null | .number _, .bool _
  | .number _, .string _ | .number _, .array _ | .number _, .object _
  | .string _, .null | .string _, .bool _ | .string _, .number _ | .string _, .array _
  | .string _, .object _ | .array _, .null | .array _, .bool _ | .array _, .number _
  | .array _, .string _ | .array _, .object _ | .object _, .null | .object _, .bool _
  | .object _, .number _ | .object _, .string _ | .object _, .array _ =>
      isFalse (by simp)

/-- Equality of item lists is decidable. -/
def decideEqItems : (a b : List Value) -> Decidable (a = b)
  | [], [] => isTrue rfl
  | [], _ :: _ => isFalse (by simp)
  | _ :: _, [] => isFalse (by simp)
  | x :: xs, y :: ys =>
      match decideEq x y, decideEqItems xs ys with
      | isTrue first, isTrue rest => isTrue (by simp [first, rest])
      | isFalse differ, _ => isFalse (by simp [differ])
      | _, isFalse differ => isFalse (by simp [differ])

/-- Equality of field lists is decidable. -/
def decideEqFields : (a b : List (String × Value)) -> Decidable (a = b)
  | [], [] => isTrue rfl
  | [], _ :: _ => isFalse (by simp)
  | _ :: _, [] => isFalse (by simp)
  | (k, x) :: xs, (l, y) :: ys =>
      if sameKey : k = l then
        match decideEq x y, decideEqFields xs ys with
        | isTrue first, isTrue rest => isTrue (by simp [sameKey, first, rest])
        | isFalse differ, _ => isFalse (by simp [differ])
        | _, isFalse differ => isFalse (by simp [differ])
      else
        isFalse (by simp [sameKey])

end

instance : DecidableEq Value := decideEq

/-- The integer `value` as a value. -/
def ofInt (value : Int) : Value :=
  .number (.int value)

/-- Whether a value is an object. -/
def isObject : Value -> Bool
  | .object _ => true
  | _ => false

/-- Whether a value is null. -/
def isNull : Value -> Bool
  | .null => true
  | _ => false

/-- The fields of an object. -/
def fields? : Value -> Option Object
  | .object fields => some fields
  | _ => none

/-- The items of an array. -/
def items? : Value -> Option (List Value)
  | .array items => some items
  | _ => none

/-- The text of a string. -/
def text? : Value -> Option String
  | .string text => some text
  | _ => none

/-- The truth value of a boolean. -/
def truth? : Value -> Option Bool
  | .bool value => some value
  | _ => none

/-- The value of an integer within the signed 64-bit range. -/
def int64? : Value -> Option Int
  | .number (.int value) =>
      if -(Nat.pow 2 63) ≤ value ∧ value < Nat.pow 2 63 then some value else none
  | _ => none

end Value

end ContentGraph.Json
