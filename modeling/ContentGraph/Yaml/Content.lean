import ContentGraph.Decimal.Reader
import ContentGraph.Json.Object
import ContentGraph.Yaml.Node

/-!
Contract: the values that YAML documents denote.

Owns:
- `PlainValue`, what a plain scalar means: null, booleans, integers in four bases with a bound of
  128 bits, floats, and everything else a string;
- the meaning of the standard tags for booleans, integers, floats and null;
- the value of a document: keys are always strings, a key that comes twice keeps its first place
  and its last value, and numbers that JSON cannot hold are null or refused;
- limits on nesting and on the use of aliases.
-/

namespace ContentGraph.Yaml

open ContentGraph.Json ContentGraph.Decimal

/-- What a plain scalar means. -/
inductive PlainValue where
  | null
  | bool (value : Bool)
  /-- An integer that 64 bits hold. -/
  | int (value : Int)
  /-- An integer beyond 64 bits that 128 bits hold. -/
  | largeInt
  | float (value : Extended)
  | string
deriving DecidableEq

namespace PlainValue

/-- The value of a digit in a base up to sixteen. -/
def digitValue? (base : Nat) (c : Char) : Option Nat :=
  let value :=
    if c.isDigit then c.toNat - 48
    else if 'a' ≤ c ∧ c ≤ 'f' then c.toNat - 87
    else if 'A' ≤ c ∧ c ≤ 'F' then c.toNat - 55
    else base
  if value < base then some value else none

/-- The natural number of a nonempty run of digits. -/
def natural? (base : Nat) (digits : List Char) : Option Nat :=
  if digits.isEmpty then none
  else (digits.mapM (digitValue? base)).map
    (·.foldl (fun total digit => total * base + digit) 0)

/-- Whether a text is a run of digits with a superfluous zero at its start. -/
def hasLeadingZero (text : List Char) : Bool :=
  let unsigned :=
    match text with
    | '-' :: rest => rest
    | '+' :: rest => rest
    | rest => rest
  match unsigned with
  | '0' :: first :: rest => (first :: rest).all Char.isDigit
  | _ => false

/-- The natural number of an unsigned or positive text, in the base that its start gives. -/
def unsigned? (text : List Char) : Option Nat :=
  let body :=
    match text with
    | '+' :: rest => rest
    | rest => rest
  let based :=
    match body with
    | '0' :: 'x' :: digits => natural? 16 digits
    | '0' :: 'o' :: digits => natural? 8 digits
    | '0' :: 'b' :: digits => natural? 2 digits
    | _ => none
  match based with
  | some value => some value
  | none => if hasLeadingZero text then none else natural? 10 body

/-- The magnitude of a negative text. -/
def negated? (text : List Char) : Option Nat :=
  match text with
  | '-' :: body =>
      let based :=
        match body with
        | '0' :: 'x' :: digits => natural? 16 digits
        | '0' :: 'o' :: digits => natural? 8 digits
        | '0' :: 'b' :: digits => natural? 2 digits
        | _ => none
      match based with
      | some value => some value
      | none => if hasLeadingZero text then none else natural? 10 body
  | _ => none

/-- The integer of a text, if 128 bits hold it. -/
def integer? (text : List Char) : Option PlainValue :=
  match unsigned? text with
  | some value =>
      if value < Nat.pow 2 64 then some (.int value)
      else if value < Nat.pow 2 128 then some .largeInt
      else none
  | none =>
      match negated? text with
      | some value =>
          if value ≤ Nat.pow 2 63 then some (.int (-(value : Int)))
          else if value ≤ Nat.pow 2 127 then some .largeInt
          else none
      | none => none

/-- The float of a text: the three spellings of infinity and of not-a-number after a point, or
a finite decimal. -/
def float? (text : String) : Option Extended :=
  let chars := text.toList
  let body :=
    match chars with
    | '+' :: '+' :: _ => none
    | '+' :: '-' :: _ => none
    | '+' :: rest => some rest
    | rest => some rest
  match body with
  | none => none
  | some body =>
      let named := String.ofList body
      if [".inf", ".Inf", ".INF"].contains named then some (.infinite false)
      else if ["-.inf", "-.Inf", "-.INF"].contains text then some (.infinite true)
      else if [".nan", ".NaN", ".NAN"].contains text then some .notANumber
      else
        match Extended.ofText? named with
        | some (.finite value) => some (.finite value)
        | _ => none

/-- The boolean of a text. -/
def bool? (text : String) : Option Bool :=
  if ["true", "True", "TRUE"].contains text then some true
  else if ["false", "False", "FALSE"].contains text then some false
  else none

/-- Whether a text is one of the spellings of null. -/
def isNullWord (text : String) : Bool :=
  ["null", "Null", "NULL", "~"].contains text

/-- What a plain scalar means. -/
def ofText (text : String) : PlainValue :=
  if text.isEmpty || isNullWord text then .null
  else
    match bool? text with
    | some value => .bool value
    | none =>
        match integer? text.toList with
        | some value => value
        | none =>
            if hasLeadingZero text.toList then .string
            else
              match float? text with
              | some value => .float value
              | none => .string

end PlainValue

/-- The JSON value of a float: null when it is not finite. -/
def jsonOfFloat : Extended -> Value
  | .finite value => .number (.double value)
  | _ => .null

/-- The JSON value of a plain scalar; integers beyond 64 bits have none. -/
def jsonOfPlain? (text : String) : Option Value :=
  match PlainValue.ofText text with
  | .null => some .null
  | .bool value => some (.bool value)
  | .int value => some (.ofInt value)
  | .largeInt => none
  | .float value => some (jsonOfFloat value)
  | .string => some (.string text)

/-- The JSON value of a scalar under its tag.  Local tags have none. -/
def jsonOfScalar? (tag : Option String) (isPlain : Bool) (text : String) : Option Value :=
  match tag with
  | none => if isPlain then jsonOfPlain? text else some (.string text)
  | some tag =>
      if tag.toList.head? = some '!' then none
      else
        match tag with
        | "tag:yaml.org,2002:bool" => (PlainValue.bool? text).map .bool
        | "tag:yaml.org,2002:int" =>
            match PlainValue.integer? text.toList with
            | some (.int value) => some (.ofInt value)
            | _ => none
        | "tag:yaml.org,2002:float" => (PlainValue.float? text).map jsonOfFloat
        | "tag:yaml.org,2002:null" => if PlainValue.isNullWord text then some .null else none
        | _ => some (.string text)

/-- Whether a tag is local to the document. -/
def isLocalTag : Option String -> Bool
  | some tag => tag.toList.head? == some '!'
  | none => false

/-- The text of a key, and the number of aliases used up to and with it. -/
def keyText? (anchored? : Nat -> Option Node) (uses : Nat) (key : Node) :
    Option (String × Nat) :=
  match key with
  | .scalar _ _ text => some (text, uses)
  | .alias number =>
      match anchored? number with
      | some (.scalar _ _ text) => some (text, uses + 1)
      | _ => none
  | _ => none

/-- The values of the items of a sequence, and the number of aliases used. -/
def itemsOf? (valueOf? : Nat -> Node -> Option (Value × Nat)) (uses : Nat) :
    List Node -> Option (List Value × Nat)
  | [] => some ([], uses)
  | item :: rest => do
      let (value, uses) ← valueOf? uses item
      let (values, uses) ← itemsOf? valueOf? uses rest
      some (value :: values, uses)

/-- The fields of a mapping after those already read, and the number of aliases used. -/
def fieldsOf? (anchored? : Nat -> Option Node)
    (valueOf? : Nat -> Node -> Option (Value × Nat)) (read : Object) (uses : Nat) :
    List (Node × Node) -> Option (Object × Nat)
  | [] => some (read, uses)
  | (key, item) :: rest => do
      let (name, uses) ← keyText? anchored? uses key
      let (value, uses) ← valueOf? uses item
      fieldsOf? anchored? valueOf? (Object.insert read name value) uses rest

/-- The node that an alias stands for, and the number of aliases used with it; any other node
stands for itself. -/
def target? (anchored? : Nat -> Option Node) (uses : Nat) : Node -> Option (Node × Nat)
  | .alias number => (anchored? number).map (·, uses + 1)
  | node => some (node, uses)

/-- The JSON value of a node that nests at most `depth` deep, and the number of aliases used up
to and with it, which stays within `most`. -/
def jsonOfNode? (anchored? : Nat -> Option Node) (most : Nat) (depth uses : Nat)
    (node : Node) : Option (Value × Nat) :=
  match target? anchored? uses node with
  | none => none
  | some (target, uses) =>
      if most < uses then none
      else
        match target, depth with
        | .scalar tag isPlain text, _ => (jsonOfScalar? tag isPlain text).map (·, uses)
        | .sequence tag items, depth + 1 =>
            if isLocalTag tag then none
            else
              (itemsOf? (jsonOfNode? anchored? most depth) uses items).map
                fun (read, uses) => (.array read, uses)
        | .mapping tag entries, depth + 1 =>
            if isLocalTag tag then none
            else
              (fieldsOf? anchored? (jsonOfNode? anchored? most depth) [] uses entries).map
                fun (read, uses) => (.object read, uses)
        | _, _ => none

/-- The nesting that a document may have. -/
def nestingLimit : Nat := 128

/-- The JSON value of the one document of a text; null when there is none. -/
def parse? (text : String) : Option Value := do
  let tokens ← tokens? text
  match ← Node.stream? tokens with
  | .empty => some .null
  | .document root progress =>
      let (value, _) ←
        jsonOfNode? progress.anchored? (100 * progress.size) nestingLimit 0 root
      some value

end ContentGraph.Yaml
