import ContentGraph.Failure
import ContentGraph.Text.Blank
import ContentGraph.Text.Naming

/-!
Contract: references to graph types.

Owns:
- `TypeRef`: a named type, a list, or a type that admits no null;
- its text, `[String!]!`, and the reader of such texts, which allows blanks around every part;
- the name at the core of a reference.
-/

namespace ContentGraph

/-- A reference to a graph type. -/
inductive TypeRef where
  | named (name : String)
  | list (element : TypeRef)
  | nonNull (inner : TypeRef)
deriving DecidableEq

namespace TypeRef

/-- The text of a reference. -/
def text : TypeRef -> String
  | .named name => name
  | .list element => "[" ++ text element ++ "]"
  | .nonNull inner => text inner ++ "!"

/-- The name at the core of a reference. -/
def core : TypeRef -> String
  | .named name => name
  | .list element => core element
  | .nonNull inner => core inner

/-- Whether a reference admits no null. -/
def isNonNull : TypeRef -> Bool
  | .nonNull _ => true
  | _ => false

/-- Whether characters form a graph name: letters, digits and underscores, no digit first. -/
def isName : List Char -> Bool
  | [] => false
  | first :: rest => (first.isAlpha || first = '_') && rest.all Text.isNameChar

/-- What stands inside brackets. -/
def bracketed? : List Char -> Option (List Char)
  | '[' :: rest => if rest.getLast? = some ']' then some rest.dropLast else none
  | _ => none

/-- What stands inside brackets is shorter. -/
theorem length_bracketed {text inner : List Char} (found : bracketed? text = some inner) :
    inner.length < text.length := by
  unfold bracketed? at found
  split at found
  · split at found
    · cases found
      simp only [List.length_cons, List.length_dropLast]
      omega
    · cases found
  · cases found

/-- Dropping characters from the end makes a text no longer. -/
theorem length_dropEndWhile (test : Char -> Bool) (text : List Char) :
    (Text.dropEndWhile test text).length ≤ text.length := by
  unfold Text.dropEndWhile
  have := (List.dropWhile_sublist test (l := text.reverse)).length_le
  simpa using this

/-- Trimming makes a text no longer. -/
theorem length_trimChars (text : List Char) : (Text.trimChars text).length ≤ text.length := by
  unfold Text.trimChars
  exact Nat.le_trans (length_dropEndWhile _ _) (List.dropWhile_sublist _).length_le

/-- Reads a reference: blanks go, a final mark makes it admit no null, brackets make a list,
and anything else has to be a name. -/
def parseChars (chars : List Char) : Except Failure TypeRef :=
  let trimmed := Text.trimChars chars
  if _marked : trimmed.getLast? = some '!' then
    (parseChars trimmed.dropLast).map .nonNull
  else
    match _bracket : bracketed? trimmed with
    | some inner => (parseChars inner).map .list
    | none =>
        if isName trimmed then .ok (.named (String.ofList trimmed))
        else .error (.graph (.typeReference (String.ofList trimmed)))
termination_by chars.length
decreasing_by
  · have shorter := length_trimChars chars
    have : trimmed ≠ [] := by
      intro empty
      simp [empty] at _marked
    have := List.length_pos_iff.mpr this
    simp only [List.length_dropLast]
    show trimmed.length - 1 < chars.length
    have : trimmed.length ≤ chars.length := shorter
    omega
  · have shorter := length_trimChars chars
    have := length_bracketed _bracket
    have : trimmed.length ≤ chars.length := shorter
    omega

/-- Reads a reference. -/
def parse (text : String) : Except Failure TypeRef :=
  parseChars text.toList

end TypeRef

end ContentGraph
