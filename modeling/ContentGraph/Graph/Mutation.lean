import ContentGraph.Content.Source
import ContentGraph.Digest.Blake3
import ContentGraph.Graph.Collection
import ContentGraph.Shape.Reduce

/-!
Contract: creating, updating and upserting records.

Owns:
- payloads with graph names turned back into content keys;
- the keys that no payload sets: what belongs to the system and to the record's file;
- `create`, `update` and `upsert`.  The source stores the record first, and the nodes change
  only when it has accepted it;
- the ids of records that come without one.
-/

namespace ContentGraph

open ContentGraph.Json

/-! ### Payloads -/

mutual

/-- A payload's value with content keys, named by the kind of its field. -/
def contentValue : Value -> Kind -> Value
  | .object fields, .object shape => .object (contentFields shape [] fields)
  | .array items, .list element => .array (contentItems element items)
  | value, _ => value

/-- The items of a list with content keys. -/
def contentItems (element : Kind) : List Value -> List Value
  | [] => []
  | item :: rest => contentValue item element :: contentItems element rest

/-- Fields with content keys, set one after another; names outside of the shape stay. -/
def contentFields (shape : Shape) (done : Object) : List (String × Value) -> Object
  | [] => done
  | (name, value) :: rest =>
      match shape.field? name with
      | some field =>
          contentFields shape (done.insert field.sourceKey (contentValue value field.kind)) rest
      | none => contentFields shape (done.insert name value) rest

end

/-- The keys that no payload sets. -/
def protectedKeys : List String :=
  ["_metadata", "_collection"] ++ metadataFields

/-- A record without the protected keys. -/
def stripProtected (record : Object) : Object :=
  protectedKeys.foldl Object.swapErase record

mutual

/-- A value whose objects, outside of arrays, have no null fields. -/
def stripNulls : Value -> Value
  | .object fields => .object (stripNullFields fields)
  | value => value

/-- Fields without those that are null, inside nested objects too. -/
def stripNullFields : List (String × Value) -> Object
  | [] => []
  | (key, value) :: rest =>
      if value.isNull then stripNullFields rest
      else (key, stripNulls value) :: stripNullFields rest

end

/-- Whether a record holds more than null under a key. -/
def isPresent (record : Object) (key : String) : Bool :=
  (record.find? key).any fun value => !value.isNull

namespace Collection

/-- The record that a payload describes, under content keys. -/
def payloadRecord (collection : Collection) (payload : Value) : Except Failure Object :=
  match payload with
  | .object fields => .ok (contentFields collection.shape [] fields)
  | _ => .error (.graph (.payloadNotObject collection.typeName))

/-- The comparable reference value of a record. -/
def recordKey? (collection : Collection) (record : Object) : Option String :=
  (record.find? collection.referenceField).bind Value.referenceKey?

/-- A new record with its reference value, which no node may have yet.  Only the field `id` is
filled in where it is missing. -/
def identify (collection : Collection) (nodes : List Value) (freshId : String)
    (record : Object) : Except Failure Object :=
  match collection.recordKey? record with
  | some key =>
      if nodes.any (collection.hasKey key) then
        .error (.referenceAlreadyExists collection.name collection.referenceField key)
      else .ok record
  | none =>
      if collection.referenceField = "id" then .ok (record.insert "id" (.string freshId))
      else .error (.missingRequiredField collection.name collection.referenceField)

/-- The record that a create stores. -/
def newRecord (collection : Collection) (nodes : List Value) (freshId : String)
    (payload : Value) : Except Failure Object := do
  let described ← collection.payloadRecord payload
  let record ← collection.identify nodes freshId (stripProtected described)
  match collection.entry.requiredFields.find? fun field => !isPresent record field with
  | some missing => .error (.missingRequiredField collection.name missing)
  | none => .ok record

/-- What an update lays over a node: nulls and the identity of the record are left out. -/
def changes (collection : Collection) (record : Object) : Object :=
  stripNullFields ((stripProtected record).swapErase collection.referenceField)

/-- The reference value of an update's payload, and the record that it stores. -/
def updatedRecord (collection : Collection) (nodes : List Value) (payload : Value) :
    Except Failure (String × Value) := do
  let record ← collection.payloadRecord payload
  match collection.recordKey? record with
  | none => .error (.missingRequiredField collection.name collection.referenceField)
  | some key =>
      match nodes.find? (collection.hasKey key) with
      | none => .error (.notFound collection.name collection.referenceField key)
      | some node => .ok (key, node.deepMerge (.object (collection.changes record)))

/-- The nodes with the first one of a reference value replaced. -/
def replaceKey (collection : Collection) (key : String) (replacement : Value) :
    List Value -> List Value
  | [] => []
  | node :: rest =>
      if collection.hasKey key node then replacement :: rest
      else node :: replaceKey collection key replacement rest

end Collection

/-! ### Ids -/

/-- The id of a number: sixteen bytes as hexadecimal text in groups, marked as random. -/
def idOfNumber (number : Nat) : String :=
  let digits := (Digest.Blake3.hashText (toString number)).toList
  let variant := (digits.drop 15).head?.map fun c =>
    if c.toNat % 4 = 0 then '8' else if c.toNat % 4 = 1 then '9'
    else if c.toNat % 4 = 2 then 'a' else 'b'
  String.ofList
    (digits.take 8 ++ '-' :: (digits.drop 8).take 4 ++ '-' :: '4' :: (digits.drop 12).take 3
      ++ '-' :: variant.toList ++ (digits.drop 16).take 3 ++ '-' :: (digits.drop 19).take 12)

/-! ### Mutations -/

/-- A graph whose records are written through a source with a state. -/
structure Runtime (State : Type) where
  graph : Graph
  state : State
  /-- The number whose id the next record without one gets. -/
  nextId : Nat
  /-- The ids of numbers, made up outside of the graph. -/
  idOf : Nat -> String := idOfNumber

namespace Runtime

variable {State : Type}

/-- The runtime with other nodes in a collection. -/
def setNodes (runtime : Runtime State) (name : String) (nodes : List Value) : Runtime State :=
  { runtime with graph := { runtime.graph with store := runtime.graph.store.setNodes name nodes } }

/-- Hands a record to the source; once it is stored, the nodes of its collection change. -/
def storeRecord (source : Content.Source State) (runtime : Runtime State)
    (collection : Collection) (record : Value) (place : Value -> List Value -> List Value) :
    Except Failure Value × Runtime State :=
  match source.put runtime.state collection.entry record with
  | (.error failure, state) => (.error failure, { runtime with state })
  | (.ok stored, state) =>
      (.ok stored, { runtime with state }.setNodes collection.name
        (place stored (runtime.graph.nodes collection.name)))

/-- Creates a record; its reference value has to be free and its required fields present. -/
def create (source : Content.Source State) (runtime : Runtime State) (name : String)
    (payload : Value) : Except Failure Value × Runtime State :=
  match runtime.graph.collection name with
  | .error failure => (.error failure, runtime)
  | .ok collection =>
      match collection.newRecord (runtime.graph.nodes name) (runtime.idOf runtime.nextId)
          payload with
      | .error failure => (.error failure, runtime)
      | .ok record =>
          storeRecord source { runtime with nextId := runtime.nextId + 1 } collection
            (.object record) fun stored nodes => nodes ++ [stored]

/-- Lays a payload over the first node with its reference value. -/
def update (source : Content.Source State) (runtime : Runtime State) (name : String)
    (payload : Value) : Except Failure Value × Runtime State :=
  match runtime.graph.collection name with
  | .error failure => (.error failure, runtime)
  | .ok collection =>
      match collection.updatedRecord (runtime.graph.nodes name) payload with
      | .error failure => (.error failure, runtime)
      | .ok (key, record) =>
          storeRecord source runtime collection record (collection.replaceKey key)

/-- Whether an update failed for want of a record, so that an upsert creates one. -/
def asksForCreate : Failure -> Bool
  | .notFound .. | .missingRequiredField .. => true
  | _ => false

/-- Updates the record with the payload's reference value, or creates it. -/
def upsert (source : Content.Source State) (runtime : Runtime State) (name : String)
    (payload : Value) : Except Failure Value × Runtime State :=
  match update source runtime name payload with
  | (.error failure, after) =>
      if asksForCreate failure then create source after name payload else (.error failure, after)
  | updated => updated

end Runtime

end ContentGraph
