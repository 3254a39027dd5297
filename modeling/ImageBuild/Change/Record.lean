import ImageBuild.Json.Parser
import ImageBuild.Json.Printer
import ImageBuild.Reason
import ImageBuild.Text.Cut

/-!
# Change records

A payload is a JSON list of records, one for each change that led to a build.
Its values may be any JSON; the fields of their objects are in key order.
-/
namespace ImageBuild

structure ChangeRecord where
  reason : BuildReason
  old : Json
  new : Json
  deriving BEq, Repr

namespace ChangeRecord

def toJson (r : ChangeRecord) : Json :=
  .obj [("reason", r.reason.toJson), ("old", r.old), ("new", r.new)]

/-- The payload of a list of records. -/
def payload (rs : List ChangeRecord) : String := (Json.arr (rs.map toJson)).compact

/-- The names of the fields, in order. -/
def fieldNames : List String := ["reason", "old", "new"]

def ofParts (reason old new : Json) : Option ChangeRecord :=
  (BuildReason.decode reason.toDocument).map fun r => ⟨r, old.sorted, new.sorted⟩

/-- A record is an object, each of whose fields is given once, or the list of
its three fields. -/
def ofJson? : Json → Option ChangeRecord
  | .arr [reason, old, new] => ofParts reason old new
  | .obj fields =>
    match fields.filter fun f => fieldNames.contains f.1 with
    | [a, b, c] =>
      let known := Json.obj [a, b, c]
      match known.field? "reason", known.field? "old", known.field? "new" with
      | some reason, some old, some new => ofParts reason old new
      | _, _, _ => none
    | _ => none
  | _ => none

/-- How deep a part of a record in a payload may be nested. -/
def maxPartDepth : Nat := Json.maxDepth - 2

/-- The value of a part of a record. -/
def part? (w : Json.Written) : Option Json :=
  if w.depth ≤ maxPartDepth then w.value? else none

/-- The parts of an object that belong to a record. The others are left unread. -/
def knownFields? : List (List Json.StringUnit × Json.Written) → Option (List (String × Json))
  | [] => some []
  | (units, w) :: fs =>
    match Json.decodeString units with
    | none => none
    | some key =>
      if fieldNames.contains key then
        match part? w, knownFields? fs with
        | some v, some rest => some ((key, v) :: rest)
        | _, _ => none
      else knownFields? fs

/-- The record of a JSON text. -/
def ofWritten? : Json.Written → Option ChangeRecord
  | .array items => (items.mapM part?).bind fun vs => ofJson? (.arr vs)
  | .object fields => (knownFields? fields).bind fun fs => ofJson? (.obj fs)
  | _ => none

/-- The records of a payload; a blank payload has none. -/
def ofPayload? (payload : String) : Option (List ChangeRecord) :=
  if (Text.trim payload.toList).isEmpty then some []
  else
    match Json.read payload with
    | some (.array items) => items.mapM ofWritten?
    | _ => none

end ChangeRecord

end ImageBuild
