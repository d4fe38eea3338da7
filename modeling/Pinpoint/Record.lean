import Pinpoint.Json
import Pinpoint.Resolver

/-!
# Records of outcomes

An outcome is reported to other programs as a record: the argument, whether it was resolved, and
then either what it names or why it names nothing.
-/

namespace Pinpoint

/-- A value of a record. -/
inductive Scalar
  | text (t : Text)
  | integer (n : Int)
  | boolean (b : Bool)
  deriving DecidableEq, Repr

/-- Named values in order. -/
abbrev Record := List (Text × Scalar)

/-- A value in JSON. -/
def Scalar.toJson : Scalar → Json
  | text t => .text t
  | integer n => .integer n
  | boolean b => .boolean b

/-- Records in JSON: a list of objects. -/
def recordsToJson (records : List Record) : Json :=
  .list (records.map fun r => .object (r.map fun (key, v) => (key, v.toJson)))

/-- What a specifier adds to a record (`PathSpecifier.to_dict`); there is a line only where there is
a position. -/
def Specifier.record (s : Specifier) : Record :=
  [("kind".toList, .text s.kind.name), ("path".toList, .text s.path.render)] ++
    match s.position with
    | none => []
    | some p => [("line".toList, .integer p.line), ("column".toList, .integer p.column)]

/-- What a failure adds to a record. -/
def Failure.record (f : Failure) : Record :=
  [("error".toList, .text f.kind.name), ("message".toList, .text f.message)]

/-- The record of an outcome (`_record`). -/
def Outcome.record (o : Outcome) : Record :=
  [("argument".toList, .text o.argument), ("ok".toList, .boolean o.isOk)] ++
    match o.result with
    | .ok s => s.record
    | .error f => f.record

end Pinpoint
