import Pinpoint.Record
import Pinpoint.Yaml.Scalar

/-!
# YAML documents

A list of records is written with a dash before the first field of each record and every field on
a line of its own. The names of fields are plain words.

**Limits.** A document can be written in many ways; this is how one writer does it that neither
sorts fields nor writes anything outside ASCII.

* `Yaml.render` — a document.
-/

namespace Pinpoint.Yaml

/-- A value from a column on. -/
def renderScalar (column : Nat) : Scalar → Text
  | .text t => renderText column t
  | .integer n => Text.ofInt n
  | .boolean b => if b then "true" else "false"

/-- A field on a line of its own, behind two characters that say whether a record starts. -/
def renderField (lead key : Text) (v : Scalar) : Text :=
  let start := lead ++ key ++ ": "
  start ++ renderScalar start.length v ++ ['\n']

/-- The fields of a record, the first of them behind `lead`. -/
def renderFields (lead : Text) : Record → Text
  | [] => []
  | (key, v) :: rest => renderField lead key v ++ renderFields "  " rest

/-- A record as an item of a list. -/
def renderRecord (r : Record) : Text :=
  if r = [] then "- \x7b\x7d\n" else renderFields "- " r

/-- A list of records. -/
def render (records : List Record) : Text :=
  if records = [] then "[]\n" else records.flatMap renderRecord

end Pinpoint.Yaml
