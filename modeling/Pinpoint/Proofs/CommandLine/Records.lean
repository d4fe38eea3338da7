import Pinpoint.Proofs.CommandLine.Resolve
import Pinpoint.Proofs.Console.Lines
import Pinpoint.Proofs.Json.Reader

/-!
# Outcomes as records

What is printed of outcomes as JSON can be read back. Every argument has a record of its
own, which tells what the argument leads to or why it leads nowhere, and whether all of
them lead somewhere is also told by the exit code.

* `Told`: what a record tells.
* `ofJson?_outcomeJson`: a record tells what its outcome has to tell.
* `json_tells_outcomes`: what a whole run prints.
-/

namespace Pinpoint

/-! ## Specification -/

namespace Json

/-- The value of a field. -/
def field? (key : Text) : Json → Option Json
  | object fields => fields.lookup key
  | _ => none

/-- The value is an object that has no name twice. -/
def IsRecord : Json → Prop
  | object fields => (fields.map (·.1)).Nodup
  | _ => False

instance : (v : Json) → Decidable v.IsRecord
  | object fields => inferInstanceAs (Decidable (fields.map (·.1)).Nodup)
  | text _ | integer _ | boolean _ | list _ => inferInstanceAs (Decidable False)

/-- The text that a value is. -/
def text? : Json → Option Text
  | text t => some t
  | _ => none

/-- The truth value that a value is. -/
def boolean? : Json → Option Bool
  | boolean b => some b
  | _ => none

end Json

namespace CommandLine

/-- What a record tells of an argument: the kind and the path of what it leads to, with the position
if there is one, or the kind of the failure with its message. -/
structure Told where
  argument : Text
  result : Except (FailureKind × Text) (SpecifierKind × Text × Option Position)

/-- What an outcome has to tell. -/
def told (o : Outcome) : Told where
  argument := o.argument
  result :=
    match o.result with
    | .ok s => .ok (s.kind, s.path.render, s.position)
    | .error f => .error (f.kind, f.message)

namespace Told

/-- Reads the position of a record: a line and a column, or neither of them. -/
def position? (v : Json) : Option (Option Position) :=
  match v.field? "line", v.field? "column" with
  | none, none => some none
  | some (.integer line), some (.integer column) => some (some ⟨line, column⟩)
  | _, _ => none

/-- Reads a record. -/
def ofJson? (v : Json) : Option Told := do
  guard v.IsRecord
  let argument ← (v.field? "argument").bind Json.text?
  if ← (v.field? "ok").bind Json.boolean? then
    let kind ← ((v.field? "kind").bind Json.text?).bind SpecifierKind.ofName?
    let path ← (v.field? "path").bind Json.text?
    return ⟨argument, .ok (kind, path, ← position? v)⟩
  else
    let kind ← ((v.field? "error").bind Json.text?).bind FailureKind.ofName?
    let message ← (v.field? "message").bind Json.text?
    return ⟨argument, .error (kind, message)⟩

end Told

end CommandLine

namespace CommandLine

open Json (decode render isWritten_of_mem_renderAt decode_render)

variable {around : Surroundings} {tree : Tree} {args : List Text}

/-! ## One record -/

/-- The record of an outcome in JSON. -/
def outcomeJson (o : Outcome) : Json :=
  .object (o.record.map fun (key, v) => (key, v.toJson))

theorem ofJson?_outcomeJson (o : Outcome) : Told.ofJson? (outcomeJson o) = some (told o) := by
  obtain ⟨argument, f | s⟩ := o
  · obtain ⟨kind⟩ := f
    cases kind <;> rfl
  · cases s with
    | file path position => cases position <;> rfl
    | directory path => rfl

theorem field?_ok_outcomeJson (o : Outcome) :
    (outcomeJson o).field? "ok" = some (.boolean o.isOk) := rfl

/-! ## All records -/

theorem recordsToJson_outcomes (outcomes : List Outcome) :
    recordsToJson (outcomes.map (·.record)) = .list (outcomes.map outcomeJson) := by
  rw [recordsToJson, List.map_map]
  rfl

/-- JSON holds no control sequence. -/
theorem escape_notMem_render (v : Json) : '\x1b' ∉ render v := fun h =>
  absurd (isWritten_of_mem_renderAt v 0 _ h) (by decide)

theorem printOutcomes_json_run (outcomes : List Outcome) (j : Journal) :
    (printOutcomes "json" outcomes).run around j =
      ({ j with printed := j.printed ++
          (render (.list (outcomes.map outcomeJson)) ++ ['\n']) }, .ok ()) := by
  unfold printOutcomes
  rw [if_pos rfl, recordsToJson_outcomes, Console.printPlain_of_notMem (escape_notMem_render _),
    Action.write_run]

/-! ## The whole run -/

theorem ResolveRun.printed_json (r : ResolveRun around tree args) (hjson : r.format = "json") :
    decode (run around tree args).journal.printed = some (.list (r.outcomes.map outcomeJson)) := by
  obtain ⟨hjournal, -⟩ := r.report_eq (hjson ▸ printOutcomes_json_run r.outcomes r.ready)
  rw [hjournal, r.printed_ready]
  exact decode_render _

/-- The exit code is zero exactly where every argument was resolved. -/
theorem ResolveRun.code_json (r : ResolveRun around tree args) (hjson : r.format = "json") :
    (run around tree args).code = 0 ↔ ∀ o ∈ r.outcomes, o.isOk = true := by
  obtain ⟨-, hcode⟩ := r.report_eq (hjson ▸ printOutcomes_json_run r.outcomes r.ready)
  rw [hcode, ← List.all_eq_true]
  split_ifs with hall
  · simp [hall]
  · simp [hall]

/-- **Records in JSON.** A run that resolves arguments and prints JSON prints a list with one record
    for each argument, in order. A record tells its argument and, as the case may be, the kind and
    the path of what it leads to with the position, if there is one, or the kind and the message of
    the failure. The exit code is zero exactly where every record says that it is a success. -/
theorem json_tells_outcomes {around : Surroundings} {tree : Tree} {args : List Text}
    (r : ResolveRun around tree args) (hjson : r.format = "json") :
    let report := run around tree args
    ∃ records, decode report.journal.printed = some (.list records) ∧
      records.map Told.ofJson? = r.outcomes.map (fun o => some (told o)) ∧
      r.outcomes.map (·.argument) = r.asked.args ∧
      (report.code = 0 ↔ ∀ record ∈ records, record.field? "ok" = some (.boolean true)) := by
  intro report
  refine ⟨r.outcomes.map outcomeJson, r.printed_json hjson, ?_, r.arguments_eq, ?_⟩
  · rw [List.map_map]
    exact List.map_congr_left fun o _ => ofJson?_outcomeJson o
  · rw [r.code_json hjson, List.forall_mem_map]
    refine forall₂_congr fun o _ => ?_
    rw [field?_ok_outcomeJson, Option.some.injEq, Json.boolean.injEq]

/-- A file whose name JSON cannot hold as it is. -/
def quoteFiles : Table := Table.addEntry "/work/\"\\😀" .file {}

/-- The file is found with a line of it, and another one is not found. -/
def quoteRun : ResolveRun (workSurroundings quoteFiles) ⟨homeNodes⟩
    ["resolve", "--format", "json", "\"\\😀:3", "b"] :=
  workRun quoteFiles ["--format", "json", "\"\\😀:3", "b"] ["\"\\😀:3", "b"] (some "json") "json"
    [⟨"\"\\😀:3", .ok (.file ⟨.slash, ["work", "\"\\😀"]⟩ (some ⟨3, 1⟩))⟩,
      ⟨"b", .error { kind := .noMatch, argument := "/work/b".toList }⟩]
    (read_format (by decide) (by decide) (by decide)) rfl (by decide) rfl

/-- Quotes, backslashes and characters beyond the basic plane are read back. -/
theorem quotes_told_in_json :
    let report := run (workSurroundings quoteFiles) ⟨homeNodes⟩
      ["resolve", "--format", "json", "\"\\😀:3", "b"]
    ∃ records, decode report.journal.printed = some (.list records) ∧
      records.map Told.ofJson? = [
        some ⟨"\"\\😀:3", .ok (.file, "/work/\"\\😀", some ⟨3, 1⟩)⟩,
        some ⟨"b", .error (.noMatch, "\"/work/b\" is not a file or directory")⟩] ∧
      (report.code = 0 ↔ ∀ record ∈ records, record.field? "ok" = some (.boolean true)) := by
  obtain ⟨records, hdecode, htold, -, hcode⟩ := json_tells_outcomes quoteRun rfl
  exact ⟨records, hdecode, htold, hcode⟩

end CommandLine

end Pinpoint
