/-
Diagnostics are read back from their JSON. A diagnostic is written as an object of its fields in
their order, where an optional one that is absent is left out, and the reader takes what is left out
for absent. Codes, stages and severities are told apart by their names; the texts may hold any
characters.
-/
import AdaGlue.Diagnostic
import AdaGlue.Proofs.Json.Decoding

namespace AdaGlue.Diagnostic

open Json

/-- The values of the fields in their order, nothing for one that is left out. -/
def fieldValues (d : Diagnostic) : List (Option Json) :=
  [some (.string d.code.name), some (.string d.stage.name), some (.string d.severity.name),
   d.function.map .string, d.interface.map .string, some (.string d.message), d.help.map .string]

theorem toJson_eq_object (d : Diagnostic) :
    d.toJson = .object (membersOf ["code", "stage", "severity", "function", "interface", "message",
      "help"] d.fieldValues) := by
  obtain ⟨code, stage, severity, function, interface, message, help⟩ := d
  cases function <;> cases interface <;> cases help <;> rfl

theorem reads (d : Diagnostic) : Reads record.decode d.toJson d := by
  rw [toJson_eq_object]
  obtain ⟨code, stage, severity, function, interface, message, help⟩ := d
  have hcode : Reads (Decoder.variant (DiagnosticCode.all.map fun c => (c.name, c)))
      (.string code.name) code := .choice (by decide) (by cases code <;> decide)
  have hstage : Reads (Decoder.variant (Stage.all.map fun c => (c.name, c)))
      (.string stage.name) stage := .choice (by decide) (by cases stage <;> decide)
  have hseverity : Reads (Decoder.variant (Severity.all.map fun c => (c.name, c)))
      (.string severity.name) severity := .choice (by decide) (by cases severity <;> decide)
  refine Record.reads_of_some (r := record) (by decide) (.slot rfl hcode <| .slot rfl hstage <|
    .slot rfl hseverity <| .optional rfl <| .optional ?_ <| .slot ?_ (.string message) <|
    .optional ?_ .nil) ?_
  -- a slot is free whether those before it were filled or passed over
  · cases function <;> rfl
  · cases function <;> cases interface <;> rfl
  · cases function <;> cases interface <;> rfl
  · cases function <;> cases interface <;> cases help <;> rfl

/-- A diagnostic is written as an object with a member for each field, those apart that are absent,
and is read back from either written form of it. -/
theorem read_back_from_json (d : Diagnostic) :
    (∃ members, d.toJson = .object members ∧
      members.map (·.1) = ["code", "stage", "severity"] ++
        (if d.function = none then [] else ["function"]) ++
        (if d.interface = none then [] else ["interface"]) ++ ["message"] ++
        (if d.help = none then [] else ["help"])) ∧
    ofText (Text.bytes d.toJson.compact) = .ok d ∧
    ofText (Text.bytes d.toJson.pretty) = .ok d := by
  refine ⟨⟨_, d.toJson_eq_object, ?_⟩, decodeText_of_reads d.reads⟩
  obtain ⟨code, stage, severity, function, interface, message, help⟩ := d
  cases function <;> cases interface <;> cases help <;> rfl

end AdaGlue.Diagnostic
