/-
The report of a run of `generate`, for other programs to read.
-/
import AdaGlue.Commit
import AdaGlue.Diagnostic

namespace AdaGlue.CommandLine

structure Report where
  ok : Bool
  mode : CommitMode
  files : List CommittedFile := []
  diagnostics : List Diagnostic := []
  deriving DecidableEq, Repr

namespace Report

/-- The report of a run that wrote nothing because of a fault in the model. -/
def refused (mode : CommitMode) (d : Diagnostic) : Report :=
  { ok := false, mode := mode, diagnostics := [d] }

/-- The status that the program ends with. -/
def exitCode (r : Report) : Nat :=
  if r.ok then 0 else 2

def toJson (r : Report) : Json :=
  .object
    [("schema_version", .string "ivglue.report@0.1.0"),
     ("command", .string "generate"),
     ("ok", .bool r.ok),
     ("exit_code", .number r.exitCode),
     ("middleware", .string "polyorb-hi-ada"),
     ("mode", .string r.mode.name),
     ("files", .array (r.files.map (·.toJson))),
     ("diagnostics", .array (r.diagnostics.map (·.toJson)))]

end Report

end AdaGlue.CommandLine
