/-
Diagnostics: what the generator has to say about a view, with the stage that found it, how serious
it is and where it belongs. The catalog lists every code with its usual message.
-/
import AdaGlue.Json.Decode
import AdaGlue.Json.Value

namespace AdaGlue

inductive Severity where
  | error
  | warning
  | info
  deriving DecidableEq, Repr

namespace Severity

def all : List Severity := [.error, .warning, .info]

def name : Severity → String
  | .error => "error"
  | .warning => "warning"
  | .info => "info"

def title : Severity → String
  | .error => "Error"
  | .warning => "Warning"
  | .info => "Info"

end Severity

/-- The step of a run that a diagnostic comes from. -/
inductive Stage where
  | model
  | resolve
  | route
  | emit
  | commit
  deriving DecidableEq, Repr

namespace Stage

def all : List Stage := [.model, .resolve, .route, .emit, .commit]

def name : Stage → String
  | .model => "model"
  | .resolve => "resolve"
  | .route => "route"
  | .emit => "emit"
  | .commit => "commit"

def title : Stage → String
  | .model => "Model"
  | .resolve => "Resolve"
  | .route => "Route"
  | .emit => "Emit"
  | .commit => "Commit"

end Stage

/-- The kinds of diagnostics. -/
inductive DiagnosticCode where
  | deadCode
  | invalidModel
  | missingDestination
  | unsupportedBinding
  | missingSibling
  | threadWithoutProcess
  | skeletonPreserved
  deriving DecidableEq, Repr

namespace DiagnosticCode

def all : List DiagnosticCode :=
  [.deadCode, .invalidModel, .missingDestination, .unsupportedBinding, .missingSibling,
   .threadWithoutProcess, .skeletonPreserved]

def name : DiagnosticCode → String
  | .deadCode => "IVG0001"
  | .invalidModel => "IVG0010"
  | .missingDestination => "IVG0100"
  | .unsupportedBinding => "IVG0110"
  | .missingSibling => "IVG0120"
  | .threadWithoutProcess => "IVG0130"
  | .skeletonPreserved => "IVG0200"

def summary : DiagnosticCode → String
  | .deadCode => "passive function makes a synchronous call but has no calling thread"
  | .invalidModel => "inconsistent interface model"
  | .missingDestination => "output destination is not open"
  | .unsupportedBinding => "unsupported cross-language combination"
  | .missingSibling => "artificial function has no matching synchronous required interface"
  | .threadWithoutProcess => "thread is not deployed on any process"
  | .skeletonPreserved => "user code not overwritten"

def help? : DiagnosticCode → Option String
  | .deadCode =>
    some ("Connect a thread to the function, or deploy it on a runtime that supports uncalled " ++
      "passive functions.")
  | .unsupportedBinding =>
    some ("Wrappers are produced by the alternate generator for this binding; nothing is emitted " ++
      "here.")
  | .threadWithoutProcess =>
    some ("Bind the function to a partition in the deployment view so its output port can be " ++
      "flushed.")
  | _ => none

def severity : DiagnosticCode → Severity
  | .deadCode | .invalidModel => .error
  | .skeletonPreserved => .info
  | _ => .warning

def stage : DiagnosticCode → Stage
  | .deadCode => .resolve
  | .invalidModel => .model
  | .unsupportedBinding | .missingSibling | .threadWithoutProcess => .route
  | .missingDestination => .emit
  | .skeletonPreserved => .commit

end DiagnosticCode

structure Diagnostic where
  code : DiagnosticCode
  stage : Stage
  severity : Severity
  function : Option String := none
  interface : Option String := none
  message : String
  help : Option String := none
  deriving DecidableEq, Repr

namespace Diagnostic

/-- A diagnostic with the usual stage, severity and help of its code. -/
def ofCode (code : DiagnosticCode) (message : String) : Diagnostic where
  code := code
  stage := code.stage
  severity := code.severity
  message := message
  help := code.help?

def atFunction (d : Diagnostic) (function : String) : Diagnostic :=
  { d with function := some function }

def atInterface (d : Diagnostic) (function interface : String) : Diagnostic :=
  { d with function := some function, interface := some interface }

/-- Where the diagnostic belongs; an interface is named only behind its function. -/
def place (d : Diagnostic) : String :=
  match d.function, d.interface with
  | some f, some i => " (at " ++ f ++ "." ++ i ++ ")"
  | some f, none => " (at " ++ f ++ ")"
  | none, _ => ""

def hint (d : Diagnostic) : String :=
  match d.help with
  | some help => "\n  help: " ++ help
  | none => ""

/-- The diagnostic as a reader sees it. -/
def text (d : Diagnostic) : String :=
  d.code.name ++ " " ++ d.stage.title ++ " " ++ d.severity.title ++ ": " ++ d.message ++ d.place ++
    d.hint

/-! ## As JSON -/

/-- A member for a text that is there. -/
def optionalMember (name : String) : Option String → List (String × Json)
  | some s => [(name, .string s)]
  | none => []

/-- What is absent is left out. -/
def toJson (d : Diagnostic) : Json :=
  .object ([("code", .string d.code.name), ("stage", .string d.stage.name),
    ("severity", .string d.severity.name)] ++ optionalMember "function" d.function ++
    optionalMember "interface" d.interface ++ [("message", .string d.message)] ++
    optionalMember "help" d.help)

/-- The fields of a diagnostic that have been read. -/
structure Draft where
  code : Option DiagnosticCode := none
  stage : Option Stage := none
  severity : Option Severity := none
  function : Option (Option String) := none
  interface : Option (Option String) := none
  message : Option String := none
  help : Option (Option String) := none

open Json.Decoder in
/-- How a diagnostic is written. Its optional fields may be left out of an object, not of an
array. -/
def record : Json.Record Draft Diagnostic where
  name := "Diagnostic"
  fields :=
    [.slot "code" false (·.code) (fun s v => { s with code := some v })
      (variant (DiagnosticCode.all.map fun c => (c.name, c))),
     .slot "stage" false (·.stage) (fun s v => { s with stage := some v })
      (variant (Stage.all.map fun c => (c.name, c))),
     .slot "severity" false (·.severity) (fun s v => { s with severity := some v })
      (variant (Severity.all.map fun c => (c.name, c))),
     .slot "function" false (·.function) (fun s v => { s with function := some v })
      (optional string),
     .slot "interface" false (·.interface) (fun s v => { s with interface := some v })
      (optional string),
     .slot "message" false (·.message) (fun s v => { s with message := some v }) string,
     .slot "help" false (·.help) (fun s v => { s with help := some v }) (optional string)]
  start := {}
  finish s := do
    return {
      code := ← Json.required "code" s.code
      stage := ← Json.required "stage" s.stage
      severity := ← Json.required "severity" s.severity
      function := s.function.getD none
      interface := s.interface.getD none
      message := ← Json.required "message" s.message
      help := s.help.getD none }

/-- The diagnostic that a text holds. -/
def ofText (bytes : List UInt8) : Json.Decoded Diagnostic :=
  Json.decodeText record.decode bytes

/-! ## The catalog -/

/-- The row of a code in the catalog. -/
def catalogRow (code : DiagnosticCode) : String :=
  "| " ++ code.name ++ " | " ++ code.stage.title ++ " | " ++ code.severity.title ++ " | " ++
    code.summary ++ " | " ++ code.help?.getD "" ++ " |\n"

/-- All codes as a table in Markdown. -/
def catalog : String :=
  "# ivglue diagnostics catalog\n\n" ++
    "| Code | Stage | Severity | Message | Help |\n" ++
    "| ---- | ----- | -------- | ------- | ---- |\n" ++
    String.join (DiagnosticCode.all.map catalogRow)

end Diagnostic

end AdaGlue
