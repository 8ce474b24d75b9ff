/-
What a command does and prints. A fault of the model is a diagnostic, and part of the report if one
is asked for; any other failure is a line of text. Nothing is written before all text has been
generated.
-/
import AdaGlue.CommandLine.Arguments
import AdaGlue.CommandLine.Report
import AdaGlue.Config
import AdaGlue.Run
import AdaGlue.View.Document

namespace AdaGlue.CommandLine

/-- What the caller of the program sees of it. -/
structure Outcome where
  exitCode : Nat
  stdout : String := ""
  stderr : String := ""
  deriving DecidableEq, Repr

/-! ## Failures -/

/-- Why a run ends without a report. -/
inductive Failure where
  | configUnreadable (path reason : String)
  | configUnfit (path : String) (e : ConfigTextError)
  | configBackend (path : String) (u : Backend.Unknown)
  | modelUnreadable (path reason : String)
  | modelUnfit (path : String) (e : ViewTextError)
  | commit (e : CommitError)
  deriving DecidableEq, Repr

namespace Failure

/-- What went wrong. -/
def headline : Failure → String
  | .configUnreadable path _ => "[IVGCONFIG_READ] read config: " ++ path
  | .configUnfit path e => e.headline path
  | .configBackend path _ => "config: " ++ path
  | .modelUnreadable path _ => "[IVGMODEL_READ] read model: " ++ path
  | .modelUnfit path e => e.headline path
  | .commit e => e.headline

/-- Why it did, where the headline leaves that open. -/
def cause? : Failure → Option String
  | .configUnreadable _ reason | .modelUnreadable _ reason => some reason
  | .configUnfit _ e => e.cause?
  | .configBackend _ u => some u.message
  | .modelUnfit _ e => e.cause?
  | .commit e => e.cause?

def text (f : Failure) : String :=
  match f.cause? with
  | some cause => f.headline ++ ": " ++ cause
  | none => f.headline

end Failure

/-! ## Options from the configuration and the command line -/

/-- The options of a configuration with those of the command line on top. -/
def GenerateArguments.amend (a : GenerateArguments) (o : Options) : Options where
  concurrencyViewOnly := o.concurrencyViewOnly || a.concurrencyViewOnly
  middlewareInC := o.middlewareInC || a.middlewareInC
  backends := if a.backends.isEmpty then o.backends else (OrderedSet.ofList a.backends).toList

def GenerateArguments.mode (a : GenerateArguments) : CommitMode :=
  if a.check then .check else .write

variable {m : Type → Type} [Monad m] [Disk m]

def loadConfig (path : String) : ExceptT Failure m Config := ExceptT.mk do
  match ← (Disk.load Config.ofText path : m _) with
  | .ok c => return .ok c
  | .error (.unreadable reason) => return .error (.configUnreadable path reason)
  | .error (.unfit e) => return .error (.configUnfit path e)

/-- The options of the configuration, if there is one, and the directory that it names. -/
def configured : Option String → ExceptT Failure m (Options × Option String)
  | none => return ({}, none)
  | some path => do
    let c ← loadConfig path
    match c.toOptions with
    | .ok o => return (o, c.outputDir path)
    | .error u => throw (.configBackend path u)

/-- The options of the run and the root of its output: the one of the command line, else the one
of the configuration, else the working directory. -/
def plan (a : GenerateArguments) : ExceptT Failure m (Options × String) := do
  let (o, dir) ← configured a.config
  return (a.amend o, (a.out.or dir).getD ".")

/-! ## Commands -/

/-- The view at the path, or the first fault of what stands there. -/
def loadView (path : String) : ExceptT Failure m (Except ViewError View) := ExceptT.mk do
  match ← (Disk.load View.ofText path : m _) with
  | .ok v => return .ok (.ok v)
  | .error (.unfit (.inconsistent e)) => return .ok (.error e)
  | .error (.unfit e) => return .error (.modelUnfit path e)
  | .error (.unreadable reason) => return .error (.modelUnreadable path reason)

/-- Generates the text of a view and commits it below the root. -/
def generateBelow (root : String) (mode : CommitMode) (o : Options) (v : View) :
    ExceptT Failure m Report := do
  let setting ← (Setting.below root v o : m Setting)
  match setting.generate with
  | .error dead => return .refused mode dead.diagnostic
  | .ok output =>
    let files ← (commit root mode output.files : ExceptT CommitError m _).adapt Failure.commit
    return { ok := true, mode, files, diagnostics := output.diagnostics }

/-- Runs `generate` up to its report. -/
def generate (a : GenerateArguments) : ExceptT Failure m Report := do
  let (o, root) ← plan a
  match ← loadView a.model with
  | .error e => return .refused a.mode e.diagnostic
  | .ok v => generateBelow root a.mode o v

/-- What a run that ended in a report prints: the report if it is asked for, else the faults that
ended the run. -/
def Report.outcome (r : Report) (asked : Bool) : Outcome where
  exitCode := r.exitCode
  stdout := if asked then r.toJson.compact ++ "\n" else ""
  stderr := if asked || r.ok then "" else String.join (r.diagnostics.map (·.text ++ "\n"))

def Failure.outcome (f : Failure) : Outcome where
  exitCode := 2
  stderr := f.text ++ "\n"

/-- The codes of all diagnostics, the names of members in order. -/
def catalogJson : Json :=
  .object
    [("codes", .array (DiagnosticCode.all.map fun c =>
      .object
        [("code", .string c.name),
         ("help", .ofOption c.help?),
         ("message", .string c.summary),
         ("severity", .string c.severity.name),
         ("stage", .string c.stage.name)])),
     ("schema_version", .string "ivglue.diag@0.1.0")]

def Stop.outcome : Stop → Outcome
  | .help => { exitCode := 0, stdout := usage }
  | .misuse => { exitCode := 2, stderr := usage }

/-- Runs a command. -/
def Command.run : Command → m Outcome
  | .generate a => do
    match ← (CommandLine.generate a : ExceptT Failure m Report).run with
    | .ok r => return r.outcome a.reportJson
    | .error f => return f.outcome
  | .diagnostics false => return { exitCode := 0, stdout := Diagnostic.catalog }
  | .diagnostics true => return { exitCode := 0, stdout := catalogJson.pretty ++ "\n" }

/-- Runs the program on the words of a command line. -/
def run (words : List String) : m Outcome :=
  match Command.ofWords words with
  | .ok c => c.run
  | .error stop => return stop.outcome

end AdaGlue.CommandLine
