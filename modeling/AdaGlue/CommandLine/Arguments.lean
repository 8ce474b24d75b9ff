/-
The words of a command line and the command they spell. Words are read from left to right, so what
is wrong before a request for help counts, and what is wrong after it does not.
-/
import AdaGlue.Backend

namespace AdaGlue.CommandLine

/-- What `generate` is asked to do. -/
structure GenerateArguments where
  model : String
  config : Option String := none
  out : Option String := none
  concurrencyViewOnly : Bool := false
  middlewareInC : Bool := false
  backends : List Backend := []
  check : Bool := false
  reportJson : Bool := false
  deriving DecidableEq, Repr

inductive Command where
  | generate (arguments : GenerateArguments)
  | diagnostics (json : Bool)
  deriving DecidableEq, Repr

/-- Why the words spell no command. -/
inductive Stop where
  | help
  | misuse
  deriving DecidableEq, Repr

/-! ## Words -/

/-- A word by its shape. -/
inductive Word where
  /-- Two dashes: no options follow. -/
  | endOfOptions
  | long (name : String) (value : Option String)
  | short (letters : List Char)
  | plain (text : String)
  deriving DecidableEq, Repr

/-- A long option, with what stands behind the first equals sign. -/
def Word.ofLong (cs : List Char) : Word :=
  let name := String.ofList (cs.takeWhile (· != '='))
  match cs.dropWhile (· != '=') with
  | [] => .long name none
  | _ :: value => .long name (some (String.ofList value))

def Word.of (s : String) : Word :=
  match s.toList with
  | ['-', '-'] => .endOfOptions
  | '-' :: '-' :: cs => .ofLong cs
  | '-' :: c :: cs => .short (c :: cs)
  | _ => .plain s

/-- The word can be the value of the option before it. -/
def isValue (s : String) : Bool :=
  match Word.of s with
  | .plain _ => true
  | _ => false

/-! ## Options of every command -/

/-- Letters behind one dash: `v`, any number of times, or a request for help. -/
def shortOptions : List Char → Except Stop Unit
  | [] => .ok ()
  | 'v' :: cs => shortOptions cs
  | 'h' :: _ => .error .help
  | _ :: _ => .error .misuse

/-- The long option with that name and value, if every command has it. -/
def commonOption? (name : String) (value : Option String) : Option (Except Stop Unit) :=
  let plainly (r : Except Stop Unit) := if value.isNone then r else .error .misuse
  if name = "verbose" then some (plainly (.ok ()))
  else if name = "help" then some (plainly (.error .help))
  else none

/-! ## Options of `generate` -/

/-- The options of `generate` read so far. -/
structure Draft where
  model : Option String := none
  config : Option String := none
  out : Option String := none
  concurrencyViewOnly : Bool := false
  middlewareInC : Bool := false
  backends : List Backend := []
  check : Bool := false
  reportJson : Bool := false

/-- A path that may be given once. -/
def once (earlier : Option String) (path : String) : Except Stop (Option String) :=
  if earlier.isSome || path.isEmpty then .error .misuse else .ok (some path)

/-- A flag that may be given once. -/
def flagOnce (earlier : Bool) : Except Stop Bool :=
  if earlier then .error .misuse else .ok true

namespace Draft

/-- The effect of an option that takes a value. -/
def valued? (name : String) : Option (Draft → String → Except Stop Draft) :=
  match name with
  | "model" => some fun d v => return { d with model := ← once d.model v }
  | "config" => some fun d v => return { d with config := ← once d.config v }
  | "out" => some fun d v => return { d with out := ← once d.out v }
  | "backend" => some fun d v =>
    match Backend.ofName v with
    | .ok b => .ok { d with backends := d.backends ++ [b] }
    | .error _ => .error .misuse
  | _ => none

/-- The effect of an option without a value. -/
def flag? (name : String) : Option (Draft → Except Stop Draft) :=
  match name with
  | "only-cv" => some fun d =>
    return { d with concurrencyViewOnly := ← flagOnce d.concurrencyViewOnly }
  | "polyorb-hi-c" => some fun d => return { d with middlewareInC := ← flagOnce d.middlewareInC }
  | "check" => some fun d => return { d with check := ← flagOnce d.check }
  | "report-json" => some fun d => return { d with reportJson := ← flagOnce d.reportJson }
  | _ => none

/-- Reads the words behind `generate`. -/
def read (d : Draft) : List String → Except Stop Draft
  | [] => .ok d
  | word :: more =>
    match Word.of word with
    | .endOfOptions => if more = [] then .ok d else .error .misuse
    | .plain _ => .error .misuse
    | .short letters => do
      shortOptions letters
      d.read more
    | .long name value =>
      match commonOption? name value, flag? name, valued? name with
      | some outcome, _, _ => do
        outcome
        d.read more
      | none, some set, _ => do
        if value.isSome then .error .misuse
        (← set d).read more
      | none, none, some set =>
        match value with
        | some v => do (← set d v).read more
        | none =>
          match more with
          | [] => .error .misuse
          | v :: rest => do
            if !isValue v then .error .misuse
            (← set d v).read rest
      | none, none, none => .error .misuse

/-- The arguments are complete once there is a model. -/
def complete (d : Draft) : Except Stop GenerateArguments :=
  match d.model with
  | none => .error .misuse
  | some model =>
    .ok { d with model := model }

end Draft

/-! ## Commands -/

/-- Reads the words behind `diagnostics`. -/
def readDiagnostics (json : Bool) : List String → Except Stop Bool
  | [] => .ok json
  | word :: more =>
    match Word.of word with
    | .endOfOptions => if more = [] then .ok json else .error .misuse
    | .plain _ => .error .misuse
    | .short letters => do
      shortOptions letters
      readDiagnostics json more
    | .long name value =>
      match commonOption? name value with
      | some outcome => do
        outcome
        readDiagnostics json more
      | none => do
        if name ≠ "json" ∨ value.isSome then .error .misuse
        readDiagnostics (← flagOnce json) more

/-- The words behind `help`: at most the name of one command. -/
def readHelp : List String → Stop
  | [] => .help
  | [name] => if name ∈ ["generate", "diagnostics", "help"] then .help else .misuse
  | _ => .misuse

/-- The command that the words spell. -/
def Command.ofWords : List String → Except Stop Command
  | [] => .error .misuse
  | word :: more =>
    match Word.of word with
    | .plain "generate" => do
      let d ← ({} : Draft).read more
      return .generate (← d.complete)
    | .plain "diagnostics" => return .diagnostics (← readDiagnostics false more)
    | .plain "help" => .error (readHelp more)
    | .plain _ | .endOfOptions => .error .misuse
    | .short letters => do
      shortOptions letters
      ofWords more
    | .long name value =>
      match commonOption? name value with
      | some outcome => do
        outcome
        ofWords more
      | none => .error .misuse

/-- A short guide to the command line. -/
def usage : String :=
  "Usage: ivglue [-v]... <COMMAND>\n\n" ++
  "Commands:\n" ++
  "  generate     Generate wrapper packages and user skeletons for every function of a model\n" ++
  "  diagnostics  Print the diagnostics catalog\n" ++
  "  help         Print this text\n\n" ++
  "Options of generate:\n" ++
  "  --model <FILE>      the model\n" ++
  "  --config <FILE>     the configuration of the tool\n" ++
  "  --out <DIR>         where the output goes\n" ++
  "  --backend <NAME>    ada-wrappers or ada-skeletons; may be repeated\n" ++
  "  --only-cv           only the concurrency view is being built\n" ++
  "  --polyorb-hi-c      the middleware is the one in C\n" ++
  "  --check             fail if the output differs, and write nothing\n" ++
  "  --report-json       print a report\n\n" ++
  "Options of diagnostics:\n" ++
  "  --json              print JSON instead of Markdown\n"

end AdaGlue.CommandLine
