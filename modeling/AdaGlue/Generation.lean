/-
A whole run in memory: for each function of a view, in order, the wrappers and then the skeleton,
as far as they are enabled and apply. The first dead call ends the run with nothing generated.
-/
import AdaGlue.Skeletons
import AdaGlue.Wrappers

namespace AdaGlue

/-- What a run works from. -/
structure Setting where
  view : View
  options : Options := {}
  /-- The paths below the root that hold a file already. -/
  occupied : String → Bool := fun _ => false

namespace Backend

def applies (b : Backend) (s : Setting) (f : FunctionBlock) : Bool :=
  match b with
  | .wrappers => Wrappers.applies s.options f
  | .skeletons => Skeletons.applies s.options f

/-- Opens the files of the function and writes what stands before its interfaces. -/
def begin (b : Backend) (s : Setting) (f : FunctionBlock) : Emission :=
  match b with
  | .wrappers => Wrappers.begin s.view f
  | .skeletons => Skeletons.begin s.options (s.occupied (Skeletons.bodyPath f)) f

/-- Writes one interface. -/
def emit (b : Backend) (s : Setting) (e : Emission) (i : Interface) : Except DeadCode Emission :=
  match b with
  | .wrappers => Wrappers.emit s.view e i
  | .skeletons => .ok (Skeletons.emit e i)

/-- Writes what stands behind the interfaces and closes the files. -/
def finish (b : Backend) (s : Setting) (e : Emission) : Output :=
  match b with
  | .wrappers => Wrappers.finish e
  | .skeletons => Skeletons.finish s.options e

end Backend

namespace Setting

/-- The text of one function by one backend, whether it applies or not. -/
def generateFunction (s : Setting) (b : Backend) (f : FunctionBlock) : Except DeadCode Output := do
  let e ← f.interfaces.foldlM (b.emit s) (b.begin s f)
  return b.finish s e

/-- The backends that run on a function. -/
def backendsFor (s : Setting) (f : FunctionBlock) : List Backend :=
  Backend.all.filter fun b => s.options.enabled b && b.applies s f

/-- The pairs of functions and backends of the run, in order. -/
def jobs (s : Setting) : List (FunctionBlock × Backend) :=
  s.view.functions.flatMap fun f => (s.backendsFor f).map fun b => (f, b)

/-- The text of all functions. -/
def generate (s : Setting) : Except DeadCode Output :=
  s.jobs.foldlM (fun done job => return done ++ (← s.generateFunction job.2 job.1)) {}

end Setting

end AdaGlue
