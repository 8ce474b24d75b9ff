/-
The two kinds of text that can be generated for a function, and the options of a run.
-/
import AdaGlue.Text.Blank
import AdaGlue.Text.Quoted

namespace AdaGlue

inductive Backend where
  /-- Packages between the middleware and the function. -/
  | wrappers
  /-- Packages for the user to fill in. -/
  | skeletons
  deriving DecidableEq, Repr

namespace Backend

def all : List Backend := [.wrappers, .skeletons]

def name : Backend → String
  | .wrappers => "ada-wrappers"
  | .skeletons => "ada-skeletons"

/-- The name of no backend. -/
structure Unknown where
  name : String
  deriving DecidableEq, Repr

def Unknown.message (u : Unknown) : String :=
  "unknown backend " ++ Text.quoted u.name ++ " (expected \"ada-wrappers\" or \"ada-skeletons\")"

/-- The backend of that name, blanks around it apart. -/
def ofName (name : String) : Except Unknown Backend :=
  match all.find? (·.name == Text.trim name) with
  | some b => .ok b
  | none => .error ⟨Text.trim name⟩

end Backend

/-- What a run generates. -/
structure Options where
  /-- Only the concurrency view is built, and no text at all generated. -/
  concurrencyViewOnly : Bool := false
  /-- The middleware is the one in C, which needs no wrappers in Ada. -/
  middlewareInC : Bool := false
  backends : List Backend := Backend.all
  deriving DecidableEq, Repr

def Options.enabled (o : Options) (b : Backend) : Bool :=
  b ∈ o.backends

end AdaGlue
