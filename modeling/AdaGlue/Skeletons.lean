/-
The skeleton package of a function. Its declaration is written on every run; its body is written
once and belongs to the user from then on, so it is left alone where it exists.
-/
import AdaGlue.Emission
import AdaGlue.Skeletons.Package

namespace AdaGlue.Skeletons

/-- A skeleton is wanted for the function: its user code is in Ada. -/
def applies (o : Options) (f : FunctionBlock) : Bool :=
  !o.concurrencyViewOnly && f.language.isAdaFamily

/-- The path of the body, below the root of the run. -/
def bodyPath (f : FunctionBlock) : String :=
  Destination.skeletonBody.path f.name

/-- The remark that the user's body stays as it is. -/
def bodyPreserved (f : FunctionBlock) : Diagnostic :=
  (Diagnostic.ofCode .skeletonPreserved
    ("user code not overwritten for function " ++ Text.quoted f.name)).atFunction f.name

/-- Opens the declaration, and the body unless it exists, and writes the preambles. -/
def begin (o : Options) (exists_ : Bool) (f : FunctionBlock) : Emission :=
  let e := (Emission.start f .skeletons).openTo .skeletonDecl
  let e := if exists_ then e.report (bodyPreserved f) else e.openTo .skeletonBody
  let e := e.write .skeletonDecl (render (declPreamble o f))
  e.write .skeletonBody (render (bodyPreamble f))

/-- Writes an interface: declaration and stub of a provided one, declaration of a required one. -/
def emit (e : Emission) (i : Interface) : Emission :=
  match i.direction with
  | .provided =>
    (e.write .skeletonDecl (render (providedDecl e.function i))).write .skeletonBody
      (render (providedStub i))
  | .required => e.write .skeletonDecl (render (requiredDecl e.function i))

/-- Writes the timers, the instance of a generic and the ends. -/
def finish (o : Options) (e : Emission) : Output :=
  let e := e.write .skeletonDecl (render (declEnd o e.function))
  let e := e.write .skeletonBody (render (bodyEnd e.function))
  e.close

end AdaGlue.Skeletons
