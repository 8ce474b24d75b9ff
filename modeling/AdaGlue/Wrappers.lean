/-
The wrapper packages of a function: a preamble, a procedure for each interface in its order, the
synchronous entries together, and the end.
-/
import AdaGlue.Emission
import AdaGlue.Wrappers.Aggregate

namespace AdaGlue.Wrappers

/-- Wrappers are wanted for the function: the middleware is the one in Ada, and the function is not
code in C of another generator that others call. -/
def applies (o : Options) (f : FunctionBlock) : Bool :=
  !o.concurrencyViewOnly && !o.middlewareInC &&
    !(f.language = .qgenC && !f.provided.isEmpty)

/-- The warning that another generator writes the function's wrappers. -/
def foreignFunction (f : FunctionBlock) : Diagnostic :=
  (Diagnostic.ofCode .unsupportedBinding
    ("function " ++ Text.quoted f.name ++
      " is implemented by the alternate generator; its interfaces get no Ada wrapper")).atFunction
    f.name

/-- Writes a fragment to a declaration and a body. -/
def writeFragment (e : Emission) (decl body : Destination) (p : Fragment) : Emission :=
  (e.write decl (render p.decl)).write body (render p.body)

/-- Opens the files that the function needs. -/
def openFiles (f : FunctionBlock) : Emission :=
  let e := ((Emission.start f .wrappers).openTo .wrappersDecl).openTo .wrappersBody
  if hasAsyncPackage f then (e.openTo .asyncDecl).openTo .asyncBody else e

/-- Opens the files and writes the preambles. -/
def begin (v : View) (f : FunctionBlock) : Emission :=
  let e := openFiles f
  let e := if f.language.isForeign then e.report (foreignFunction f) else e
  let e := writeFragment e .wrappersDecl .wrappersBody (preamble v f)
  if e.isOpen .asyncDecl then writeFragment e .asyncDecl .asyncBody (asyncPreamble f) else e

/-- Notes a synchronous provided interface for the end. -/
def record (e : Emission) (i : Interface) : Emission :=
  if i.isProvided && i.isSynchronous then e.recordSynchronous else e

/-- The files that a placement stands for. -/
def placed : Placement → Destination × Destination
  | .wrappers => (.wrappersDecl, .wrappersBody)
  | .asyncWrappers => (.asyncDecl, .asyncBody)

/-- Writes what has been decided for an interface. -/
def follow (e : Emission) (i : Interface) (d : Decision) : Emission :=
  match d.route with
  | .skip => e
  | .deferToAggregate => record e i
  | .forwardToVm _ | .forwardToSibling _ _ _ =>
    let p := asyncProvided i d.route
    e.writePair .wrappersDecl .wrappersBody i.name (render p.decl) (render p.body)
  | _ =>
    let p := required e.function i d
    let (decl, body) := placed d.placement
    e.writePair decl body i.name (render p.decl) (render p.body)

/-- Writes the wrapper of an interface. -/
def emit (v : View) (e : Emission) (i : Interface) : Except DeadCode Emission :=
  if e.function.language.isForeign then .ok e
  else do
    let d ← v.decide e.function i
    return follow (e.reportAll d.diagnostics) i d

/-- Writes the synchronous entries, if any has been noted. -/
def synthesize (e : Emission) : Emission :=
  if e.synchronous then
    (aggregate e.function).foldl (fun e p => writeFragment e .wrappersDecl .wrappersBody p) e
  else e

def endLine (package : String) : List Edit :=
  [.line ("end " ++ package ++ ";")]

/-- The end of the wrapper package's body: with synchronous entries, the function is initialised
when the package is elaborated. -/
def bodyEnd (f : FunctionBlock) (synchronous : Bool) : List Edit :=
  given (synchronous && !f.artificial)
    [.line "begin", .indent, .line ("C_Init_" ++ f.name ++ ";"), .dedent, .blank] ++
    endLine (Ada.wrappersPackage f.name)

/-- Writes the synchronous entries and the ends of the packages. -/
def finish (e : Emission) : Output :=
  let e := synthesize e
  let f := e.function
  let e := e.write .wrappersBody (render (bodyEnd f e.synchronous))
  let e := e.write .wrappersDecl (render (endLine (Ada.wrappersPackage f.name)))
  let e := e.write .asyncDecl (render (endLine (Ada.asyncPackage f.name)))
  let e := e.write .asyncBody (render (endLine (Ada.asyncPackage f.name)))
  e.close

end AdaGlue.Wrappers
