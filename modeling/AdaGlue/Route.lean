/-
How a call through an interface travels: what its wrapper does, with which convention for
parameters, and in which pair of files it stands. The far side's language comes first, then
direction and synchronism, then how the function runs.
-/
import AdaGlue.Ada.Names
import AdaGlue.Callers

namespace AdaGlue

open Text (quoted)

/-- How parameters travel and how the callee is named. -/
inductive Convention where
  | native
  | qgenAda
  deriving DecidableEq, Repr

def Convention.of (i : Interface) : Convention :=
  if i.binding.language = .qgenAda then .qgenAda else .native

/-- How a synchronous callee is entered: through its protected object or directly. -/
inductive Accessor where
  | shielded
  | plain
  deriving DecidableEq, Repr

def Accessor.of : Protection → Accessor
  | .shielded => .shielded
  | .unshielded => .plain

/-- The pair of files that a wrapper stands in. -/
inductive Placement where
  | wrappers
  | asyncWrappers
  deriving DecidableEq, Repr

def Placement.of (f : FunctionBlock) (i : Interface) : Placement :=
  if f.isThread && i.isRequired && i.isAsynchronous then .asyncWrappers else .wrappers

/-- How a passive function's asynchronous call finds the thread that relays it. -/
inductive Dispatch where
  /-- No thread can reach the call. -/
  | inert
  /-- One thread, which always relays. -/
  | direct (caller : FunctionBlock)
  /-- The running thread relays. -/
  | byTaskId (callers : List FunctionBlock)
  deriving DecidableEq, Repr

/-- The dispatch among these threads. -/
def Dispatch.among (callers : List FunctionBlock) : Dispatch :=
  match h : CallerCount.of callers.length with
  | .none => .inert
  | .one => .direct (callers.head (CallerCount.ne_nil_of_one h))
  | .many => .byTaskId callers

section Among

variable (c c' : FunctionBlock) (more : List FunctionBlock)

@[simp] theorem Dispatch.among_nil : Dispatch.among [] = .inert := rfl

@[simp] theorem Dispatch.among_singleton : Dispatch.among [c] = .direct c := rfl

@[simp] theorem Dispatch.among_cons_cons :
    Dispatch.among (c :: c' :: more) = .byTaskId (c :: c' :: more) := rfl

end Among

inductive Route where
  /-- A synchronous provided interface, written with all others of its function at the end. -/
  | deferToAggregate
  /-- An asynchronous provided interface that calls the user's code. -/
  | forwardToVm (symbol : String)
  /-- An asynchronous provided interface of an artificial function that makes the synchronous call
  it stands for. -/
  | forwardToSibling (callee entry : String) (accessor : Accessor)
  | callCallee (callee entry : String) (accessor : Accessor)
  /-- A required interface behind which stands code of another generator. -/
  | callForeign (target : String)
  /-- The thread's outport is filled and sent; without an entity nothing is. -/
  | flushOutport (entity : Option String)
  | dispatch (d : Dispatch)
  /-- No wrapper at all. -/
  | skip
  deriving DecidableEq, Repr

/-- A passive function makes a synchronous call that no thread can ever run. -/
structure DeadCode where
  function : String
  interface : String
  deriving DecidableEq, Repr

namespace DeadCode

def message (e : DeadCode) : String :=
  "function " ++ quoted e.function ++
    " is not called by anyone (dead code): synchronous required interface " ++
    quoted e.interface ++ " has no calling thread"

def diagnostic (e : DeadCode) : Diagnostic :=
  (Diagnostic.ofCode .deadCode e.message).atInterface e.function e.interface

end DeadCode

/-- What is decided for one interface. -/
structure Decision where
  route : Route
  convention : Convention
  placement : Placement
  diagnostics : List Diagnostic
  deriving DecidableEq, Repr

/-! ## Warnings -/

def boundToC (f : FunctionBlock) (i : Interface) : Diagnostic :=
  (Diagnostic.ofCode .unsupportedBinding
    ("interface " ++ quoted i.name ++ " is bound to QGenC code; no Ada wrapper emitted")).atInterface
    f.name i.name

def lacksSibling (f : FunctionBlock) (i : Interface) : Diagnostic :=
  (Diagnostic.ofCode .missingSibling
    ("no synchronous required interface calls " ++ quoted i.entryPoint ++ "; " ++ quoted i.name ++
      " forwarded to the user symbol")).atInterface f.name i.name

def lacksProcess (f : FunctionBlock) (i : Interface) : Diagnostic :=
  (Diagnostic.ofCode .threadWithoutProcess
    ("thread " ++ quoted f.name ++ " has no deployment process; " ++ quoted i.name ++
      " is not flushed")).atInterface f.name i.name

/-! ## Routes -/

/-- The function that a required interface calls. -/
def Interface.callee (i : Interface) : String :=
  i.remoteFunction.getD ""

/-- The last synchronous required interface of `f` with that entry. -/
def FunctionBlock.sibling? (f : FunctionBlock) (entry : String) : Option Interface :=
  (f.required.filter fun r => r.isSynchronous && r.entryPoint == entry).getLast?

/-- The route of an asynchronous provided interface. -/
def asyncProvidedRoute (f : FunctionBlock) (i : Interface) : Route × List Diagnostic :=
  let vm := Route.forwardToVm (Ada.userSymbol f.name i.name)
  if f.artificial then
    match f.sibling? i.entryPoint with
    | some r => (.forwardToSibling r.callee i.entryPoint (.of r.protection), [])
    | none => (vm, [lacksSibling f i])
  else (vm, [])

/-- The route of a thread's asynchronous required interface. -/
def flushRoute (f : FunctionBlock) (i : Interface) : Route × List Diagnostic :=
  if f.process.isNone then (.flushOutport none, [lacksProcess f i])
  else (.flushOutport (some f.entityConstant), [])

/-- No thread can run the synchronous call of a passive function. -/
def isDeadCall (f : FunctionBlock) (i : Interface) : Bool :=
  i.isSynchronous && f.isPassive && (callerNames f i).isEmpty

namespace View

/-- The dispatch of a passive function's asynchronous call. -/
def dispatch (v : View) (f : FunctionBlock) (i : Interface) : Dispatch :=
  .among (v.callers f i)

/-- The route of a required interface whose far side is native code. -/
def nativeRequiredRoute (v : View) (f : FunctionBlock) (i : Interface) : Route × List Diagnostic :=
  match i.synchronism, f.runtime with
  | .synchronous, _ => (.callCallee i.callee i.entryPoint (.of i.protection), [])
  | .asynchronous, .thread => flushRoute f i
  | .asynchronous, .passive => (.dispatch (v.dispatch f i), [])

/-- The route of a required interface. -/
def requiredRoute (v : View) (f : FunctionBlock) (i : Interface) : Route × List Diagnostic :=
  match Convention.of i with
  | .qgenAda => (.callForeign (Ada.foreignProcedure i.entryPoint), [])
  | .native => v.nativeRequiredRoute f i

/-- The route of an interface, with the warnings that go with it. -/
def route (v : View) (f : FunctionBlock) (i : Interface) :
    Except DeadCode (Route × List Diagnostic) :=
  if i.binding.language = .qgenC then .ok (.skip, [boundToC f i])
  else
    match i.direction, i.synchronism with
    | .provided, .synchronous => .ok (.deferToAggregate, [])
    | .provided, .asynchronous => .ok (asyncProvidedRoute f i)
    | .required, _ =>
      if isDeadCall f i then .error ⟨f.name, i.name⟩ else .ok (v.requiredRoute f i)

/-- Decides how calls through `i`, taken as an interface of `f`, travel. -/
def decide (v : View) (f : FunctionBlock) (i : Interface) : Except DeadCode Decision := do
  let (route, diagnostics) ← v.route f i
  return { route, convention := .of i, placement := .of f i, diagnostics }

end View

end AdaGlue
