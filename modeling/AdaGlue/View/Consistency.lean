/-
Interface views: lists of functions whose names fit together. A list that is no view has a first
fault, in this order: the names of the functions; then, function by function, its calling threads,
the names of its interfaces, and what each interface refers to.
-/
import AdaGlue.Diagnostic
import AdaGlue.Text.Quoted
import AdaGlue.View.Function

namespace AdaGlue

/-- Why a list of functions is no view. -/
inductive ViewError where
  | emptyFunctionName
  | emptyInterfaceName (function : String)
  | duplicateFunction (name : String)
  | duplicateInterface (function interface : String)
  | unknownCallingThread (function thread : String)
  | unknownInterfaceCallingThread (function interface thread : String)
  | unknownCallingInterface (function interface calling : String)
  | missingRemoteFunction (function interface : String)
  deriving DecidableEq, Repr

namespace ViewError

open Text (quoted)

def message : ViewError → String
  | .emptyFunctionName => "function name must be non-empty"
  | .emptyInterfaceName f => "function " ++ quoted f ++ " has an interface with an empty name"
  | .duplicateFunction n => "duplicate function " ++ quoted n
  | .duplicateInterface f i =>
    "function " ++ quoted f ++ " declares interface " ++ quoted i ++ " twice"
  | .unknownCallingThread f t =>
    "function " ++ quoted f ++ " lists unknown calling thread " ++ quoted t
  | .unknownInterfaceCallingThread f i t =>
    "interface " ++ quoted f ++ "." ++ quoted i ++ " lists unknown calling thread " ++ quoted t
  | .unknownCallingInterface f i c =>
    "required interface " ++ quoted f ++ "." ++ quoted i ++ " is reachable from " ++ quoted c ++
      ", which is not a provided interface of " ++ quoted f
  | .missingRemoteFunction f i =>
    "required interface " ++ quoted f ++ "." ++ quoted i ++ " has no remote function"

/-- The function that the fault is found in. -/
def function? : ViewError → Option String
  | .emptyFunctionName => none
  | .emptyInterfaceName f => some f
  | .duplicateFunction n => some n
  | .duplicateInterface f _ => some f
  | .unknownCallingThread f _ => some f
  | .unknownInterfaceCallingThread f _ _ => some f
  | .unknownCallingInterface f _ _ => some f
  | .missingRemoteFunction f _ => some f

/-- The interface that the fault is found in. -/
def interface? : ViewError → Option String
  | .duplicateInterface _ i => some i
  | .unknownInterfaceCallingThread _ i _ => some i
  | .unknownCallingInterface _ i _ => some i
  | .missingRemoteFunction _ i => some i
  | _ => none

def diagnostic (e : ViewError) : Diagnostic :=
  { Diagnostic.ofCode .invalidModel e.message with
    function := e.function?
    interface := e.interface? }

end ViewError

/-! ## The first fault -/

/-- The first name that is empty or has been seen before. -/
def nameFault {ε : Type} (onEmpty : ε) (onRepeat : String → ε) (seen : List String) :
    List String → Option ε
  | [] => none
  | n :: r =>
    if n.isEmpty then some onEmpty
    else if n ∈ seen then some (onRepeat n)
    else nameFault onEmpty onRepeat (n :: seen) r

/-- The first fault in what an interface of `f` refers to; `known` are the names of all
functions. -/
def interfaceFault (known : List String) (f : FunctionBlock) (i : Interface) : Option ViewError :=
  let thread := i.callingThreads.find? (· ∉ known)
  let calling := i.callingInterfaces.find? fun c => !(f.interface? c).any (·.isProvided)
  (thread.map (.unknownInterfaceCallingThread f.name i.name)).or <|
    (calling.map (.unknownCallingInterface f.name i.name)).or <|
      if i.isRequired && i.remoteFunction.isNone then
        some (.missingRemoteFunction f.name i.name)
      else none

/-- The first fault inside a function. -/
def functionFault (known : List String) (f : FunctionBlock) : Option ViewError :=
  ((f.callingThreads.find? (· ∉ known)).map (.unknownCallingThread f.name)).or <|
    (nameFault (.emptyInterfaceName f.name) (.duplicateInterface f.name) []
      (f.interfaces.map (·.name))).or <|
      f.interfaces.findSome? (interfaceFault known f)

/-- The first fault of a list of functions. -/
def firstFault (functions : List FunctionBlock) : Option ViewError :=
  let known := functions.map (·.name)
  (nameFault .emptyFunctionName .duplicateFunction [] known).or <|
    functions.findSome? (functionFault known)

/-! ## Views -/

/-- Functions whose names fit together. -/
structure View where
  functions : List FunctionBlock
  sound : firstFault functions = none

namespace View

/-- The view of these functions, or their first fault. -/
def ofFunctions (functions : List FunctionBlock) : Except ViewError View :=
  match h : firstFault functions with
  | none => .ok ⟨functions, h⟩
  | some e => .error e

def function? (v : View) (name : String) : Option FunctionBlock :=
  v.functions.find? (·.name == name)

end View

end AdaGlue
