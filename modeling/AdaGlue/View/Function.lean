/-
The functions of an interface view: what each provides and requires, in which language it is
written, and how it runs.
-/

namespace AdaGlue

/-- The language that a function, or the far side of an interface, is written in. -/
inductive Language where
  | ada
  | c
  | qgenAda
  | qgenC
  | other
  deriving DecidableEq, Repr, Inhabited

namespace Language

def all : List Language := [.ada, .c, .qgenAda, .qgenC, .other]

def name : Language → String
  | .ada => "ada"
  | .c => "c"
  | .qgenAda => "qgenada"
  | .qgenC => "qgenc"
  | .other => "other"

/-- The code comes from another generator. -/
def isForeign : Language → Bool
  | .qgenAda | .qgenC => true
  | _ => false

/-- The user's code lives in an Ada package. -/
def isAdaFamily : Language → Bool
  | .ada | .qgenAda => true
  | _ => false

end Language

/-- A function has a thread of its own, or runs in the threads of its callers. -/
inductive Runtime where
  | thread
  | passive
  deriving DecidableEq, Repr

namespace Runtime

def all : List Runtime := [.thread, .passive]

def name : Runtime → String
  | .thread => "thread"
  | .passive => "passive"

end Runtime

inductive Direction where
  | provided
  | required
  deriving DecidableEq, Repr

namespace Direction

def all : List Direction := [.provided, .required]

def name : Direction → String
  | .provided => "provided"
  | .required => "required"

end Direction

/-- Whether the caller waits for the call to end. -/
inductive Synchronism where
  | synchronous
  | asynchronous
  deriving DecidableEq, Repr

namespace Synchronism

def all : List Synchronism := [.synchronous, .asynchronous]

def name : Synchronism → String
  | .synchronous => "synchronous"
  | .asynchronous => "asynchronous"

end Synchronism

/-- Whether calls exclude each other. -/
inductive Protection where
  | shielded
  | unshielded
  deriving DecidableEq, Repr

namespace Protection

def all : List Protection := [.shielded, .unshielded]

def name : Protection → String
  | .shielded => "protected"
  | .unshielded => "unprotected"

end Protection

/-- A parameter of an interface: its name, its ASN.1 type and the module that defines it. -/
structure Parameter where
  name : String
  type : String
  module : String := ""
  deriving DecidableEq, Repr

/-- What is known of the far side of an interface: its language, and the initialisation entry of
its generator. -/
structure Binding where
  language : Language := .other
  init : Option String := none
  deriving DecidableEq, Repr

/-- A value that configures a function. -/
structure ContextParameter where
  name : String
  typeName : String
  typeModule : String := ""
  deriving DecidableEq, Repr

/-- The types of context parameters that speak to the tools and carry no data. -/
def directiveTypes : List String :=
  ["Taste-directive", "Simulink-Tunable-Parameter", "Timer"]

def ContextParameter.isDirective (p : ContextParameter) : Bool :=
  directiveTypes.contains p.typeName

/-- A point through which a function is called, or calls another one. -/
structure Interface where
  name : String
  direction : Direction
  synchronism : Synchronism := .asynchronous
  protection : Protection := .shielded
  remoteFunction : Option String := none
  remoteEntry : Option String := none
  binding : Binding := {}
  /-- Provided interfaces of the same function from which this one is reached; none means any. -/
  callingInterfaces : List String := []
  /-- Threads known to call this interface. -/
  callingThreads : List String := []
  inputs : List Parameter := []
  outputs : List Parameter := []
  deriving DecidableEq, Repr

namespace Interface

def isProvided (i : Interface) : Bool := i.direction = .provided

def isRequired (i : Interface) : Bool := i.direction = .required

def isSynchronous (i : Interface) : Bool := i.synchronism = .synchronous

def isAsynchronous (i : Interface) : Bool := i.synchronism = .asynchronous

def hasParameters (i : Interface) : Bool :=
  !i.inputs.isEmpty || !i.outputs.isEmpty

/-- The name of the entry on the far side, by default the interface's own. -/
def entryPoint (i : Interface) : String :=
  i.remoteEntry.getD i.name

def parameters (i : Interface) : List Parameter :=
  i.inputs ++ i.outputs

end Interface

/-- A function of the view. -/
structure FunctionBlock where
  name : String
  language : Language := .other
  runtime : Runtime
  interfaces : List Interface := []
  /-- Threads known to run the function when it is passive. -/
  callingThreads : List String := []
  /-- The process that the function is deployed on. -/
  process : Option String := none
  /-- Made by the tools and not by a user. -/
  artificial : Bool := false
  /-- The generic package that the function instantiates. -/
  instanceOf : Option String := none
  contextParameters : List ContextParameter := []
  timers : List String := []
  deriving DecidableEq, Repr

namespace FunctionBlock

def isPassive (f : FunctionBlock) : Bool := f.runtime = .passive

def isThread (f : FunctionBlock) : Bool := f.runtime = .thread

/-- The first interface of that name. -/
def interface? (f : FunctionBlock) (name : String) : Option Interface :=
  f.interfaces.find? (·.name == name)

def provided (f : FunctionBlock) : List Interface :=
  f.interfaces.filter (·.isProvided)

def required (f : FunctionBlock) : List Interface :=
  f.interfaces.filter (·.isRequired)

def hasAsyncRequired (f : FunctionBlock) : Bool :=
  f.required.any (·.isAsynchronous)

/-- The context parameters that carry data. -/
def dataContext (f : FunctionBlock) : List ContextParameter :=
  f.contextParameters.filter (!·.isDirective)

/-- The constant that identifies the function's thread at run time. -/
def entityConstant (f : FunctionBlock) : String :=
  match f.process with
  | some process => process ++ "_" ++ f.name ++ "_K"
  | none => f.name ++ "_K"

end FunctionBlock

end AdaGlue
