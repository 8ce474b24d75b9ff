/-
The text of a skeleton package: context clauses, context parameters, one declaration and one stub
for each interface, timers, and the instance of a generic package.
-/
import AdaGlue.Ada.Names
import AdaGlue.Backend
import AdaGlue.Layout
import AdaGlue.OrderedSet

namespace AdaGlue.Skeletons

/-! ## Context clauses -/

def clauses (package : String) : List Edit :=
  [.line ("with " ++ package ++ ";"), .line ("use " ++ package ++ ";"), .blank]

/-- The ASN.1 modules of the parameters and of the data in the context, as Ada names. -/
def modules (f : FunctionBlock) : OrderedSet String :=
  .ofList <|
    ((f.interfaces.flatMap (·.parameters)).filter (!·.module.isEmpty)).map
      (fun p => Ada.identifier p.module) ++
    (f.dataContext.filter (!·.typeModule.isEmpty)).map fun p => Ada.identifier p.typeModule

/-- The clauses for the ASN.1 run-time and the modules; without parameters there are none. -/
def asn1Clauses (f : FunctionBlock) : List Edit :=
  if f.interfaces.any (·.hasParameters) then
    clauses "AdaASN1RTL" ++ (modules f).toList.flatMap clauses
  else []

/-- Something in the package uses the basic types. -/
def basicTypes (o : Options) (f : FunctionBlock) : List Edit :=
  if !f.timers.isEmpty || o.middlewareInC then
    [.line "with TASTE_Basictypes;", .line "use  TASTE_Basictypes;", .blank]
  else []

def genericClause (f : FunctionBlock) : List Edit :=
  match f.instanceOf with
  | some generic => [.line ("with " ++ generic ++ ";"), .blank]
  | none => []

def contextClause (f : FunctionBlock) : List Edit :=
  if f.dataContext.isEmpty then []
  else
    [.line "--  Context Parameters defined in interface view",
     .line ("with Context_" ++ f.name ++ ";"),
     .blank]

/-- A context parameter as an exported variable. -/
def contextVariable (f : FunctionBlock) (p : ContextParameter) : List Edit :=
  [.line (p.name ++ " : asn1Scc" ++ Ada.identifier p.typeName ++ " := Context_" ++ f.name ++ "." ++
     f.name ++ "_Ctxt." ++ p.name ++ ";"),
   .line ("pragma Export(C, " ++ p.name ++ ", \"" ++ f.name ++ "_" ++ p.name ++ "\");")]

/-! ## Preambles -/

/-- The front of the declaration. -/
def declPreamble (o : Options) (f : FunctionBlock) : List Edit :=
  [.line "-- This file was generated automatically: DO NOT MODIFY IT !",
   .blank,
   .line "-- Declaration of the provided and required interfaces",
   .blank,
   .line "--  pragma style_checks (off);",
   .line "--  pragma warnings (off);"] ++
  basicTypes o f ++ asn1Clauses f ++ genericClause f ++ contextClause f ++
  [.line ("package " ++ f.name ++ " is"), .indent] ++
  f.dataContext.flatMap (contextVariable f) ++
  [.dedent, .blank]

/-- Code of another generator is named by its provided interfaces. -/
def foreignClauses (f : FunctionBlock) : List Edit :=
  if f.language = .qgenAda then f.provided.flatMap fun i => clauses i.name else []

/-- The front of the body. -/
def bodyPreamble (f : FunctionBlock) : List Edit :=
  [.line ("--  User implementation of the " ++ f.name ++ " function"),
   .line "--  This file will never be overwritten once edited and modified",
   .line "--  Only the interface of functions is regenerated (in the .ads file)",
   .blank,
   .line "--  pragma style_checks (off);",
   .line "--  pragma warnings (off);"] ++
  asn1Clauses f ++ foreignClauses f ++
  [.line ("package body " ++ f.name ++ " is"), .blank]

/-! ## Interfaces -/

def declRule : String := "--  ----------------------------------------------------  --"

def bodyRule : String := "--  ------------------------------------------------  --"

def requiredRule : String := "--  --------------------------------------------------- --"

def titled (rule title name : String) : List Edit :=
  [.line rule, .line ("--  " ++ title ++ " \"" ++ name ++ "\""), .line rule]

/-- The name and the formal parameters of the procedure with that name. -/
def signature (name : String) (i : Interface) : String :=
  "procedure " ++ name ++ Ada.parenthesized (Ada.skeletonFormals i)

/-- A provided interface is exported to the wrappers. -/
def providedDecl (f : FunctionBlock) (i : Interface) : List Edit :=
  [.indent] ++ titled declRule "Provided interface" i.name ++
  [.line (signature i.name i ++ ";"),
   .line ("pragma Export(C, " ++ i.name ++ ", \"" ++ Ada.providedSymbol f.name i.name ++ "\");"),
   .blank]

/-- The stub that the user fills in. -/
def providedStub (i : Interface) : List Edit :=
  [.indent] ++ titled bodyRule "Provided interface" i.name ++
  [.line (signature i.name i ++ " is"),
   .line "pragma Suppress (All_Checks);",
   .line "begin",
   .blank,
   .indent,
   .line "null; --  Replace \"null\" with your own code!",
   .dedent,
   .blank,
   .line ("end " ++ i.name ++ ";"),
   .blank]

/-- A required interface is imported and has a second name for the generic's use. -/
def requiredDecl (f : FunctionBlock) (i : Interface) : List Edit :=
  [.indent] ++ titled requiredRule "Required interface" i.name ++
  [.line (signature i.name i ++ ";"),
   .line ("pragma Import(C, " ++ i.name ++ ", \"" ++ Ada.requiredSymbol f.name i.name ++ "\");"),
   .line (signature (Ada.requiredRelay i.name) i ++ " renames " ++ i.name ++ ";"),
   .blank]

/-! ## Timers and instances -/

/-- What a timer adds to the declaration: the handler and the two controls. -/
def timerDecl (f : FunctionBlock) (timer : String) : List Edit :=
  [.line ("--  This function is called when the timer \"" ++ timer ++ "\" expires"),
   .line ("procedure " ++ timer ++ ";"),
   .line ("pragma Export(C, " ++ timer ++ ", \"" ++ Ada.providedSymbol f.name timer ++ "\");"),
   .blank,
   .line "--  Call this function to set (enable) the timer",
   .line "--  Value is in milliseconds, and must be a multiple of 100",
   .line ("procedure Set_" ++ timer ++ "(val: access asn1SccT_UInt32);"),
   .line ("pragma Import(C, Set_" ++ timer ++ ", \"" ++ f.name ++ "_RI_SET_" ++ timer ++ "\");"),
   .blank,
   .line "--  Call this function to reset (disable) the timer",
   .line ("procedure Reset_" ++ timer ++ ";"),
   .line ("pragma Import(C, Reset_" ++ timer ++ ", \"" ++ f.name ++ "_RI_RESET_" ++ timer ++
     "\");"),
   .blank]

/-- The stub of a timer's handler. -/
def timerStub (timer : String) : List Edit :=
  [.line ("--  This function is called when the timer \"" ++ timer ++ "\" expires"),
   .line ("procedure " ++ timer ++ " is"),
   .line "begin",
   .indent,
   .line "null;  --  Replace \"null\" with your own code!",
   .dedent,
   .line ("end " ++ timer ++ ";"),
   .blank]

def timerTitle (f : FunctionBlock) : List Edit :=
  if f.timers.isEmpty then []
  else
    [.line bodyRule,
     .line "--                  Timers management                 --",
     .line bodyRule,
     .blank,
     .blank]

/-- What the instance of a generic is given: every required interface, then both controls of every
timer. -/
def actuals (f : FunctionBlock) : List String :=
  f.required.map (fun i => Ada.requiredRelay i.name ++ " => " ++ i.name) ++
    f.timers.map fun t =>
      "Set_" ++ t ++ " => Set_" ++ t ++ ", Reset_" ++ t ++ " => Reset_" ++ t

/-- The instance of a generic package. -/
def instantiation (f : FunctionBlock) (generic : String) : String :=
  "package " ++ f.name ++ "_Instance is new " ++ generic ++
    Ada.parenthesized (", ".intercalate (actuals f)) ++ ";"

def instances (f : FunctionBlock) : List Edit :=
  match f.instanceOf with
  | some generic => [.line (instantiation f generic)]
  | none => []

/-- The middleware in C lets a function look into its own queue. -/
def queueDecl (o : Options) (f : FunctionBlock) : List Edit :=
  if o.middlewareInC then
    [.line "--  TASTE API to check if the input queue is empty",
     .line "procedure Check_Queue(res: access asn1SccT_Boolean);",
     .line ("pragma Import(C, Check_Queue, \"" ++ f.name ++ "_RI_check_queue\");")]
  else []

/-! ## Ends -/

/-- The end of the declaration. -/
def declEnd (o : Options) (f : FunctionBlock) : List Edit :=
  [.indent] ++ queueDecl o f ++ timerTitle f ++ f.timers.flatMap (timerDecl f) ++ instances f ++
    [.dedent, .blank, .line ("end " ++ f.name ++ ";")]

/-- The end of the body. -/
def bodyEnd (f : FunctionBlock) : List Edit :=
  [.indent] ++ f.timers.flatMap timerStub ++ [.dedent, .blank, .line ("end " ++ f.name ++ ";")]

end AdaGlue.Skeletons
