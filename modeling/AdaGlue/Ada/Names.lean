/-
The names that generated Ada text gives to packages, procedures and link symbols, and the parameter
lists that go with them. All of them are made from the names in the view.
-/
import AdaGlue.View.Function

namespace AdaGlue.Ada

/-- An ASN.1 name as an Ada identifier. -/
def identifier (name : String) : String :=
  name.map fun c => if c = '-' then '_' else c

/-! ## Packages -/

def wrappersPackage (function : String) : String :=
  function ++ "_Wrappers"

/-- The package with the asynchronous required interfaces of a thread. -/
def asyncPackage (function : String) : String :=
  function ++ "_Async_RI_Wrappers"

/-- The package that wraps an entry of another generator. -/
def foreignPackage (entry : String) : String :=
  entry ++ "_QGenAda_wrapper"

/-! ## Procedures and objects -/

def protectedObject (function : String) : String :=
  "Protected_" ++ function

def vmProcedure (interface : String) : String :=
  "vm_" ++ interface

/-- The procedure of a calling thread that relays a passive function's asynchronous call. -/
def relayProcedure (interface : String) : String :=
  "vm_" ++ interface ++ "_VT"

/-- The name under which user code calls a required interface. -/
def requiredRelay (interface : String) : String :=
  "RI_" ++ interface

/-- The procedure of another generator that runs an entry. -/
def foreignProcedure (entry : String) : String :=
  "Execute_" ++ entry ++ "_QGenAda"

/-! ## Link symbols -/

/-- The symbol under which the wrapper of a required interface is exported. -/
def exportSymbol (function interface : String) (asynchronous : Bool) : String :=
  "vm_" ++ (if asynchronous then "async_" else "") ++ function ++ "_" ++ interface

/-- The symbol of the user's code behind a provided interface. -/
def userSymbol (function interface : String) : String :=
  function ++ "_" ++ interface

def providedSymbol (function interface : String) : String :=
  function ++ "_PI_" ++ interface

def requiredSymbol (function interface : String) : String :=
  function ++ "_RI_" ++ interface

/-! ## Types of an outport -/

def outportInterface (function : String) : String :=
  function ++ "_CV_Thread_" ++ function ++ "_" ++ function ++ "_Others_Interface"

def outportPort (function : String) : String :=
  function ++ "_CV_Thread_" ++ function ++ "_" ++ function ++ "_Others_Port_Type"

/-! ## Parameter lists -/

/-- The list between parentheses, or nothing when it is empty. -/
def parenthesized (list : String) : String :=
  if list.isEmpty then "" else "(" ++ list ++ ")"

def inputFormal (p : Parameter) : String :=
  "IN_" ++ p.name ++ " : Interfaces.C.char_array; IN_" ++ p.name ++ "_size : Integer"

def outputFormal (p : Parameter) : String :=
  "OUT_" ++ p.name ++ " : in out Interfaces.C.char_array; OUT_" ++ p.name ++
    "_size : access Integer"

/-- Formal parameters where each one travels as a buffer of bytes and its size. -/
def bufferFormals (i : Interface) : String :=
  "; ".intercalate (i.inputs.map inputFormal ++ i.outputs.map outputFormal)

def inputActual (p : Parameter) : String :=
  "IN_" ++ p.name ++ ", IN_" ++ p.name ++ "_size"

def outputActual (p : Parameter) : String :=
  "OUT_" ++ p.name ++ ", OUT_" ++ p.name ++ "_size"

/-- The actual parameters that go with `bufferFormals`. -/
def bufferActuals (inputs outputs : List Parameter) : String :=
  ", ".intercalate (inputs.map inputActual ++ outputs.map outputActual)

/-- Formal parameters where each one travels as an access to its typed value. -/
def accessFormals (i : Interface) : String :=
  "; ".intercalate (i.parameters.map fun p => p.name ++ " : access " ++ identifier p.type)

/-- The actual parameters that go with `accessFormals`. -/
def accessActuals (i : Interface) : String :=
  ", ".intercalate (i.parameters.map (·.name))

/-- Formal parameters of a procedure in user code. -/
def skeletonFormals (i : Interface) : String :=
  "; ".intercalate (i.parameters.map fun p => p.name ++ ": access Asn1Scc" ++ identifier p.type)

end AdaGlue.Ada
