/-
The wrapper procedures of single interfaces. An asynchronous provided interface takes at most one
buffer and forwards it; a required one makes the call that its route asks for.
-/
import AdaGlue.Route
import AdaGlue.Wrappers.Preamble

namespace AdaGlue.Wrappers

/-- The line above and below the title of a procedure. -/
def rule : String := "------------------------------------------------------"

def titled (title name : String) : List Edit :=
  [.line rule, .line ("--  " ++ title ++ " \"" ++ name ++ "\""), .line rule]

/-- The full name of a callee's entry. -/
def calleePath (callee entry : String) : Accessor → String
  | .shielded => Ada.wrappersPackage callee ++ "." ++ Ada.protectedObject callee ++ "." ++ entry
  | .plain => Ada.wrappersPackage callee ++ "." ++ entry

/-! ## Asynchronous provided interfaces -/

/-- The signature without its closing parenthesis: the entity that runs, then the first input if
there is one. -/
def asyncSignature (i : Interface) : List String :=
  let head :=
    "procedure " ++ i.name ++ " (dummy_Entity : PolyORB_HI_Generated.Deployment.Entity_Type"
  match i.inputs.head? with
  | none => [head]
  | some p =>
    [head ++ ";",
     "   " ++ p.name ++ "Buffer : PolyORB_HI_Generated.Types." ++ Ada.identifier p.type ++
       "_Buffer_Impl"]

/-- The lines with an ending behind the last one. -/
def closeLast (ending : String) : List String → List Edit
  | [] => []
  | [s] => [.line (s ++ ending)]
  | s :: r => .line s :: closeLast ending r

/-- An overlay of the input buffer as an array of characters. -/
def overlay (p : Parameter) : List Edit :=
  let n := p.name
  [.line (n ++ "_AdaBuffer : Interfaces.C.char_array (1 .. Interfaces.C.size_t (" ++ n ++
     "Buffer.Length));"),
   .line ("pragma Import (Ada, " ++ n ++ "_AdaBuffer);"),
   .line ("for " ++ n ++ "_AdaBuffer'Address use " ++ n ++ "Buffer.Buffer'Address;"),
   .blank]

/-- The overlay and its length as actual parameters. -/
def overlayActuals : Option Parameter → String
  | none => ""
  | some p => " (" ++ p.name ++ "_AdaBuffer, " ++ p.name ++ "_AdaBuffer'Length)"

/-- The import of the user's procedure. -/
def userImport (symbol : String) (input : Option Parameter) : List Edit :=
  let name := "C_" ++ symbol
  (match input with
    | none => [.line ("procedure " ++ name ++ ";")]
    | some p =>
      [.line ("procedure " ++ name),
       .line ("  (C_" ++ p.name ++ "Buffer  : Interfaces.C.char_array;"),
       .line ("   C_" ++ p.name ++ "MaxSize : Integer);")]) ++
  [.line ("pragma Import (C, " ++ name ++ ", \"" ++ symbol ++ "\");"), .blank]

/-- What remains of the declarations, and the one statement. Starts and ends one level inside the
procedure. -/
def forwardedCall (i : Interface) (route : Route) : List Edit :=
  let input := i.inputs.head?
  let args := overlayActuals input
  match route with
  | .forwardToSibling callee entry accessor =>
    [.dedent, .line "begin", .indent, .line (calleePath callee entry accessor ++ args ++ ";")]
  | .forwardToVm symbol =>
    userImport symbol input ++
      [.dedent, .line "begin", .indent, .line ("C_" ++ symbol ++ args ++ ";")]
  | _ => [.dedent, .line "begin", .indent, .line "null;"]

/-- The wrapper of an asynchronous provided interface. -/
def asyncProvided (i : Interface) (route : Route) : Fragment where
  decl :=
    [.indent] ++ titled "Provided Interface" i.name ++ closeLast ");" (asyncSignature i) ++ [.blank]
  body :=
    [.indent] ++ titled "Asynchronous Provided Interface" i.name ++
      closeLast ")" (asyncSignature i) ++ [.line "is", .indent] ++
      (match i.inputs.head? with
        | none => []
        | some p => overlay p) ++
      forwardedCall i route ++ [.dedent, .line ("end " ++ i.name ++ ";"), .blank]

/-! ## Required interfaces -/

/-- The call through which a thread relays for a passive function. -/
def relayCall (caller : FunctionBlock) (i : Interface) : String :=
  Ada.asyncPackage caller.name ++ "." ++ Ada.relayProcedure i.name ++
    Ada.parenthesized (Ada.bufferActuals i.inputs []) ++ ";"

/-- The branch of the case statement for one caller. -/
def dispatchBranch (i : Interface) (caller : FunctionBlock) : List Edit :=
  [.line ("when " ++ caller.entityConstant ++ " =>"), .indent, .line (relayCall caller i), .dedent]

/-- The statements of a dispatched call. -/
def dispatchStatements (i : Interface) : Dispatch → List Edit
  | .inert => [.line "null;"]
  | .direct caller => [.line (relayCall caller i)]
  | .byTaskId callers =>
    [.line "case Get_Task_Id is", .indent] ++ callers.flatMap (dispatchBranch i) ++
      [.line "when others => null;", .dedent, .line "end case;"]

/-- Copies one input into the value of the outport. -/
def fillOutport (outport : String) (p : Parameter) : List Edit :=
  let n := p.name
  [.line ("for J in 1 .. IN_" ++ n ++ "_size loop"),
   .indent,
   .line ("Value." ++ outport ++
     "_DATA.Buffer (J) := PolyORB_HI_Generated.Types.Stream_Element_Buffer"),
   .line ("   (IN_" ++ n ++ " (Interfaces.C.size_t (J - 1)));"),
   .dedent,
   .line "end loop;",
   .line ("Value." ++ outport ++ "_DATA.Length := PolyORB_HI_Generated.Types.Unsigned_32 (IN_" ++ n ++
     "_size);")]

/-- Declarations and statements that fill the outport and send it at once. -/
def flushOutport (f : FunctionBlock) (i : Interface) (entity : String) : List Edit :=
  let outport := "OUTPORT_" ++ i.name
  let outportValue := Ada.outportPort f.name ++ "'(" ++ outport ++ ")"
  [.indent,
   .line ("Value : " ++ Ada.outportInterface f.name),
   .line ("  (" ++ outportValue ++ ");"),
   .line "Err : PolyORB_HI.Errors.Error_Kind;",
   .line "use type PolyORB_HI.Errors.Error_Kind;",
   .dedent,
   .line "begin",
   .indent] ++
  i.inputs.flatMap (fillOutport outport) ++
  [.line ("Put_Value (" ++ entity ++ ", Value);"),
   .line ("Err := Send_Output (" ++ entity ++ ", " ++ outportValue ++ ");")]

/-- A body whose statements need no declarations. -/
def statements (edits : List Edit) : List Edit :=
  [.line "begin", .indent] ++ edits

/-- Declarations, `begin` and statements of a required interface's wrapper, at the depth of the
procedure. -/
def requiredBody (f : FunctionBlock) (i : Interface) (route : Route) : List Edit :=
  (match route with
    | .callForeign target =>
      statements [.line (target ++ Ada.parenthesized (Ada.accessActuals i) ++ ";")]
    | .callCallee callee entry accessor =>
      let args := Ada.bufferActuals i.inputs i.outputs
      statements [.line (calleePath callee entry accessor ++
        (if args.isEmpty then "" else " (" ++ args ++ ")") ++ ";")]
    | .flushOutport none => statements [.line "null;"]
    | .flushOutport (some entity) => flushOutport f i entity
    | .dispatch d =>
      statements (.line "--  Passive function: the call is relayed by the calling thread" ::
        dispatchStatements i d)
    | _ => statements [.line "null;"]) ++
  [.dedent]

/-- The formal parameters of a required interface's wrapper. -/
def requiredFormals (i : Interface) : Convention → String
  | .qgenAda => Ada.accessFormals i
  | .native => Ada.bufferFormals i

def requiredSignature (i : Interface) (c : Convention) : String :=
  "procedure " ++ Ada.vmProcedure i.name ++ Ada.parenthesized (requiredFormals i c)

def requiredTitle (i : Interface) : String :=
  (if i.isSynchronous then "Synchronous" else "Asynchronous") ++ " Required Interface"

/-- The wrapper of a required interface. -/
def required (f : FunctionBlock) (i : Interface) (d : Decision) : Fragment :=
  let vm := Ada.vmProcedure i.name
  let signature := requiredSignature i d.convention
  { decl :=
      [.indent] ++ titled (requiredTitle i) i.name ++
      [.line (signature ++ ";"),
       .line ("pragma Export (C, " ++ vm ++ ", \"" ++
         Ada.exportSymbol f.name i.name i.isAsynchronous ++ "\");"),
       .blank]
    body :=
      [.indent] ++ titled (requiredTitle i) i.name ++ [.line (signature ++ " is")] ++
      requiredBody f i d.route ++ [.line ("end " ++ vm ++ ";"), .blank] }

end AdaGlue.Wrappers
