/-
The synchronous provided interfaces of a function, which are written together once all others have
been: those that exclude each other inside one protected object of a passive function, the others
as plain procedures. A thread runs one call at a time anyway, so it has no protected object.
-/
import AdaGlue.Wrappers.Procedures

namespace AdaGlue.Wrappers

/-- The synchronous entries that get a procedure. -/
def syncEntries (f : FunctionBlock) : List Interface :=
  f.provided.filter fun i => i.isSynchronous && i.binding.language != .qgenC

def shieldedEntries (f : FunctionBlock) : List Interface :=
  (syncEntries f).filter (·.protection = .shielded)

def plainEntries (f : FunctionBlock) : List Interface :=
  (syncEntries f).filter (·.protection ≠ .shielded)

def entrySignature (i : Interface) : String :=
  "procedure " ++ i.name ++ Ada.parenthesized (Ada.bufferFormals i)

/-- A procedure that calls the user's code and hands its parameters on. -/
def forwardingBody (f : FunctionBlock) (i : Interface) : List Edit :=
  let name := "C_" ++ i.name
  [.line (entrySignature i ++ " is"),
   .indent,
   .line ("procedure " ++ name ++ Ada.parenthesized (Ada.bufferFormals i) ++ ";"),
   .line ("pragma Import (C, " ++ name ++ ", \"" ++ Ada.userSymbol f.name i.name ++ "\");"),
   .dedent,
   .line "begin",
   .indent,
   .line (name ++ Ada.parenthesized (Ada.bufferActuals i.inputs i.outputs) ++ ";"),
   .dedent,
   .line ("end " ++ i.name ++ ";"),
   .blank]

/-- The protected object that holds these entries. -/
def protectedObject (f : FunctionBlock) (entries : List Interface) : Fragment :=
  let object := Ada.protectedObject f.name
  { decl :=
      [.indent] ++ titled "Protected access to" f.name ++
      [.line ("protected " ++ object ++ " is"), .indent] ++
      entries.map (fun i => .line (entrySignature i ++ ";")) ++
      [.dedent, .line ("end " ++ object ++ ";"), .blank]
    body :=
      [.indent, .line ("protected body " ++ object ++ " is"), .indent] ++
      entries.flatMap (forwardingBody f) ++
      [.dedent, .line ("end " ++ object ++ ";"), .blank] }

/-- The procedure of an entry that may be called at any time. -/
def plainProcedure (f : FunctionBlock) (i : Interface) : Fragment where
  decl :=
    [.indent] ++ titled "Unprotected Provided Interface" i.name ++
      [.line (entrySignature i ++ ";"), .blank]
  body := .indent :: forwardingBody f i

/-- All of the function's synchronous entries. -/
def aggregate (f : FunctionBlock) : List Fragment :=
  given (f.isPassive && !(shieldedEntries f).isEmpty) [protectedObject f (shieldedEntries f)] ++
    (plainEntries f).map (plainProcedure f)

end AdaGlue.Wrappers
