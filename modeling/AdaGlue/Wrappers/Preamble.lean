/-
What stands before the wrappers of a function's interfaces: comments, context clauses, the opening
of the package, and procedures that initialise the function and the code of other generators.
-/
import AdaGlue.Ada.Names
import AdaGlue.Layout
import AdaGlue.OrderedSet
import AdaGlue.View.Consistency

namespace AdaGlue.Wrappers

/-- The declaration and the body of a part of a package. -/
structure Fragment where
  decl : List Edit
  body : List Edit
  deriving DecidableEq, Repr

def banner : String := "--  This file was generated automatically: DO NOT MODIFY IT !"

/-- The function has a package of its own for its asynchronous required interfaces. -/
def hasAsyncPackage (f : FunctionBlock) : Bool :=
  f.isThread && f.hasAsyncRequired

/-- The code on the far side comes from the generator for Ada. -/
def isForeignAda (i : Interface) : Bool :=
  i.binding.language = .qgenAda

def hasAsyncParameters (f : FunctionBlock) : Bool :=
  f.interfaces.any fun i => i.isAsynchronous && i.hasParameters

def withClause (package : String) : String :=
  "with " ++ package ++ ";"

def useClause (package : String) : String :=
  "use " ++ package ++ ";"

/-- `x` if it is wanted. -/
def given {α : Type} (wanted : Bool) (x : List α) : List α :=
  if wanted then x else []

/-! ## Context clauses -/

/-- Calls are relayed by the calling threads: the function is passive, or a thread with entries
that may be called at any time. -/
def relaysThroughCallers (f : FunctionBlock) : Bool :=
  f.isPassive || (f.isThread && f.provided.any (·.protection = .unshielded))

/-- The calling threads on the function's own process that have a package to relay through. -/
def relayingThreads (v : View) (f : FunctionBlock) : List FunctionBlock :=
  (f.callingThreads.filterMap v.function?).filter fun t =>
    t.process = f.process && hasAsyncPackage t

/-- The context clauses of the declaration. -/
def declClauses (v : View) (f : FunctionBlock) : OrderedSet String :=
  .ofList <|
    [withClause "Interfaces.C"] ++
    given (hasAsyncParameters f) [withClause "PolyORB_HI_Generated.Types"] ++
    given f.language.isAdaFamily [withClause f.name] ++
    [withClause "PolyORB_HI_Generated.Deployment", "use  PolyORB_HI_Generated.Deployment;"] ++
    given (hasAsyncPackage f) [withClause (Ada.asyncPackage f.name)] ++
    given (f.interfaces.any isForeignAda)
      [withClause "taste_dataview", useClause "taste_dataview"] ++
    given (relaysThroughCallers f)
      ((relayingThreads v f).map fun t => withClause (Ada.asyncPackage t.name))

/-- The functions that the body calls. A body may name them where a declaration could not, since
two declarations must not name each other. -/
def callees (f : FunctionBlock) : OrderedSet String :=
  .ofList <| (f.required.filter fun i =>
    i.isSynchronous && !i.binding.language.isForeign).filterMap (·.remoteFunction)

/-- The entries of other generators that the body calls. -/
def foreignEntries (f : FunctionBlock) : OrderedSet String :=
  .ofList <| (f.required.filter isForeignAda).map (·.entryPoint)

/-- The clauses of the body that depend on what is called. -/
def bodyClauses (f : FunctionBlock) : List Edit :=
  let called := callees f
  let entries := foreignEntries f
  called.toList.map (fun c => .line (withClause (Ada.wrappersPackage c))) ++
  entries.toList.flatMap (fun e =>
    [.line (withClause (Ada.foreignPackage e)), .line (useClause (Ada.foreignPackage e))]) ++
  given (!called.isEmpty || !entries.isEmpty) [.blank]

/-! ## Initialisation -/

/-- The procedure that initialises the function; an artificial one has nothing to initialise. -/
def initProcedure (f : FunctionBlock) : Fragment :=
  if f.artificial then ⟨[], []⟩
  else
    let n := f.name
    { decl := [.indent, .line ("procedure C_Init_" ++ n ++ ";"), .blank, .dedent]
      body :=
        [.indent,
         .line ("procedure C_Init_" ++ n ++ " is"),
         .indent,
         .line ("procedure Init_" ++ n ++ ";"),
         .line ("pragma Import (C, Init_" ++ n ++ ", \"init_" ++ n ++ "\");"),
         .blank,
         .dedent,
         .line "begin",
         .indent,
         .line ("Init_" ++ n ++ ";"),
         .dedent,
         .line ("end C_Init_" ++ n ++ ";"),
         .blank,
         .dedent] }

/-- The entries of other generators that have an initialisation, with its name. -/
def foreignInits (f : FunctionBlock) : OrderedSet (String × String) :=
  .ofList <| (f.required.filter isForeignAda).filterMap fun i =>
    i.binding.init.map fun init => (i.entryPoint, init)

def foreignInitDecl (entry : String) : List Edit :=
  [.indent,
   .line ("procedure QGen_Init_" ++ entry ++ ";"),
   .line ("pragma Export (C, QGen_Init_" ++ entry ++ ", \"vm_QGen_Init_" ++ entry ++ "\");"),
   .blank,
   .dedent]

def foreignInitBody (entry init : String) : List Edit :=
  [.indent,
   .line ("procedure QGen_Init_" ++ entry ++ " is"),
   .line "begin",
   .indent,
   .line (entry ++ "." ++ init ++ ";"),
   .dedent,
   .line ("end QGen_Init_" ++ entry ++ ";"),
   .blank,
   .dedent]

/-! ## Preambles -/

/-- The front of the wrapper package. -/
def preamble (v : View) (f : FunctionBlock) : Fragment :=
  let package := Ada.wrappersPackage f.name
  let inits := (foreignInits f).toList
  { decl :=
      [.line banner,
       .blank,
       .line "pragma Style_Checks (Off);",
       .line "pragma Warnings (Off);",
       .blank] ++
      (declClauses v f).toList.map .line ++
      [.blank, .line ("package " ++ package ++ " is"), .blank] ++
      (initProcedure f).decl ++
      inits.flatMap (fun p => foreignInitDecl p.1)
    body :=
      [.line banner,
       .blank,
       .line "--  pragma Style_Checks (Off);",
       .line "--  pragma Warnings (Off);",
       .blank,
       .line "with PolyORB_HI_Generated.Activity,",
       .line "     PolyORB_HI.Utils;",
       .line "use  PolyORB_HI_Generated.Activity,",
       .line "     PolyORB_HI.Utils;",
       .blank] ++
      bodyClauses f ++
      [.line ("package body " ++ package ++ " is"), .blank] ++
      (initProcedure f).body ++
      inits.flatMap (fun p => foreignInitBody p.1 p.2) }

/-- The front of the package for asynchronous required interfaces. -/
def asyncPreamble (f : FunctionBlock) : Fragment :=
  let package := Ada.asyncPackage f.name
  { decl :=
      [.line banner,
       .blank,
       .line "pragma Style_Checks (Off);",
       .line "pragma Warnings (Off);",
       .blank,
       .line "with Interfaces.C;"] ++
      given (hasAsyncParameters f) [.line "with PolyORB_HI_Generated.Types;"] ++
      [.line "with PolyORB_HI_Generated.Deployment;",
       .line "use  PolyORB_HI_Generated.Deployment;",
       .blank,
       .line ("package " ++ package ++ " is"),
       .blank]
    body :=
      [.line banner,
       .blank,
       .line "--  pragma Style_Checks (Off);",
       .line "--  pragma Warnings (Off);",
       .blank,
       .line "with PolyORB_HI_Generated.Activity;",
       .line "use  PolyORB_HI_Generated.Activity;",
       .line "with PolyORB_HI.Errors;",
       .blank,
       .line ("package body " ++ package ++ " is"),
       .blank] }

end AdaGlue.Wrappers
