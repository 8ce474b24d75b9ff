/-
The generation of one function's text by one backend: the drafts of the files opened so far, the
diagnostics met on the way, and whether a synchronous provided interface has been seen. What is
written to a file that is not open is lost.
-/
import AdaGlue.Backend
import AdaGlue.Destination
import AdaGlue.Diagnostic
import AdaGlue.Layout
import AdaGlue.View.Function

namespace AdaGlue

/-- The text drafted for each destination that is open. -/
structure Drafts where
  wrappersDecl : Option String := none
  wrappersBody : Option String := none
  asyncDecl : Option String := none
  asyncBody : Option String := none
  skeletonDecl : Option String := none
  skeletonBody : Option String := none
  deriving DecidableEq, Repr

namespace Drafts

def get (d : Drafts) : Destination → Option String
  | .wrappersDecl => d.wrappersDecl
  | .wrappersBody => d.wrappersBody
  | .asyncDecl => d.asyncDecl
  | .asyncBody => d.asyncBody
  | .skeletonDecl => d.skeletonDecl
  | .skeletonBody => d.skeletonBody

def set (d : Drafts) (text : String) : Destination → Drafts
  | .wrappersDecl => { d with wrappersDecl := some text }
  | .wrappersBody => { d with wrappersBody := some text }
  | .asyncDecl => { d with asyncDecl := some text }
  | .asyncBody => { d with asyncBody := some text }
  | .skeletonDecl => { d with skeletonDecl := some text }
  | .skeletonBody => { d with skeletonBody := some text }

@[simp] theorem get_set (d : Drafts) (text : String) (k l : Destination) :
    (d.set text k).get l = if l = k then some text else d.get l := by
  cases k <;> cases l <;> rfl

end Drafts

/-- What the generation of a function's text has come to. -/
structure Emission where
  function : FunctionBlock
  backend : Backend
  drafts : Drafts := {}
  synchronous : Bool := false
  diagnostics : List Diagnostic := []
  deriving DecidableEq, Repr

/-- The files and diagnostics of a function, or of a whole run. -/
structure Output where
  files : List GeneratedFile := []
  diagnostics : List Diagnostic := []
  deriving DecidableEq, Repr

def Output.append (a b : Output) : Output :=
  ⟨a.files ++ b.files, a.diagnostics ++ b.diagnostics⟩

instance : Append Output := ⟨Output.append⟩

namespace Emission

def start (f : FunctionBlock) (b : Backend) : Emission :=
  { function := f, backend := b }

def isOpen (e : Emission) (k : Destination) : Bool :=
  (e.drafts.get k).isSome

/-- The destinations that are open, in their order. -/
def opened (e : Emission) : List Destination :=
  Destination.all.filter e.isOpen

/-- Opens a destination with an empty text; one that is open already is left as it is. -/
def openTo (e : Emission) (k : Destination) : Emission :=
  if e.isOpen k then e else { e with drafts := e.drafts.set "" k }

/-- Appends to a destination if it is open. -/
def write (e : Emission) (k : Destination) (text : String) : Emission :=
  match e.drafts.get k with
  | some sofar => { e with drafts := e.drafts.set (sofar ++ text) k }
  | none => e

def report (e : Emission) (d : Diagnostic) : Emission :=
  { e with diagnostics := e.diagnostics ++ [d] }

def reportAll (e : Emission) (ds : List Diagnostic) : Emission :=
  { e with diagnostics := e.diagnostics ++ ds }

def recordSynchronous (e : Emission) : Emission :=
  { e with synchronous := true }

/-- The destinations among `kinds` that are not open. -/
def missing (e : Emission) (kinds : List Destination) : List Destination :=
  kinds.filter (!e.isOpen ·)

/-- The warning that an interface is skipped for want of these destinations. -/
def notOpen (e : Emission) (kinds : List Destination) (interface : String) : Diagnostic :=
  (Diagnostic.ofCode .missingDestination
    (", ".intercalate (kinds.map (·.fileName e.function.name)) ++ " not open; interface " ++
      Text.quoted interface ++ " skipped")).atInterface e.function.name interface

/-- Are all these destinations open? If not, says so. -/
def require (e : Emission) (kinds : List Destination) (interface : String) : Bool × Emission :=
  match e.missing kinds with
  | [] => (true, e)
  | lacking => (false, e.report (e.notOpen lacking interface))

/-- Writes a declaration and a body, provided that both destinations are open. -/
def writePair (e : Emission) (decl body : Destination) (interface : String)
    (declText bodyText : String) : Emission :=
  match e.require [decl, body] interface with
  | (true, e) => (e.write decl declText).write body bodyText
  | (false, e) => e

/-- The files of the open destinations, in their order. -/
def files (e : Emission) : List GeneratedFile :=
  Destination.all.filterMap fun k => (e.drafts.get k).map fun text =>
    { function := e.function.name, kind := k, path := k.path e.function.name, contents := text }

def close (e : Emission) : Output :=
  ⟨e.files, e.diagnostics⟩

end Emission

end AdaGlue
