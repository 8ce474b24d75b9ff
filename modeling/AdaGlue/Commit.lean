/-
Generated files on a disk, in one of two modes. Writing leaves a file alone that is the same
already, and puts any other in place by a rename, so that a reader never sees half of it. Checking
writes nothing and stops at the first file that differs.
-/
import AdaGlue.Destination
import AdaGlue.Digest.Sha256
import AdaGlue.Disk
import AdaGlue.Json.Value
import AdaGlue.Text.Bytes

namespace AdaGlue

inductive CommitMode where
  | write
  | check
  deriving DecidableEq, Repr

def CommitMode.name : CommitMode → String
  | .write => "write"
  | .check => "check"

inductive FileStatus where
  | written
  | unchanged
  deriving DecidableEq, Repr

def FileStatus.name : FileStatus → String
  | .written => "written"
  | .unchanged => "unchanged"

/-- A file that stands on the disk as it was generated. -/
structure CommittedFile where
  path : String
  sha256 : String
  status : FileStatus
  deriving DecidableEq, Repr

def CommittedFile.toJson (f : CommittedFile) : Json :=
  .object [("path", .string f.path), ("sha256", .string f.sha256),
    ("status", .string f.status.name)]

/-- Why a file could not be committed. -/
inductive CommitError where
  | differs (path : String)
  | noDirectory (dir reason : String)
  | notWritten (path reason : String)
  | notRenamed (source target reason : String)
  deriving DecidableEq, Repr

namespace CommitError

/-- What went wrong. -/
def headline : CommitError → String
  | .differs path => "generated output differs: " ++ path
  | .noDirectory dir _ => "create output dir: " ++ dir
  | .notWritten path _ => "write output: " ++ path
  | .notRenamed source target _ => "rename " ++ source ++ " -> " ++ target

/-- Why it did, where the headline leaves that open. -/
def cause? : CommitError → Option String
  | .differs _ => none
  | .noDirectory _ reason | .notWritten _ reason | .notRenamed _ _ reason => some reason

end CommitError

namespace Commit

/-- The name under which a file is written before it is moved into place. -/
def temporary (path : String) : String :=
  path ++ ".ivglue-tmp"

/-- A path with the separator that reports use. -/
def reportedPath (path : String) : String :=
  path.map fun c => if c = '\\' then '/' else c

def committed (f : GeneratedFile) (status : FileStatus) : CommittedFile where
  path := reportedPath f.path
  sha256 := Sha256.hex f.contents.toUTF8
  status := status

variable {m : Type → Type} [Monad m] [Disk m]

/-- A request to the disk whose failure has a meaning for the run. -/
def attempt {ε : Type} (failure : String → ε) (request : m (Except String Unit)) :
    ExceptT ε m Unit :=
  ExceptT.mk do return (← request).mapError failure

/-- Writes beside the path, in a directory made where it is missing, and moves into place. -/
def replace (path : String) (contents : List UInt8) : ExceptT CommitError m Unit := do
  match Path.parent? path with
  | some dir => attempt (.noDirectory dir) (Disk.makeDirs dir)
  | none => pure ()
  attempt (.notWritten (temporary path)) (Disk.write (temporary path) contents)
  attempt (.notRenamed (temporary path) path) (Disk.rename (temporary path) path)

/-- The file at the path holds exactly these bytes. -/
def isCurrent (path : String) (contents : List UInt8) : m Bool := do
  match ← Disk.read path with
  | .ok current => return current = contents
  | .error _ => return false

/-- Commits one file below `root`. -/
def file (root : String) (mode : CommitMode) (f : GeneratedFile) :
    ExceptT CommitError m CommittedFile := do
  let path := Path.join root f.path
  if ← (isCurrent path (Text.bytes f.contents) : m Bool) then return committed f .unchanged
  match mode with
  | .check => throw (.differs path)
  | .write =>
    replace path (Text.bytes f.contents)
    return committed f .written

end Commit

/-- Commits the files below `root` in order, up to the first failure. -/
def commit {m : Type → Type} [Monad m] [Disk m] (root : String) (mode : CommitMode)
    (files : List GeneratedFile) : ExceptT CommitError m (List CommittedFile) :=
  files.mapM (Commit.file root mode)

end AdaGlue
