/-
What a run asks of the disk it reads and writes. A request that fails gives the reason as a text,
and the run says what it was doing.
-/

namespace AdaGlue

/-- A disk as seen from the monad `m`. -/
class Disk (m : Type → Type) where
  /-- The contents of a file. -/
  read : String → m (Except String (List UInt8))
  /-- A file, and no directory, stands at the path. -/
  isFile : String → m Bool
  /-- Makes a directory and those above it, where they do not stand already. -/
  makeDirs : String → m (Except String Unit)
  /-- Writes a file, whether it stood there before or not. -/
  write : String → List UInt8 → m (Except String Unit)
  /-- Moves a file to a path, over a file that stands there. -/
  rename : String → String → m (Except String Unit)

/-- Why a file gave no value. -/
inductive LoadError (ε : Type) where
  | unreadable (reason : String)
  | unfit (e : ε)
  deriving DecidableEq, Repr

/-- The value that the bytes of a file stand for. -/
def Disk.load {m : Type → Type} [Monad m] [Disk m] {ε α : Type}
    (parse : List UInt8 → Except ε α) (path : String) : m (Except (LoadError ε) α) := do
  match ← Disk.read path with
  | .ok bytes => return (parse bytes).mapError .unfit
  | .error reason => return .error (.unreadable reason)

end AdaGlue
