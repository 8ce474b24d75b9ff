/-
The program: the command line run on the disk of the machine.
-/
import AdaGlue.CommandLine.Outcome

namespace AdaGlue

/-- An action that gives the reason of its failure. -/
def settle {α : Type} (action : IO α) : IO (Except String α) := do
  try return .ok (← action)
  catch e => return .error (toString e)

/-- The path leads to a file. -/
def standsAsFile (path : String) : IO Bool := do
  try
    let about ← (IO.FS.DirEntry.mk path "").root.metadata
    return about.type == .file
  catch _ => return false

instance : Disk IO where
  read path := settle do return (← IO.FS.readBinFile path).data.toList
  isFile := standsAsFile
  makeDirs path := settle do unless path.isEmpty do IO.FS.createDirAll path
  write path contents := settle (IO.FS.writeBinFile path ⟨contents.toArray⟩)
  rename source target := settle (IO.FS.rename source target)

end AdaGlue

def main (words : List String) : IO UInt32 := do
  let outcome ← (AdaGlue.CommandLine.run words : IO AdaGlue.CommandLine.Outcome)
  (← IO.getStdout).putStr outcome.stdout
  (← IO.getStderr).putStr outcome.stderr
  return outcome.exitCode.toUInt32
