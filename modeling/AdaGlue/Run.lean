/-
A run against a root on a disk. The disk is asked only which bodies of the user stand below the
root; all text is then generated in memory.
-/
import AdaGlue.Disk
import AdaGlue.Generation

namespace AdaGlue.Setting

variable {m : Type → Type} [Monad m] [Disk m]

/-- The bodies of the view that stand below the root already. -/
def bodiesBelow (root : String) (v : View) : m (List String) := do
  let asked ← (v.functions.map Skeletons.bodyPath).mapM fun path =>
    return (path, ← Disk.isFile (Path.join root path))
  return (asked.filter (·.2)).map (·.1)

/-- The setting of a run against the root. -/
def below (root : String) (v : View) (o : Options) : m Setting := do
  let bodies ← bodiesBelow root v
  return { view := v, options := o, occupied := fun path => path ∈ bodies }

end AdaGlue.Setting
