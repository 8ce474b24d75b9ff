/-
The threads that may run a call through an interface. An interface that names the provided
interfaces it is reached from is called by the threads of those; any other one by the threads of
its function. Each thread counts once, where it first occurs.
-/
import AdaGlue.OrderedSet
import AdaGlue.View.Consistency

namespace AdaGlue

/-- How many threads may reach an interface. -/
inductive CallerCount where
  | none
  | one
  | many
  deriving DecidableEq, Repr

def CallerCount.of : Nat → CallerCount
  | 0 => .none
  | 1 => .one
  | _ => .many

theorem CallerCount.ne_nil_of_one {α : Type} {l : List α} (h : CallerCount.of l.length = .one) :
    l ≠ [] := by
  rintro rfl
  cases h

/-- The calling threads in the order in which they are found, repetitions included. -/
def offeredCallers (owner : FunctionBlock) (i : Interface) : List String :=
  if i.callingInterfaces.isEmpty then owner.callingThreads
  else i.callingInterfaces.flatMap fun name =>
    ((owner.interface? name).map (·.callingThreads)).getD []

/-- The names of the threads that may call `i` as an interface of `owner`. -/
def callerNames (owner : FunctionBlock) (i : Interface) : OrderedSet String :=
  .ofList (offeredCallers owner i)

/-- The functions of the view behind those names. -/
def View.callers (v : View) (owner : FunctionBlock) (i : Interface) : List FunctionBlock :=
  (callerNames owner i).toList.filterMap v.function?

end AdaGlue
