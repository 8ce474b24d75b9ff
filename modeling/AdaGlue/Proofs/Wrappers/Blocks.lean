/-
What stands between the header and the end of a wrapper procedure. Whatever the route, and however
many parameters and callers there are, it is a block: its `begin` stands at the depth at which the
block starts and ends, and all that is declared and done stands further in.
-/
import AdaGlue.Proofs.Wrappers.Contents

namespace AdaGlue

namespace Wrappers

/-! ## Blocks -/

/-- Balanced edits that write `begin` at the depth where they start, and all else further in. -/
structure Block (edits : List Edit) : Prop extends Balanced edits where
  opens : ∀ depth, ∃ declarations statements : List Line,
    laidOut depth edits = declarations ++ [⟨depth, "begin"⟩] ++ statements ∧
      ∀ l ∈ declarations ++ statements, depth < l.depth

theorem lt_depth_of_balanced {edits : List Edit} (h : Balanced edits) (depth : Nat) :
    ∀ l ∈ laidOut (depth + 1) edits, depth < l.depth := by
  have hle : ∀ l ∈ laidOut (depth + 1 + 0) edits, depth + 1 ≤ l.depth :=
    le_depth_of_staysWithin h.within
  exact hle

/-- Declarations and the statements behind them make a block. -/
theorem block_declared {declaring doing : List Edit} (hdeclaring : Balanced declaring)
    (hdoing : Balanced doing) :
    Block ([.indent] ++ declaring ++ [.dedent] ++ statements doing ++ [.dedent]) where
  within := by
    simp [statements, staysWithin, staysWithin_append, hdeclaring.within_of_levels, hdeclaring.back,
      hdoing.within_of_levels, hdoing.back]
  back := by
    intro depth
    simp [statements, depthBehind, depthBehind_append, hdeclaring.back, hdoing.back]
  opens := by
    intro depth
    refine ⟨laidOut (depth + 1) declaring, laidOut (depth + 1) doing, ?_, ?_⟩
    · simp [statements, laidOut, laidOut_append, hdeclaring.back]
    · intro l hl
      rcases List.mem_append.1 hl with hl | hl
      · exact lt_depth_of_balanced hdeclaring depth l hl
      · exact lt_depth_of_balanced hdoing depth l hl

/-- So do statements alone. -/
theorem block_statements {doing : List Edit} (h : Balanced doing) :
    Block (statements doing ++ [.dedent]) where
  within := by
    simp [statements, staysWithin, staysWithin_append, h.within_of_levels, h.back]
  back := by
    intro depth
    simp [statements, depthBehind, depthBehind_append, h.back]
  opens := by
    intro depth
    refine ⟨[], laidOut (depth + 1) doing, ?_, lt_depth_of_balanced h depth⟩
    simp [statements, laidOut, laidOut_append]

/-! ## The blocks of the procedures -/

theorem balanced_dispatchStatements (i : Interface) (d : Dispatch) :
    Balanced (dispatchStatements i d) := by
  cases d with
  | inert => exact ⟨rfl, fun _ => rfl⟩
  | direct t => exact ⟨rfl, fun _ => rfl⟩
  | byTaskId threads =>
    have hbranches : Balanced (threads.flatMap (dispatchBranch i)) :=
      .flatMap fun _ _ => ⟨rfl, fun _ => rfl⟩
    constructor
    · simp [dispatchStatements, staysWithin_append, staysWithin, hbranches.within_of_levels,
        hbranches.back]
    · intro depth
      simp [dispatchStatements, depthBehind_append, depthBehind, hbranches.back]

theorem balanced_fillOutport (outport : String) (inputs : List Parameter) :
    Balanced (inputs.flatMap (fillOutport outport)) :=
  .flatMap fun _ _ => ⟨rfl, fun _ => rfl⟩

/-- Whatever the route, the body of a call is a block. -/
theorem block_requiredBody (f : FunctionBlock) (i : Interface) (route : Route) :
    Block (requiredBody f i route) := by
  unfold requiredBody
  cases route with
  | flushOutport entity =>
    cases entity with
    | none => exact block_statements ⟨rfl, fun _ => rfl⟩
    | some entity =>
      -- the outport is declared first; a loop for each input and two calls are the statements
      exact @block_declared [.line _, .line _, .line _, .line _]
        (i.inputs.flatMap (fillOutport ("OUTPORT_" ++ i.name)) ++ [.line _, .line _])
        ⟨rfl, fun _ => rfl⟩ ((balanced_fillOutport _ _).append ⟨rfl, fun _ => rfl⟩)
  | dispatch d =>
    have hcomment : Balanced [.line
        "--  Passive function: the call is relayed by the calling thread"] := ⟨rfl, fun _ => rfl⟩
    exact block_statements (hcomment.append (balanced_dispatchStatements i d))
  | _ => exact block_statements ⟨rfl, fun _ => rfl⟩

theorem exists_forwardedCall_eq (i : Interface) (route : Route) :
    ∃ imports call, forwardedCall i route = imports ++ [.dedent] ++ statements [.line call] ∧
      Balanced imports := by
  cases route with
  | forwardToVm symbol =>
    refine ⟨userImport symbol i.inputs.head?, "C_" ++ symbol ++ overlayActuals i.inputs.head? ++ ";",
      ?_, ?_⟩
    · simp [forwardedCall, statements]
    · cases i.inputs.head? <;> exact ⟨rfl, fun _ => rfl⟩
  | _ => exact ⟨[], _, rfl, rfl, fun _ => rfl⟩

/-- So is what an entry does that is called without waiting. -/
theorem block_forwardedCall (i : Interface) (route : Route) :
    Block ([.indent] ++ (i.inputs.head?.map overlay).getD [] ++ forwardedCall i route ++
      [.dedent]) := by
  obtain ⟨imports, call, hcall, himports⟩ := exists_forwardedCall_eq i route
  have hoverlay : Balanced ((i.inputs.head?.map overlay).getD []) := by
    cases i.inputs.head? <;> exact ⟨rfl, fun _ => rfl⟩
  have hblock := block_declared (hoverlay.append himports)
    (⟨rfl, fun _ => rfl⟩ : Balanced [.line call])
  rw [hcall]
  simpa only [List.append_assoc] using hblock

end Wrappers

end AdaGlue
