/-
User code is left alone and changes nothing else. A run against a root, compared with the same run
in memory: both fail with the same dead call, or the one against the root gives the same files less
the bodies that stand there already, and the same diagnostics with one remark for each such body,
behind all others of its function.
-/
import AdaGlue.Proofs.Generation.DeadCalls

namespace AdaGlue

/-! ## One generation with and without the body -/

namespace Emission

/-- The same stage where the body of the skeleton is left to the user. -/
def leaveBody (e : Emission) : Emission :=
  { e with
    drafts := { e.drafts with skeletonBody := none }
    diagnostics := e.diagnostics ++ [Skeletons.bodyPreserved e.function] }

@[simp] theorem function_leaveBody (e : Emission) : e.leaveBody.function = e.function := rfl

theorem get_leaveBody (e : Emission) (k : Destination) :
    e.leaveBody.drafts.get k = if k = .skeletonBody then none else e.drafts.get k := by
  cases k <;> rfl

/-- Writing goes on alike: what goes to the body is lost, everything else is kept. -/
theorem write_leaveBody (e : Emission) (k : Destination) (text : String) :
    e.leaveBody.write k text = (e.write k text).leaveBody := by
  obtain ⟨f, b, d, sync, ds⟩ := e
  unfold write
  rw [get_leaveBody]
  by_cases hk : k = .skeletonBody
  · subst hk
    cases hd : d.get .skeletonBody <;> simp [leaveBody, Drafts.set]
  · rw [if_neg hk]
    dsimp only
    cases hd : d.get k with
    | none => rfl
    | some sofar => cases k <;> first | rfl | exact absurd rfl hk

theorem files_leaveBody (e : Emission) :
    e.leaveBody.files = e.files.filter (·.kind ≠ .skeletonBody) := by
  unfold files
  rw [List.filter_filterMap]
  refine List.filterMap_congr fun k _ => ?_
  rw [get_leaveBody, function_leaveBody]
  by_cases hk : k = .skeletonBody
  · cases e.drafts.get k <;> simp [hk, Option.filter_some]
  · cases e.drafts.get k <;> simp [hk, Option.filter_some]

end Emission

namespace Skeletons

theorem begin_true (o : Options) (f : FunctionBlock) :
    begin o true f = (begin o false f).leaveBody := by
  unfold begin
  simp only [if_true, Bool.false_eq_true, if_false, ← Emission.write_leaveBody]
  rfl

theorem emit_leaveBody (e : Emission) (i : Interface) :
    emit e.leaveBody i = (emit e i).leaveBody := by
  unfold emit
  split <;> simp only [Emission.write_leaveBody, Emission.function_leaveBody]

theorem foldl_emit_leaveBody (l : List Interface) (e : Emission) :
    l.foldl emit e.leaveBody = (l.foldl emit e).leaveBody := by
  induction l generalizing e with
  | nil => rfl
  | cons i l ih => rw [List.foldl_cons, emit_leaveBody, ih, List.foldl_cons]

theorem finish_leaveBody (o : Options) (e : Emission) :
    finish o e.leaveBody =
      ⟨(finish o e).files.filter (·.kind ≠ .skeletonBody),
        (finish o e).diagnostics ++ [bodyPreserved e.function]⟩ := by
  unfold finish
  simp only [Emission.function_leaveBody, Emission.write_leaveBody, Emission.close,
    Emission.files_leaveBody]
  simp [Emission.leaveBody]

end Skeletons

namespace Setting

variable (s : Setting)

/-! ## One function -/

/-- The same run with nothing below its root. -/
def inMemory : Setting :=
  { s with occupied := fun _ => false }

/-- The file is the body of a function that has one below the root. -/
def isTaken (g : GeneratedFile) : Bool :=
  g.kind = .skeletonBody && s.occupied (Destination.skeletonBody.path g.function)

theorem isTaken_of_function {g : GeneratedFile} {f : FunctionBlock} (h : g.function = f.name) :
    s.isTaken g = (decide (g.kind = .skeletonBody) && s.occupied (Skeletons.bodyPath f)) := by
  unfold isTaken Skeletons.bodyPath
  rw [h]

/-- The skeleton of the function is asked for, and its body stands below the root. -/
def leavesBody (f : FunctionBlock) : Bool :=
  decide (.skeletons ∈ s.backendsFor f) && s.occupied (Skeletons.bodyPath f)

theorem backendsFor_inMemory (f : FunctionBlock) :
    s.inMemory.backendsFor f = s.backendsFor f := by
  unfold backendsFor
  refine List.filter_congr fun b _ => ?_
  cases b <;> rfl

theorem fault?_inMemory : s.inMemory.fault? = s.fault? := by
  simp only [fault?_eq_findSome?, backendsFor_inMemory]
  rfl

theorem textOf_wrappers (f : FunctionBlock) :
    s.textOf .wrappers f = s.inMemory.textOf .wrappers f := by
  unfold textOf
  rw [generateFunction_wrappers, generateFunction_wrappers]
  rfl

theorem textOf_skeletons_free {f : FunctionBlock} (h : s.occupied (Skeletons.bodyPath f) = false) :
    s.textOf .skeletons f = s.inMemory.textOf .skeletons f := by
  unfold textOf
  rw [generateFunction_skeletons, generateFunction_skeletons, h]
  rfl

theorem textOf_skeletons_taken {f : FunctionBlock} (h : s.occupied (Skeletons.bodyPath f) = true) :
    s.textOf .skeletons f =
      ⟨(s.inMemory.textOf .skeletons f).files.filter (·.kind ≠ .skeletonBody),
        (s.inMemory.textOf .skeletons f).diagnostics ++ [Skeletons.bodyPreserved f]⟩ := by
  have hfun : (f.interfaces.foldl Skeletons.emit (Skeletons.begin s.options false f)).function = f :=
    (Skeletons.foldl_emit_grows f.interfaces _).function.trans (Skeletons.function_begin ..)
  unfold textOf
  rw [generateFunction_skeletons, generateFunction_skeletons, h, Skeletons.begin_true,
    Skeletons.foldl_emit_leaveBody]
  show Skeletons.finish s.options _ = _
  rw [Skeletons.finish_leaveBody, hfun]
  rfl

/-- The files of a function by one backend are those in memory, less a body that is taken. -/
theorem files_textOf {b : Backend} {f : FunctionBlock} (h : b.fault? f = none) :
    (s.textOf b f).files = (s.inMemory.textOf b f).files.filter (!s.isTaken ·) := by
  have hfile := fun g => s.inMemory.textOf_files h (g := g)
  cases b with
  | wrappers =>
    rw [textOf_wrappers, eq_comm, List.filter_eq_self]
    intro g hg
    -- the body of a skeleton is no destination of wrappers
    have hkind : g.kind ≠ .skeletonBody := fun hk => by
      have hw := (hfile g hg).2.2
      rw [hk] at hw
      cases hw
    simp [isTaken, hkind]
  | skeletons =>
    rcases ho : s.occupied (Skeletons.bodyPath f) with _ | _
    · rw [s.textOf_skeletons_free ho, eq_comm, List.filter_eq_self]
      intro g hg
      simp [s.isTaken_of_function (hfile g hg).1, ho]
    · rw [s.textOf_skeletons_taken ho]
      refine List.filter_congr fun g hg => ?_
      simp [s.isTaken_of_function (hfile g hg).1, ho]

theorem files_outputFor (hlive : s.fault? = none) {f : FunctionBlock} (hf : f ∈ s.view.functions) :
    (s.outputFor f).files = (s.inMemory.outputFor f).files.filter (!s.isTaken ·) := by
  simp only [outputFor, Output.concat, List.flatMap_map, backendsFor_inMemory, List.filter_flatMap]
  exact List.flatMap_congr fun b hb => s.files_textOf (s.job_live hlive hf hb)

/-- The remark on a body that is left alone stands behind all else that is said of its function,
since skeletons come after wrappers. -/
theorem diagnostics_outputFor (f : FunctionBlock) :
    (s.outputFor f).diagnostics = (s.inMemory.outputFor f).diagnostics ++
      if s.leavesBody f then [Skeletons.bodyPreserved f] else [] := by
  have hdiag : (s.textOf .skeletons f).diagnostics = (s.inMemory.textOf .skeletons f).diagnostics ++
      if s.occupied (Skeletons.bodyPath f) then [Skeletons.bodyPreserved f] else [] := by
    rcases ho : s.occupied (Skeletons.bodyPath f) with _ | _
    · rw [s.textOf_skeletons_free ho]; simp
    · rw [s.textOf_skeletons_taken ho]; rfl
  unfold outputFor leavesBody
  rw [backendsFor_inMemory]
  rcases s.backendsFor_cases f with h | h | h | h <;>
    simp [h, Output.concat, ← textOf_wrappers, hdiag]

/-! ## A whole run -/

theorem outputFor_attributed (hlive : s.fault? = none) {f : FunctionBlock}
    (hf : f ∈ s.view.functions) : ∀ d ∈ (s.outputFor f).diagnostics, d.function = some f.name := by
  intro d hd
  simp only [outputFor, Output.concat, List.flatMap_map, List.mem_flatMap] at hd
  obtain ⟨b, hb, hd⟩ := hd
  exact s.textOf_attributed (s.job_live hlive hf hb) d hd

end Setting

/-- What several sources say about themselves, one after the other, can be told apart by their
names. -/
theorem filter_flatMap_of_nodup {α β : Type} {name : α → String} (of : β → Option String)
    {said : α → List β} {l : List α} (hd : (l.map name).Nodup)
    (hat : ∀ a ∈ l, ∀ b ∈ said a, of b = some (name a)) {a : α} (ha : a ∈ l) :
    (l.flatMap said).filter (of · = some (name a)) = said a := by
  induction l with
  | nil => cases ha
  | cons c l ih =>
    obtain ⟨hc, hl⟩ := List.nodup_cons.1 hd
    rw [List.flatMap_cons, List.filter_append]
    rcases List.mem_cons.1 ha with rfl | ha
    · have hown : (said a).filter (of · = some (name a)) = said a :=
        List.filter_eq_self.2 fun b hb => by simp [hat a List.mem_cons_self b hb]
      have hrest : (l.flatMap said).filter (of · = some (name a)) = [] := by
        rw [List.filter_eq_nil_iff]
        intro b hb heq
        obtain ⟨c, hcl, hbc⟩ := List.mem_flatMap.1 hb
        have hname := hat c (List.mem_cons_of_mem _ hcl) b hbc
        simp only [decide_eq_true_eq] at heq
        rw [hname, Option.some.injEq] at heq
        exact hc (heq ▸ List.mem_map_of_mem hcl)
      rw [hown, hrest, List.append_nil]
    · have hother : (said c).filter (of · = some (name a)) = [] := by
        rw [List.filter_eq_nil_iff]
        intro b hb heq
        simp only [decide_eq_true_eq] at heq
        rw [hat c List.mem_cons_self b hb, Option.some.injEq] at heq
        exact hc (heq ▸ List.mem_map_of_mem ha)
      rw [hother, List.nil_append]
      exact ih hl (fun x hx => hat x (List.mem_cons_of_mem _ hx)) ha

namespace Setting

variable (s : Setting)

/-- A run against a root and the same run in memory fail alike, or both end with an output. Then
the files are the same and in the same order, less the bodies that stand below the root. The
diagnostics are the same too, function by function, with one more remark behind those of each
function whose skeleton is asked for and whose body stands there. -/
theorem generate_against_root_eq_in_memory :
    (∃ x, s.generate = .error x ∧ s.inMemory.generate = .error x) ∨
    ∃ out mem, s.generate = .ok out ∧ s.inMemory.generate = .ok mem ∧
      out.files = mem.files.filter (!s.isTaken ·) ∧
      mem.diagnostics = (s.view.functions.flatMap fun f =>
        mem.diagnostics.filter (·.function = some f.name)) ∧
      out.diagnostics = s.view.functions.flatMap fun f =>
        mem.diagnostics.filter (·.function = some f.name) ++
          if s.leavesBody f then [Skeletons.bodyPreserved f] else [] := by
  rcases hx : s.fault? with _ | x
  swap
  · exact .inl ⟨x, s.generate_of_fault hx, s.inMemory.generate_of_fault (s.fault?_inMemory.trans hx)⟩
  have hx' := s.fault?_inMemory.trans hx
  refine .inr ⟨_, _, s.generate_of_live hx, s.inMemory.generate_of_live hx', ?_, ?_⟩
  · simp only [Output.concat, List.flatMap_map, List.filter_flatMap]
    exact List.flatMap_congr fun f hf => s.files_outputFor hx hf
  · simp only [Output.concat, List.flatMap_map]
    have hown : ∀ f ∈ s.view.functions,
        (s.view.functions.flatMap fun g => (s.inMemory.outputFor g).diagnostics).filter
          (·.function = some f.name) = (s.inMemory.outputFor f).diagnostics := fun f hf =>
      filter_flatMap_of_nodup Diagnostic.function s.view.names_nodup
        (fun g hg => s.inMemory.outputFor_attributed hx' hg) hf
    constructor
    · exact List.flatMap_congr fun f hf => (hown f hf).symm
    · refine List.flatMap_congr fun f hf => ?_
      rw [s.diagnostics_outputFor f, ← hown f hf]
      rfl

end Setting

end AdaGlue
