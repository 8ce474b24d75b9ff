/-
How a run ends. Every pair of a function and a backend either has a dead call, which its
generation fails with, or gives an output whose diagnostics name the function. A run fails with
the first dead call of its jobs; without one it gives the outputs of its functions one after the
other.
-/
import AdaGlue.Generation
import AdaGlue.Proofs.Emission
import AdaGlue.Proofs.Route.Table

namespace AdaGlue

open Emission (Grows)

/-- A fold whose steps fail exactly at the members with a fault fails with the first fault, and
keeps its invariant where there is none. -/
theorem foldlM_fault {σ α ε : Type} {step : σ → α → Except ε σ} {fault : α → Option ε}
    {P : σ → Prop} (hfail : ∀ s a e, P s → fault a = some e → step s a = .error e)
    (hstep : ∀ s a, P s → fault a = none → ∃ s', step s a = .ok s' ∧ P s') :
    ∀ (l : List α) (s : σ), P s →
      (∀ e, l.findSome? fault = some e → l.foldlM step s = .error e) ∧
      (l.findSome? fault = none → ∃ s', l.foldlM step s = .ok s' ∧ P s')
  | [], s, hs => ⟨by simp, fun _ => ⟨s, rfl, hs⟩⟩
  | a :: l, s, hs => by
    rw [List.foldlM_cons, List.findSome?_cons]
    rcases ha : fault a with _ | e
    · obtain ⟨s', hs', hP⟩ := hstep s a hs ha
      rw [hs']
      exact foldlM_fault hfail hstep l s' hP
    · rw [hfail s a e hs ha]
      exact ⟨by rintro _ ⟨⟩; rfl, by simp⟩

/-! ## Decisions that fail -/

/-- The dead call that an interface of `f` is, if it is one. -/
def deadCall? (f : FunctionBlock) (i : Interface) : Option DeadCode :=
  if !f.language.isForeign && i.binding.language != .qgenC && i.isRequired && isDeadCall f i then
    some ⟨f.name, i.name⟩
  else none

theorem deadCall?_eq {f : FunctionBlock} (hf : f.language.isForeign = false) (i : Interface) :
    deadCall? f i = if IsRefused f i then some ⟨f.name, i.name⟩ else none := by
  refine ite_congr ?_ (fun _ => rfl) fun _ => rfl
  simp [IsRefused, hf, Interface.isRequired, and_assoc]

/-- A decision fails exactly at a dead call, and its warnings name the function. -/
theorem decide_cases (v : View) {f : FunctionBlock} (hf : f.language.isForeign = false)
    (i : Interface) :
    (∀ e, deadCall? f i = some e → v.decide f i = .error e) ∧
    (deadCall? f i = none →
      ∃ d, v.decide f i = .ok d ∧ ∀ x ∈ d.diagnostics, x.function = some f.name) := by
  obtain ⟨r, ds, hrow⟩ := exists_routed v f i
  rw [deadCall?_eq hf, View.decide_eq_of_routed hrow]
  split
  · constructor
    · rintro _ ⟨⟩
      rfl
    · intro h
      cases h
  · constructor
    · intro _ h
      cases h
    · intro _
      exact ⟨_, rfl, hrow.attributed⟩

/-- The backend that writes a destination. -/
def Destination.writer : Destination → Backend
  | .wrappersDecl | .wrappersBody | .asyncDecl | .asyncBody => .wrappers
  | .skeletonDecl | .skeletonBody => .skeletons

/-! ## Wrappers -/

namespace Wrappers

theorem writeFragment_grows (e : Emission) (decl body : Destination) (p : Fragment) :
    Grows e (writeFragment e decl body p) :=
  (Grows.write _ _ _).trans (Grows.write _ _ _)

theorem record_grows (e : Emission) (i : Interface) : Grows e (record e i) := by
  unfold record
  split
  · exact Grows.recordSynchronous e
  · exact Grows.refl e

theorem follow_grows (e : Emission) (i : Interface) (d : Decision) : Grows e (follow e i d) := by
  unfold follow
  split
  · exact Grows.refl e
  · exact record_grows e i
  · exact Grows.writePair ..
  · exact Grows.writePair ..
  · exact Grows.writePair ..

/-- One interface: the generation fails at a dead call and grows at any other. -/
theorem emit_cases (v : View) (e : Emission) (i : Interface) :
    (∀ x, deadCall? e.function i = some x → emit v e i = .error x) ∧
    (deadCall? e.function i = none → ∃ e', emit v e i = .ok e' ∧ Grows e e') := by
  unfold emit
  by_cases hf : e.function.language.isForeign = true
  · rw [if_pos hf]
    exact ⟨by simp [deadCall?, hf], fun _ => ⟨e, rfl, Grows.refl e⟩⟩
  · rw [if_neg hf]
    obtain ⟨hdead, hlive⟩ := decide_cases v (Bool.eq_false_iff.2 hf) i
    refine ⟨fun x hx => by rw [hdead x hx]; rfl, fun h => ?_⟩
    obtain ⟨d, hd, hat⟩ := hlive h
    rw [hd]
    exact ⟨_, rfl, (Grows.reportAll e hat).trans (follow_grows _ i d)⟩

/-- All interfaces: the generation fails at the first dead call. -/
theorem foldlM_emit (v : View) (l : List Interface) (e : Emission) :
    (∀ x, l.findSome? (deadCall? e.function) = some x → l.foldlM (emit v) e = .error x) ∧
    (l.findSome? (deadCall? e.function) = none → ∃ e', l.foldlM (emit v) e = .ok e' ∧ Grows e e') := by
  -- the faults are those of the function, which no step changes
  refine foldlM_fault (P := Grows e) ?_ ?_ l e (Grows.refl e)
  · intro s a x hs hx
    rw [← hs.function] at hx
    exact (emit_cases v s a).1 x hx
  · intro s a hs hx
    rw [← hs.function] at hx
    obtain ⟨s', hs', hg⟩ := (emit_cases v s a).2 hx
    exact ⟨s', hs', hs.trans hg⟩

theorem synthesize_grows (e : Emission) : Grows e (synthesize e) := by
  have hfold : ∀ (l : List Fragment) (e : Emission),
      Grows e (l.foldl (fun e p => writeFragment e .wrappersDecl .wrappersBody p) e) := by
    intro l
    induction l with
    | nil => exact Grows.refl
    | cons p l ih => exact fun e => (writeFragment_grows e _ _ p).trans (ih _)
  unfold synthesize
  split
  · exact hfold _ e
  · exact Grows.refl e

/-- The end of a function's wrappers is one more step, whose files are then closed. -/
theorem finish_eq_close (e : Emission) : ∃ e', Grows e e' ∧ finish e = e'.close :=
  ⟨_, ((((synthesize_grows e).trans (Grows.write _ _ _)).trans (Grows.write _ _ _)).trans
    (Grows.write _ _ _)).trans (Grows.write _ _ _), rfl⟩

@[simp] theorem function_openFiles (f : FunctionBlock) : (openFiles f).function = f := by
  unfold openFiles
  dsimp only
  split <;> simp

@[simp] theorem diagnostics_openFiles (f : FunctionBlock) : (openFiles f).diagnostics = [] := by
  unfold openFiles
  dsimp only
  split <;> simp

theorem isOpen_openFiles {f : FunctionBlock} {k : Destination} (h : (openFiles f).isOpen k = true) :
    k.writer = .wrappers := by
  unfold openFiles at h
  dsimp only at h
  split at h
  · simp at h; rcases h with rfl | rfl | rfl | rfl <;> rfl
  · simp at h; rcases h with rfl | rfl <;> rfl

/-- The preambles are a stage of the generation that starts with the files just opened. -/
theorem begin_grows (v : View) (f : FunctionBlock) : Grows (openFiles f) (begin v f) := by
  have hforeign : Grows (openFiles f) (if f.language.isForeign then
      (openFiles f).report (foreignFunction f) else openFiles f) := by
    split
    · exact Grows.report _ (by simp [foreignFunction, Diagnostic.atFunction])
    · exact Grows.refl _
  have hfront := hforeign.trans (writeFragment_grows _ .wrappersDecl .wrappersBody (preamble v f))
  unfold begin
  dsimp only
  generalize writeFragment _ _ _ (preamble v f) = e at hfront ⊢
  split
  · exact hfront.trans (writeFragment_grows ..)
  · exact hfront

end Wrappers

/-! ## Skeletons -/

namespace Skeletons

theorem emit_grows (e : Emission) (i : Interface) : Grows e (emit e i) := by
  unfold emit
  split
  · exact (Grows.write _ _ _).trans (Grows.write _ _ _)
  · exact Grows.write _ _ _

theorem foldl_emit_grows (l : List Interface) (e : Emission) : Grows e (l.foldl emit e) := by
  induction l generalizing e with
  | nil => exact Grows.refl e
  | cons i l ih => exact (emit_grows e i).trans (ih _)

theorem finish_eq_close (o : Options) (e : Emission) :
    ∃ e', Grows e e' ∧ finish o e = e'.close :=
  ⟨_, (Grows.write _ _ _).trans (Grows.write _ _ _), rfl⟩

theorem function_begin (o : Options) (found : Bool) (f : FunctionBlock) :
    (begin o found f).function = f := by
  unfold begin
  cases found <;> simp

theorem begin_attributed (o : Options) (found : Bool) (f : FunctionBlock) :
    ∀ d ∈ (begin o found f).diagnostics, d.function = some f.name := by
  unfold begin
  cases found <;> simp [bodyPreserved, Diagnostic.atFunction]

theorem isOpen_begin {o : Options} {found : Bool} {f : FunctionBlock} {k : Destination}
    (h : (begin o found f).isOpen k = true) : k.writer = .skeletons := by
  unfold begin at h
  cases found with
  | false => simp at h; rcases h with rfl | rfl <;> rfl
  | true => simp at h; rw [h]; rfl

end Skeletons

/-! ## One function -/

namespace Backend

variable (b : Backend) (s : Setting) (f : FunctionBlock)

/-- The dead call that a backend comes to first in a function. -/
def fault? : Option DeadCode :=
  match b with
  | .wrappers => f.interfaces.findSome? (deadCall? f)
  | .skeletons => none

@[simp] theorem function_begin : (b.begin s f).function = f := by
  cases b with
  | wrappers =>
    exact (Wrappers.begin_grows s.view f).function.trans (Wrappers.function_openFiles f)
  | skeletons => exact Skeletons.function_begin ..

theorem begin_attributed : ∀ d ∈ (b.begin s f).diagnostics, d.function = some f.name := by
  cases b with
  | wrappers =>
    have hgrows := Wrappers.begin_grows s.view f
    have hat := hgrows.attributed (by simp)
    rw [hgrows.function, Wrappers.function_openFiles] at hat
    exact hat
  | skeletons => exact Skeletons.begin_attributed _ _ f

/-- A backend opens only the destinations that it writes. -/
theorem writer_of_isOpen_begin {k : Destination} (h : (b.begin s f).isOpen k = true) :
    k.writer = b := by
  cases b with
  | wrappers =>
    exact Wrappers.isOpen_openFiles (((Wrappers.begin_grows s.view f).opened k).symm.trans h)
  | skeletons => exact Skeletons.isOpen_begin h

end Backend

namespace Setting

variable (s : Setting)

theorem generateFunction_wrappers (f : FunctionBlock) :
    s.generateFunction .wrappers f =
      (f.interfaces.foldlM (Wrappers.emit s.view) (Wrappers.begin s.view f)).map
        Wrappers.finish := by
  unfold generateFunction
  show (f.interfaces.foldlM (Wrappers.emit s.view) (Wrappers.begin s.view f)).bind _ = _
  rcases f.interfaces.foldlM (Wrappers.emit s.view) (Wrappers.begin s.view f) with _ | _ <;> rfl

theorem generateFunction_wrappers_eq_ok {f : FunctionBlock} {out : Output}
    (h : s.generateFunction .wrappers f = .ok out) :
    ∃ e, f.interfaces.foldlM (Wrappers.emit s.view) (Wrappers.begin s.view f) = .ok e ∧
      out = Wrappers.finish e := by
  rw [generateFunction_wrappers] at h
  rcases he : f.interfaces.foldlM (Wrappers.emit s.view) (Wrappers.begin s.view f) with x | e
  · rw [he] at h; cases h
  · rw [he] at h; cases h; exact ⟨e, rfl, rfl⟩

theorem generateFunction_skeletons (f : FunctionBlock) :
    s.generateFunction .skeletons f =
      .ok (Skeletons.finish s.options (f.interfaces.foldl Skeletons.emit
        (Skeletons.begin s.options (s.occupied (Skeletons.bodyPath f)) f))) := by
  unfold generateFunction
  show (f.interfaces.foldlM (fun e i => pure (Skeletons.emit e i)) _ : Except DeadCode _).bind _ = _
  rw [List.foldlM_pure]
  rfl

/-- A function with a dead call fails with it. -/
theorem generateFunction_of_fault {b : Backend} {f : FunctionBlock} {x : DeadCode}
    (h : b.fault? f = some x) : s.generateFunction b f = .error x := by
  cases b with
  | wrappers =>
    have hf : (Wrappers.begin s.view f).function = f := Backend.wrappers.function_begin s f
    have hrun := (Wrappers.foldlM_emit s.view f.interfaces (Wrappers.begin s.view f)).1 x
    rw [hf] at hrun
    rw [generateFunction_wrappers, hrun h]
    rfl
  | skeletons => cases h

/-- A function without a dead call gets its text, as a later stage of what it begins with. -/
theorem generateFunction_of_live {b : Backend} {f : FunctionBlock} (h : b.fault? f = none) :
    ∃ e, s.generateFunction b f = .ok e.close ∧ Grows (b.begin s f) e := by
  cases b with
  | wrappers =>
    have hf : (Wrappers.begin s.view f).function = f := Backend.wrappers.function_begin s f
    have hrun := (Wrappers.foldlM_emit s.view f.interfaces (Wrappers.begin s.view f)).2
    rw [hf] at hrun
    obtain ⟨e, he, hgrows⟩ := hrun h
    obtain ⟨e', hlast, hclose⟩ := Wrappers.finish_eq_close e
    rw [generateFunction_wrappers, he]
    exact ⟨e', congrArg Except.ok hclose, hgrows.trans hlast⟩
  | skeletons =>
    obtain ⟨e', hlast, hclose⟩ := Skeletons.finish_eq_close s.options (f.interfaces.foldl
      Skeletons.emit (Skeletons.begin s.options (s.occupied (Skeletons.bodyPath f)) f))
    rw [generateFunction_skeletons]
    exact ⟨e', congrArg Except.ok hclose, (Skeletons.foldl_emit_grows f.interfaces _).trans hlast⟩

end Setting

/-! ## A whole run -/

/-- The outputs one after the other. -/
def Output.concat (outputs : List Output) : Output :=
  ⟨outputs.flatMap (·.files), outputs.flatMap (·.diagnostics)⟩

theorem Output.append_concat_cons (a b : Output) (l : List Output) :
    a ++ Output.concat (b :: l) = (a ++ b) ++ Output.concat l := by
  show Output.append _ _ = Output.append (Output.append _ _) _
  simp [Output.append, Output.concat, List.append_assoc]

theorem Output.concat_flatMap {α : Type} (l : List α) (g : α → List Output) :
    Output.concat (l.flatMap g) = Output.concat (l.map fun a => Output.concat (g a)) := by
  simp [Output.concat, List.flatMap_assoc, List.flatMap_map]

namespace Setting

variable (s : Setting)

/-- What a backend writes for a function without a dead call. -/
def textOf (b : Backend) (f : FunctionBlock) : Output :=
  (s.generateFunction b f).toOption.getD {}

/-- What a run writes for a function. -/
def outputFor (f : FunctionBlock) : Output :=
  .concat ((s.backendsFor f).map (s.textOf · f))

theorem textOf_eq {b : Backend} {f : FunctionBlock} {out : Output}
    (h : s.generateFunction b f = .ok out) : s.textOf b f = out := by
  unfold textOf
  rw [h]
  rfl

theorem textOf_eq_close {b : Backend} {f : FunctionBlock} (h : b.fault? f = none) :
    ∃ e, s.textOf b f = e.close ∧ Grows (b.begin s f) e := by
  obtain ⟨e, he, hgrows⟩ := s.generateFunction_of_live h
  exact ⟨e, s.textOf_eq he, hgrows⟩

/-- Whatever a backend says about a function names it. -/
theorem textOf_attributed {b : Backend} {f : FunctionBlock} (h : b.fault? f = none) :
    ∀ d ∈ (s.textOf b f).diagnostics, d.function = some f.name := by
  obtain ⟨e, he, hgrows⟩ := s.textOf_eq_close h
  have hat := hgrows.attributed (by simpa using b.begin_attributed s f)
  rw [hgrows.function, b.function_begin] at hat
  rw [he]
  exact hat

/-- Every file of a function stands at the path of its kind, and its backend writes that kind. -/
theorem textOf_files {b : Backend} {f : FunctionBlock} (h : b.fault? f = none)
    {g : GeneratedFile} (hg : g ∈ (s.textOf b f).files) :
    g.function = f.name ∧ g.path = g.kind.path f.name ∧ g.kind.writer = b := by
  obtain ⟨e, he, hgrows⟩ := s.textOf_eq_close h
  rw [he] at hg
  obtain ⟨k, text, hk, rfl⟩ := Emission.mem_files.1 hg
  have hf : e.function = f := by simpa using hgrows.function
  refine ⟨by rw [hf], by rw [hf], b.writer_of_isOpen_begin s f (k := k) ?_⟩
  rw [← hgrows.opened k]
  simp [Emission.isOpen, hk]

/-- The first dead call of the run. -/
def fault? : Option DeadCode :=
  s.jobs.findSome? fun job => job.2.fault? job.1

/-- A run with a dead call fails with the first one. -/
theorem generate_of_fault {x : DeadCode} (h : s.fault? = some x) : s.generate = .error x := by
  refine (foldlM_fault (P := fun _ => True) ?_ ?_ s.jobs ({} : Output) trivial).1 x h
  · intro done job e _ he
    rw [s.generateFunction_of_fault he]
    rfl
  · intro done job _ he
    obtain ⟨out, hout, -⟩ := s.generateFunction_of_live he
    rw [hout]
    exact ⟨_, rfl, trivial⟩

theorem foldlM_jobs (jobs : List (FunctionBlock × Backend)) (done : Output)
    (h : ∀ job ∈ jobs, job.2.fault? job.1 = none) :
    jobs.foldlM (fun done job => return done ++ (← s.generateFunction job.2 job.1)) done =
      .ok (done ++ .concat (jobs.map fun job => s.textOf job.2 job.1)) := by
  induction jobs generalizing done with
  | nil =>
    show Except.ok done = .ok (Output.append done _)
    simp [Output.append, Output.concat]
  | cons job jobs ih =>
    obtain ⟨out, hout, -⟩ := s.generateFunction_of_live (h job List.mem_cons_self)
    rw [List.foldlM_cons, hout, List.map_cons, s.textOf_eq hout, Output.append_concat_cons]
    exact ih _ fun j hj => h j (List.mem_cons_of_mem _ hj)

/-- A run without a dead call writes every function's text, in their order. -/
theorem generate_of_live (h : s.fault? = none) :
    s.generate = .ok (.concat (s.view.functions.map s.outputFor)) := by
  unfold fault? at h
  rw [List.findSome?_eq_none_iff] at h
  unfold generate
  rw [s.foldlM_jobs s.jobs {} h]
  unfold jobs
  rw [List.map_flatMap, Output.concat_flatMap]
  simp only [List.map_map]
  rfl

theorem generate_eq_ok_iff {out : Output} :
    s.generate = .ok out ↔ s.fault? = none ∧ out = .concat (s.view.functions.map s.outputFor) := by
  constructor
  · intro h
    rcases hx : s.fault? with _ | x
    · rw [s.generate_of_live hx] at h; cases h; exact ⟨rfl, rfl⟩
    · rw [s.generate_of_fault hx] at h; cases h
  · rintro ⟨h, rfl⟩
    exact s.generate_of_live h

theorem generate_eq_error_iff (x : DeadCode) : s.generate = .error x ↔ s.fault? = some x := by
  constructor
  · intro h
    rcases hx : s.fault? with _ | y
    · rw [s.generate_of_live hx] at h; cases h
    · rw [s.generate_of_fault hx] at h; cases h; rfl
  · exact s.generate_of_fault

theorem mem_jobs {job : FunctionBlock × Backend} :
    job ∈ s.jobs ↔ job.1 ∈ s.view.functions ∧ job.2 ∈ s.backendsFor job.1 := by
  obtain ⟨f, b⟩ := job
  simp only [jobs, List.mem_flatMap, List.mem_map, Prod.mk.injEq]
  constructor
  · rintro ⟨g, hg, c, hc, rfl, rfl⟩; exact ⟨hg, hc⟩
  · rintro ⟨hf, hb⟩; exact ⟨f, hf, b, hb, rfl, rfl⟩

/-- The backends of a function, skeletons after wrappers. -/
theorem backendsFor_cases (f : FunctionBlock) :
    s.backendsFor f = [] ∨ s.backendsFor f = [.wrappers] ∨ s.backendsFor f = [.skeletons] ∨
      s.backendsFor f = [.wrappers, .skeletons] := by
  unfold backendsFor Backend.all
  generalize hw : (s.options.enabled .wrappers && Backend.wrappers.applies s f) = w
  generalize hk : (s.options.enabled .skeletons && Backend.skeletons.applies s f) = k
  cases w <;> cases k <;> simp [hw, hk]

/-- In a run that succeeds no job has a dead call. -/
theorem job_live (h : s.fault? = none) {f : FunctionBlock} (hf : f ∈ s.view.functions)
    {b : Backend} (hb : b ∈ s.backendsFor f) : b.fault? f = none :=
  List.findSome?_eq_none_iff.1 h (f, b) (s.mem_jobs.2 ⟨hf, hb⟩)

end Setting

end AdaGlue
