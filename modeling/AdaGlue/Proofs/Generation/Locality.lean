/-
The text of a function depends on little else of the view: the process, the runtime and the
asynchronous calls of the threads that the function or its interfaces name. Two views that agree on
these give the function the same text, or the same dead call, whatever else they hold and in
whatever order.
-/
import AdaGlue.Proofs.Generation.Outcome
import AdaGlue.Proofs.View.Consistency
import Mathlib.Data.List.Forall2

namespace AdaGlue

/-! ## What a function sees of a view -/

/-- The function, or one of its interfaces, names `t` as a calling thread. -/
def FunctionBlock.NamesThread (f : FunctionBlock) (t : String) : Prop :=
  t ∈ f.callingThreads ∨ ∃ i ∈ f.interfaces, t ∈ i.callingThreads

/-- Two functions that look the same to those that they call. -/
structure FunctionBlock.LooksLike (g g' : FunctionBlock) : Prop where
  name : g.name = g'.name
  process : g.process = g'.process
  runtime : g.runtime = g'.runtime
  async : g.hasAsyncRequired = g'.hasAsyncRequired

namespace FunctionBlock.LooksLike

variable {g g' : FunctionBlock} (h : g.LooksLike g')

include h

theorem entityConstant : g.entityConstant = g'.entityConstant := by
  unfold FunctionBlock.entityConstant
  rw [h.name, h.process]

theorem hasAsyncPackage : Wrappers.hasAsyncPackage g = Wrappers.hasAsyncPackage g' := by
  unfold Wrappers.hasAsyncPackage FunctionBlock.isThread
  rw [h.runtime, h.async]

end FunctionBlock.LooksLike

/-- In both views, the functions behind the threads that `f` names have the same process, the same
runtime, and asynchronous calls in both or in neither. -/
def AlikeFrom (f : FunctionBlock) (v w : View) : Prop :=
  ∀ t, f.NamesThread t → ∀ g ∈ v.functions, ∀ g' ∈ w.functions, g.name = t → g'.name = t →
    g.process = g'.process ∧ g.runtime = g'.runtime ∧ g.hasAsyncRequired = g'.hasAsyncRequired

section

variable {v w : View} {f : FunctionBlock} (hv : f ∈ v.functions) (hw : f ∈ w.functions)

theorem known_of_namesThread {v : View} (hv : f ∈ v.functions) {t : String}
    (ht : f.NamesThread t) : t ∈ v.functions.map (·.name) := by
  rcases ht with ht | ⟨i, hi, ht⟩
  · exact (v.consistent hv).threads t ht
  · exact (v.consistent hv).interfaceThreads i hi t ht

theorem namesThread_of_mem_callerNames {i : Interface} {t : String}
    (ht : t ∈ (callerNames f i).toList) : f.NamesThread t := by
  unfold callerNames offeredCallers at ht
  rw [OrderedSet.mem_ofList] at ht
  split at ht
  · exact .inl ht
  · obtain ⟨c, -, ht⟩ := List.mem_flatMap.1 ht
    rcases hc : f.interface? c with _ | p
    · rw [hc] at ht; cases ht
    · rw [hc] at ht
      exact .inr ⟨p, List.mem_of_find?_eq_some hc, ht⟩

variable (halike : AlikeFrom f v w)

include hv hw halike

/-- A thread that `f` names stands in both views and looks the same in them. -/
theorem function?_looksLike {t : String} (ht : f.NamesThread t) :
    ∃ g g', v.function? t = some g ∧ w.function? t = some g' ∧ g.LooksLike g' := by
  obtain ⟨g, hg, hname, hlook⟩ := v.exists_function? (known_of_namesThread hv ht)
  obtain ⟨g', hg', hname', hlook'⟩ := w.exists_function? (known_of_namesThread hw ht)
  obtain ⟨hprocess, hruntime, hasync⟩ := halike t ht g hg g' hg' hname hname'
  exact ⟨g, g', hlook, hlook', hname.trans hname'.symm, hprocess, hruntime, hasync⟩

/-- So do all threads of a list that `f` names. -/
theorem filterMap_function?_looksLike {names : List String} (hnames : ∀ t ∈ names, f.NamesThread t) :
    List.Forall₂ FunctionBlock.LooksLike (names.filterMap v.function?)
      (names.filterMap w.function?) := by
  induction names with
  | nil => exact .nil
  | cons t names ih =>
    obtain ⟨g, g', hg, hg', hlooks⟩ :=
      function?_looksLike hv hw halike (hnames t List.mem_cons_self)
    rw [List.filterMap_cons_some hg, List.filterMap_cons_some hg']
    exact .cons hlooks (ih fun t ht => hnames t (List.mem_cons_of_mem _ ht))

end

/-! ## Text that shows other functions -/

/-- The packages of the threads that pass a test which cannot tell them apart. -/
theorem map_filter_of_looksLike {α : Type} {p : FunctionBlock → Bool} {q : FunctionBlock → α}
    (hp : ∀ {g g' : FunctionBlock}, g.LooksLike g' → p g = p g')
    (hq : ∀ {g g' : FunctionBlock}, g.LooksLike g' → q g = q g') {l l' : List FunctionBlock}
    (h : List.Forall₂ FunctionBlock.LooksLike l l') : (l.filter p).map q = (l'.filter p).map q := by
  induction h with
  | nil => rfl
  | @cons g g' l l' hg _ ih =>
    rw [List.filter_cons, List.filter_cons, hp hg]
    split
    · rw [List.map_cons, List.map_cons, hq hg, ih]
    · exact ih

namespace Wrappers

theorem relayCall_of_looksLike {g g' : FunctionBlock} (h : g.LooksLike g') (i : Interface) :
    relayCall g i = relayCall g' i := by
  unfold relayCall
  rw [h.name]

theorem dispatchBranch_of_looksLike {g g' : FunctionBlock} (h : g.LooksLike g') (i : Interface) :
    dispatchBranch i g = dispatchBranch i g' := by
  unfold dispatchBranch
  rw [h.entityConstant, relayCall_of_looksLike h]

theorem flatMap_dispatchBranch_of_looksLike (i : Interface) {l l' : List FunctionBlock}
    (h : List.Forall₂ FunctionBlock.LooksLike l l') :
    l.flatMap (dispatchBranch i) = l'.flatMap (dispatchBranch i) := by
  induction h with
  | nil => rfl
  | cons hg _ ih => rw [List.flatMap_cons, List.flatMap_cons, dispatchBranch_of_looksLike hg, ih]

/-- The same number of callers, each of which looks the same, makes the same dispatch. -/
theorem dispatchStatements_of_looksLike {v w : View} {f : FunctionBlock} (i : Interface)
    (h : List.Forall₂ FunctionBlock.LooksLike (v.callers f i) (w.callers f i)) :
    dispatchStatements i (v.dispatch f i) = dispatchStatements i (w.dispatch f i) := by
  unfold View.dispatch
  revert h
  generalize v.callers f i = l
  generalize w.callers f i = l'
  intro h
  cases h with
  | nil => rfl
  | cons hg hrest =>
    cases hrest with
    | nil => simp only [Dispatch.among_singleton, dispatchStatements, relayCall_of_looksLike hg]
    | cons hg' hrest =>
      simp only [Dispatch.among_cons_cons, dispatchStatements]
      rw [flatMap_dispatchBranch_of_looksLike i (.cons hg (.cons hg' hrest))]

end Wrappers

/-! ## Routes -/

/-- Routes that are written alike for `i`. -/
inductive Route.Alike (i : Interface) : Route → Route → Prop where
  | same (r : Route) : Alike i r r
  | dispatch {d d' : Dispatch} :
    Wrappers.dispatchStatements i d = Wrappers.dispatchStatements i d' →
      Alike i (.dispatch d) (.dispatch d')

/-- Decisions that are written alike for `i`. -/
structure Decision.Alike (i : Interface) (d d' : Decision) : Prop where
  route : Route.Alike i d.route d'.route
  convention : d.convention = d'.convention
  placement : d.placement = d'.placement
  diagnostics : d.diagnostics = d'.diagnostics

namespace Wrappers

theorem follow_of_alike (e : Emission) {i : Interface} {d d' : Decision} (h : d.Alike i d') :
    follow e i d = follow e i d' := by
  obtain ⟨r, c, p, ds⟩ := d
  obtain ⟨r', c', p', ds'⟩ := d'
  obtain ⟨hr, rfl, rfl, rfl⟩ := h
  cases hr with
  | same => rfl
  | dispatch hd =>
    simp only [follow, required, requiredBody, hd]

end Wrappers

section

variable {v w : View} {f : FunctionBlock} (hv : f ∈ v.functions) (hw : f ∈ w.functions)
  (halike : AlikeFrom f v w)

include hv hw halike

theorem callers_looksLike (i : Interface) :
    List.Forall₂ FunctionBlock.LooksLike (v.callers f i) (w.callers f i) :=
  filterMap_function?_looksLike hv hw halike fun _ ht => namesThread_of_mem_callerNames ht

theorem requiredRoute_alike (i : Interface) :
    Route.Alike i (v.requiredRoute f i).1 (w.requiredRoute f i).1 ∧
      (v.requiredRoute f i).2 = (w.requiredRoute f i).2 := by
  unfold View.requiredRoute
  split
  · exact ⟨.same _, rfl⟩
  unfold View.nativeRequiredRoute
  split
  · exact ⟨.same _, rfl⟩
  · exact ⟨.same _, rfl⟩
  · exact ⟨.dispatch (Wrappers.dispatchStatements_of_looksLike i
      (callers_looksLike hv hw halike i)), rfl⟩

/-- Both views fail at the same calls and decide the others alike. -/
theorem decide_alike (i : Interface) :
    (∃ x, v.decide f i = .error x ∧ w.decide f i = .error x) ∨
    ∃ d d', v.decide f i = .ok d ∧ w.decide f i = .ok d' ∧ d.Alike i d' := by
  unfold View.decide View.route
  by_cases hc : i.binding.language = .qgenC
  · simp only [if_pos hc]
    exact .inr ⟨_, _, rfl, rfl, .same _, rfl, rfl, rfl⟩
  simp only [if_neg hc]
  cases i.direction with
  | provided => cases i.synchronism <;> exact .inr ⟨_, _, rfl, rfl, .same _, rfl, rfl, rfl⟩
  | required =>
    by_cases hdead : isDeadCall f i = true
    · simp only [hdead, if_true]
      exact .inl ⟨_, rfl, rfl⟩
    · simp only [hdead]
      obtain ⟨hroute, hdiag⟩ := requiredRoute_alike hv hw halike i
      exact .inr ⟨_, _, rfl, rfl, hroute, rfl, rfl, hdiag⟩

/-! ## The text of a function -/

namespace Wrappers

theorem emit_local {e : Emission} (he : e.function = f) (i : Interface) :
    emit v e i = emit w e i := by
  unfold emit
  rw [he]
  split
  · rfl
  rcases decide_alike hv hw halike i with ⟨x, hx, hx'⟩ | ⟨d, d', hd, hd', hsame⟩
  · rw [hx, hx']
  · rw [hd, hd']
    show Except.ok (follow (e.reportAll d.diagnostics) i d) =
      .ok (follow (e.reportAll d'.diagnostics) i d')
    rw [hsame.diagnostics, follow_of_alike _ hsame]

theorem foldlM_emit_local (l : List Interface) {e : Emission} (he : e.function = f) :
    l.foldlM (emit v) e = l.foldlM (emit w) e := by
  induction l generalizing e with
  | nil => rfl
  | cons i l ih =>
    rw [List.foldlM_cons, List.foldlM_cons, emit_local hv hw halike he i]
    rcases hx : emit w e i with x | e'
    · rfl
    · -- a step keeps the function that is written
      have hfun : e'.function = f := by
        obtain ⟨hdead, hlive⟩ := emit_cases w e i
        rcases hc : deadCall? e.function i with _ | x
        · obtain ⟨e'', he'', hgrows⟩ := hlive hc
          rw [hx] at he''
          cases he''
          exact hgrows.function.trans he
        · rw [hdead x hc] at hx; cases hx
      exact ih hfun

theorem preamble_local : preamble v f = preamble w f := by
  have hthreads : (relayingThreads v f).map (fun t => withClause (Ada.asyncPackage t.name)) =
      (relayingThreads w f).map fun t => withClause (Ada.asyncPackage t.name) :=
    map_filter_of_looksLike (fun h => by rw [h.process, h.hasAsyncPackage]) (fun h => by rw [h.name])
      (filterMap_function?_looksLike hv hw halike fun _ ht => .inl ht)
  have hclauses : declClauses v f = declClauses w f := by
    unfold declClauses
    rw [hthreads]
  unfold preamble
  rw [hclauses]

theorem begin_local : begin v f = begin w f := by
  unfold begin
  rw [preamble_local hv hw halike]

end Wrappers

/-- Two views that look alike from a function give it the same text, or the same dead call. -/
theorem generateFunction_of_alikeFrom (b : Backend) (o : Options) (occupied : String → Bool) :
    Setting.generateFunction ⟨v, o, occupied⟩ b f = Setting.generateFunction ⟨w, o, occupied⟩ b f := by
  cases b with
  | wrappers =>
    rw [Setting.generateFunction_wrappers, Setting.generateFunction_wrappers]
    have hfun : (Wrappers.begin w f).function = f := Backend.wrappers.function_begin ⟨w, o, occupied⟩ f
    show (f.interfaces.foldlM (Wrappers.emit v) (Wrappers.begin v f)).map _ = _
    rw [Wrappers.begin_local hv hw halike, Wrappers.foldlM_emit_local hv hw halike _ hfun]
  | skeletons =>
    rw [Setting.generateFunction_skeletons, Setting.generateFunction_skeletons]

end

/-- Views with the same functions behind the names of `f` look alike from it. -/
theorem alikeFrom_of_same {v w : View} {f : FunctionBlock}
    (h : ∀ g, f.NamesThread g.name → (g ∈ v.functions ↔ g ∈ w.functions)) : AlikeFrom f v w := by
  intro t ht g hg g' hg' hname hname'
  have hgw : g ∈ w.functions := (h g (hname ▸ ht)).1 hg
  obtain rfl := List.inj_on_of_nodup_map w.names_nodup hgw hg' (hname.trans hname'.symm)
  exact ⟨rfl, rfl, rfl⟩

/-- Generation is local. In two views that both hold a function, and that look alike from it, every
backend gives it the same result, with the same options and against the same root; and so it does
where the views differ only in functions that the function does not name as calling threads, or in
the order of their functions. -/
theorem generateFunction_local {v w : View} {f : FunctionBlock} (hv : f ∈ v.functions)
    (hw : f ∈ w.functions) (b : Backend) (o : Options) (occupied : String → Bool) :
    (AlikeFrom f v w →
      Setting.generateFunction ⟨v, o, occupied⟩ b f = Setting.generateFunction ⟨w, o, occupied⟩ b f) ∧
    ((∀ g, f.NamesThread g.name → (g ∈ v.functions ↔ g ∈ w.functions)) →
      Setting.generateFunction ⟨v, o, occupied⟩ b f = Setting.generateFunction ⟨w, o, occupied⟩ b f) :=
  ⟨fun h => generateFunction_of_alikeFrom hv hw h b o occupied,
    fun h => generateFunction_of_alikeFrom hv hw (alikeFrom_of_same h) b o occupied⟩

/-- A passive function whose asynchronous call is relayed by a thread. -/
def relayedFilter : FunctionBlock :=
  { name := "Filter", language := .ada, runtime := .passive, callingThreads := ["Ctrl"]
    process := some "p1"
    interfaces := [{ name := "Out", direction := .required, remoteFunction := some "Log" }] }

/-- The function and its thread. -/
def filterAndThread : View where
  functions :=
    [relayedFilter,
     { name := "Ctrl", language := .ada, runtime := .thread, process := some "p1"
       interfaces := [{ name := "Tick", direction := .required, remoteFunction := some "Filter" }] }]
  sound := by decide

/-- A thread of the same name that is written in C, another function, and then the function. -/
def otherThreadAndFilter : View where
  functions :=
    [{ name := "Ctrl", language := .c, runtime := .thread, process := some "p1"
       interfaces := [{ name := "Tock", direction := .required, remoteFunction := some "Log" }] },
     { name := "Log", runtime := .thread },
     relayedFilter]
  sound := by decide

theorem generateFunction_local_of_filter :
    relayedFilter ∈ filterAndThread.functions ∧ relayedFilter ∈ otherThreadAndFilter.functions ∧
    AlikeFrom relayedFilter filterAndThread otherThreadAndFilter ∧
    ∀ b o occupied, Setting.generateFunction ⟨filterAndThread, o, occupied⟩ b relayedFilter =
      Setting.generateFunction ⟨otherThreadAndFilter, o, occupied⟩ b relayedFilter := by
  have hv : relayedFilter ∈ filterAndThread.functions := by simp [filterAndThread]
  have hw : relayedFilter ∈ otherThreadAndFilter.functions := by simp [otherThreadAndFilter]
  have halike : AlikeFrom relayedFilter filterAndThread otherThreadAndFilter := by
    rintro t (ht | ⟨i, hi, ht⟩) g hg g' hg' hname hname'
    · obtain rfl : t = "Ctrl" := by simpa [relayedFilter] using ht
      have hall : ∀ g ∈ filterAndThread.functions, ∀ g' ∈ otherThreadAndFilter.functions,
          g.name = "Ctrl" → g'.name = "Ctrl" → g.process = g'.process ∧ g.runtime = g'.runtime ∧
            g.hasAsyncRequired = g'.hasAsyncRequired := by decide
      exact hall g hg g' hg' hname hname'
    · have hnone : ∀ i ∈ relayedFilter.interfaces, i.callingThreads = [] := by decide
      rw [hnone i hi] at ht
      cases ht
  exact ⟨hv, hw, halike, fun b o occupied => (generateFunction_local hv hw b o occupied).1 halike⟩

end AdaGlue
