/-
What is decided for the interfaces of a view. The threads that may run a call are known by their
names and by the functions behind these, and both ways of counting them agree, so a call is refused
exactly where a dispatch would have nobody to relay it. Any other interface takes its row of the
routing table, and whether a call is refused and where its wrapper stands does not depend on the
generator of the code behind it.
-/
import AdaGlue.Proofs.Callers
import AdaGlue.Proofs.Generation.DeadCalls
import AdaGlue.Proofs.Route.Table

namespace AdaGlue

/-! ## Callers by name and by function -/

namespace View

variable {v : View} {f : FunctionBlock} {i : Interface}

theorem dispatch_eq_inert_iff : v.dispatch f i = .inert ↔ v.callers f i = [] := by
  unfold dispatch
  rcases v.callers f i with _ | ⟨c, _ | ⟨c', rest⟩⟩ <;> simp

theorem dispatch_eq_byTaskId_iff {callers : List FunctionBlock} :
    v.dispatch f i = .byTaskId callers ↔ callers = v.callers f i ∧ 2 ≤ callers.length := by
  unfold dispatch
  rcases v.callers f i with _ | ⟨c, _ | ⟨c', rest⟩⟩
  · constructor
    · intro h; cases h
    · rintro ⟨rfl, hlen⟩; cases hlen
  · constructor
    · intro h; cases h
    · rintro ⟨rfl, hlen⟩
      simp at hlen
  · constructor
    · intro h
      cases h
      simp
    · rintro ⟨rfl, -⟩; rfl

theorem callers_eq_nil_iff (hf : f ∈ v.functions) :
    v.callers f i = [] ↔ (callerNames f i).isEmpty = true := by
  rw [OrderedSet.isEmpty, List.isEmpty_iff, ← v.map_name_callers hf, List.map_eq_nil_iff]

end View

/-- For a function of a view and an interface, be it one of its own or of another function, the
functions that may run the call are those behind the names that are resolved, in the same order; no
name is lost and no function comes twice. So a synchronous call of a passive function is refused
exactly if its dispatch would be inert, and a dispatch that goes by the running thread has two or
more to choose from. -/
theorem callers_agree_by_name {v : View} {f : FunctionBlock} (hf : f ∈ v.functions)
    (i : Interface) :
    (v.callers f i).map (·.name) = (callerNames f i).toList ∧
    (v.callers f i).Nodup ∧ (∀ c ∈ v.callers f i, c ∈ v.functions) ∧
    (f.runtime = .passive → i.direction = .required → i.synchronism = .synchronous →
      i.binding.language ≠ .qgenC →
      ∀ x, v.decide f i = .error x ↔ x = ⟨f.name, i.name⟩ ∧ v.dispatch f i = .inert) ∧
    ∀ callers, v.dispatch f i = .byTaskId callers → callers.Nodup ∧ 2 ≤ callers.length := by
  refine ⟨v.map_name_callers hf i, v.nodup_callers hf i, fun c hc => v.mem_of_mem_callers hc,
    ?_, ?_⟩
  · intro hpassive hrequired hsync hbound x
    have hrefused : IsRefused f i ↔ v.dispatch f i = .inert := by
      rw [View.dispatch_eq_inert_iff, View.callers_eq_nil_iff hf]
      simp [IsRefused, isDeadCall, Interface.isSynchronous, FunctionBlock.isPassive, hpassive,
        hrequired, hsync, hbound]
    rw [View.decide_eq_error_iff, hrefused, and_comm]
  · intro callers hcallers
    obtain ⟨rfl, htwo⟩ := View.dispatch_eq_byTaskId_iff.1 hcallers
    exact ⟨v.nodup_callers hf i, htwo⟩

/-- A call that is made from two entries, one of which only its own function has. -/
def reporting : Interface :=
  { name := "Report", direction := .required, synchronism := .synchronous
    remoteFunction := some "Log", callingInterfaces := ["Poll", "Put"] }

/-- One that is made from the other entry alone. -/
def probing : Interface :=
  { reporting with name := "Probe", callingInterfaces := ["Poll"] }

/-- A passive function that makes these calls. -/
def poller : FunctionBlock :=
  { name := "Poller", runtime := .passive, callingThreads := ["Nav"]
    interfaces :=
      [{ name := "Poll", direction := .provided, callingThreads := ["Nav"] },
       { name := "Put", direction := .provided }, reporting, probing] }

/-- A passive function that two threads call through an entry of the same name. -/
def keeper : FunctionBlock :=
  { name := "Log", runtime := .passive
    interfaces :=
      [{ name := "Put", direction := .provided, callingThreads := ["Nav", "Ctrl", "Nav"] }] }

/-- Both functions and the threads. -/
def pollerAndKeeper : View where
  functions :=
    [{ name := "Ctrl", runtime := .thread }, poller, keeper, { name := "Nav", runtime := .thread }]
  sound := by decide

theorem callers_agree_by_name_of_keeper :
    (pollerAndKeeper.callers keeper reporting).map (·.name) = ["Nav", "Ctrl"] ∧
      (∃ callers, pollerAndKeeper.dispatch keeper reporting = .byTaskId callers ∧
        callers.Nodup ∧ 2 ≤ callers.length) ∧
      pollerAndKeeper.dispatch keeper probing = .inert ∧
      pollerAndKeeper.decide keeper probing = .error ⟨"Log", "Probe"⟩ := by
  have hkeeper : keeper ∈ pollerAndKeeper.functions := by simp [pollerAndKeeper]
  obtain ⟨hnames, -, -, -, hmany⟩ := callers_agree_by_name hkeeper reporting
  obtain ⟨-, -, -, hrefused, -⟩ := callers_agree_by_name hkeeper probing
  have hdispatch : pollerAndKeeper.dispatch keeper reporting =
      .byTaskId (pollerAndKeeper.callers keeper reporting) := by decide
  have hinert : pollerAndKeeper.dispatch keeper probing = .inert := by decide
  refine ⟨hnames.trans (by decide), ⟨_, hdispatch, hmany _ hdispatch⟩, hinert, ?_⟩
  exact (hrefused rfl rfl rfl (by decide) _).2 ⟨rfl, hinert⟩

/-! ## The table on a view -/

/-- A synchronous call of a passive function that no thread can come to. -/
structure Stranded (f : FunctionBlock) (i : Interface) : Prop where
  passive : f.runtime = .passive
  required : i.direction = .required
  synchronous : i.synchronism = .synchronous
  unreached : ∀ t, ¬ MayRun f i t

theorem isRefused_iff {known : List String} {f : FunctionBlock} (hf : f.Consistent known)
    {i : Interface} (hi : i ∈ f.interfaces) :
    IsRefused f i ↔ i.binding.language ≠ .qgenC ∧ Stranded f i := by
  simp only [IsRefused, isDeadCall, Interface.isSynchronous, FunctionBlock.isPassive,
    Bool.and_eq_true, decide_eq_true_eq, callerNames_isEmpty_iff hf hi]
  constructor
  · rintro ⟨hc, hrequired, ⟨hsync, hpassive⟩, hnone⟩
    exact ⟨hc, hpassive, hrequired, hsync, hnone⟩
  · rintro ⟨hc, h⟩
    exact ⟨hc, h.required, ⟨h.synchronous, h.passive⟩, h.unreached⟩

theorem FunctionBlock.Consistent.remoteFunction_eq {known : List String} {f : FunctionBlock}
    (hf : f.Consistent known) {r : Interface} (hr : r ∈ f.interfaces)
    (hrequired : r.direction = .required) : r.remoteFunction = some r.callee := by
  obtain ⟨c, hc⟩ := Option.isSome_iff_exists.1
    (hf.remote r hr (by simp [Interface.isRequired, hrequired]))
  simp [Interface.callee, hc]

/-! ## Other bindings -/

/-- The function with another binding for its interface of that name. -/
def FunctionBlock.rebind (f : FunctionBlock) (name : String) (b : Binding) : FunctionBlock :=
  { f with
    interfaces := f.interfaces.map fun j => if j.name = name then { j with binding := b } else j }

section Rebinding

variable {f : FunctionBlock} {i : Interface} {b : Binding}

/-- Callers are found through names and threads, which a binding leaves alone. -/
theorem callerNames_rebind (name : String) :
    callerNames (f.rebind name b) { i with binding := b } = callerNames f i := by
  have hlook : ∀ c, ((f.rebind name b).interface? c).map (·.callingThreads) =
      (f.interface? c).map (·.callingThreads) := by
    intro c
    simp only [FunctionBlock.interface?, FunctionBlock.rebind]
    induction f.interfaces with
    | nil => rfl
    | cons j l ih =>
      rw [List.map_cons, List.find?_cons, List.find?_cons]
      have hname : (if j.name = name then { j with binding := b } else j).name = j.name := by
        split <;> rfl
      have hthreads : (if j.name = name then { j with binding := b } else j).callingThreads =
          j.callingThreads := by
        split <;> rfl
      rw [hname]
      cases j.name == c
      · exact ih
      · exact congrArg some hthreads
  unfold callerNames offeredCallers
  simp only [hlook]
  rfl

theorem map_placement_decide {v : View} (hc : i.binding.language ≠ .qgenC)
    (hd : i.direction = .required) :
    (v.decide f i).map (·.placement) =
      if isDeadCall f i then .error ⟨f.name, i.name⟩ else .ok (.of f i) := by
  obtain ⟨r, ds, hrow⟩ := exists_routed v f i
  rw [View.decide_eq_of_routed hrow]
  by_cases hdead : isDeadCall f i = true
  · rw [if_pos ⟨hc, hd, hdead⟩, if_pos hdead]
    rfl
  · rw [if_neg fun h => hdead h.2.2, if_neg hdead]
    rfl

end Rebinding

/-- A decision follows the routing table. It fails exactly for a synchronous call of a passive
function that no thread can come to, unless the call is one of code in C of another generator. Any
other interface takes its row, whose callee is the function that the interface names, with the
convention and the files that go by its binding, its kind and the runtime of its function. Another
binding of a required interface, as long as neither is to such code in C, leaves the decision failed
or not failed as it was, with the same error or in the same files, whether the interface is bound
anew by itself or in its function. -/
theorem decide_follows_routing_table {v : View} {f : FunctionBlock} (hf : f ∈ v.functions)
    {i : Interface} (hi : i ∈ f.interfaces) :
    (∀ x, v.decide f i = .error x ↔
      i.binding.language ≠ .qgenC ∧ Stranded f i ∧ x = ⟨f.name, i.name⟩) ∧
    (∀ r ds, (∃ d, v.decide f i = .ok d ∧ d.route = r ∧ d.diagnostics = ds) ↔
      (i.binding.language = .qgenC ∨ ¬ Stranded f i) ∧ Routed v f i r ds) ∧
    (∀ r ∈ f.interfaces, r.direction = .required → r.remoteFunction = some r.callee) ∧
    (∀ d, v.decide f i = .ok d →
      (d.convention = .qgenAda ↔ i.binding.language = .qgenAda) ∧
      (d.placement = .asyncWrappers ↔
        f.runtime = .thread ∧ i.direction = .required ∧ i.synchronism = .asynchronous)) ∧
    (i.direction = .required → i.binding.language ≠ .qgenC →
      ∀ b : Binding, b.language ≠ .qgenC →
        (v.decide f { i with binding := b }).map (·.placement) =
          (v.decide f i).map (·.placement) ∧
        ∀ w : View, (w.decide (f.rebind i.name b) { i with binding := b }).map (·.placement) =
          (v.decide f i).map (·.placement)) := by
  have hconsistent := v.consistent hf
  have hrefused := isRefused_iff hconsistent hi
  refine ⟨fun x => ?_, fun r ds => ?_, fun r hr => hconsistent.remoteFunction_eq hr, fun d hd => ?_,
    fun hrequired hbound b hb => ?_⟩
  · rw [View.decide_eq_error_iff, hrefused, and_assoc]
  · have hlive : ¬ IsRefused f i ↔ i.binding.language = .qgenC ∨ ¬ Stranded f i := by
      rw [hrefused, not_and_or, not_not]
    rw [← hlive]
    constructor
    · rintro ⟨d, hd, rfl, rfl⟩
      obtain ⟨hlive, hrow, -, -⟩ := View.decide_eq_ok_iff.1 hd
      exact ⟨hlive, hrow⟩
    · rintro ⟨hlive, hrow⟩
      exact ⟨_, by rw [View.decide_eq_of_routed hrow, if_neg hlive], rfl, rfl⟩
  · obtain ⟨-, -, hconv, hplace⟩ := View.decide_eq_ok_iff.1 hd
    rw [hconv, hplace]
    simp [Convention.of, Placement.of, FunctionBlock.isThread, Interface.isRequired,
      Interface.isAsynchronous, and_assoc]
  · rw [map_placement_decide hbound hrequired,
      map_placement_decide (i := { i with binding := b }) hb hrequired]
    refine ⟨rfl, fun w => ?_⟩
    rw [map_placement_decide (i := { i with binding := b }) hb hrequired]
    have hdead : isDeadCall (f.rebind i.name b) { i with binding := b } = isDeadCall f i := by
      unfold isDeadCall
      rw [callerNames_rebind]
      rfl
    rw [hdead]
    rfl

/-- An entry that stands for a synchronous call. -/
def starting : Interface :=
  { name := "Run", direction := .provided, remoteEntry := some "Compute" }

/-- Such a call. -/
def firstCall : Interface :=
  { name := "First", direction := .required, synchronism := .synchronous
    remoteFunction := some "Calc", remoteEntry := some "Compute" }

/-- The same call of another function, past its protected object. -/
def lastCall : Interface :=
  { firstCall with name := "Last", remoteFunction := some "Backup", protection := .unshielded }

/-- An artificial thread with both calls. -/
def doubleCaller : FunctionBlock :=
  { name := "VT_Calc", runtime := .thread, artificial := true
    interfaces := [starting, firstCall, lastCall] }

/-- A call of foreign code. -/
def stepping : Interface :=
  { name := "Step", direction := .required, synchronism := .synchronous
    remoteFunction := some "Calc", binding := { language := .qgenAda } }

/-- A passive function that makes it in nobody's thread. -/
def idler : FunctionBlock :=
  { name := "Backup", runtime := .passive, interfaces := [stepping] }

/-- These functions and the other callee. -/
def callerAndIdler : View where
  functions := [doubleCaller, idler, { name := "Calc", runtime := .passive }]
  sound := by decide

theorem decide_follows_routing_table_of_caller :
    (∃ d, callerAndIdler.decide doubleCaller starting = .ok d ∧
      d.route = .forwardToSibling "Backup" "Compute" .plain ∧ d.diagnostics = []) ∧
    callerAndIdler.decide idler stepping = .error ⟨"Backup", "Step"⟩ ∧
    ∀ b : Binding, b.language ≠ .qgenC →
      (callerAndIdler.decide idler { stepping with binding := b }).map (·.placement) =
        .error ⟨"Backup", "Step"⟩ := by
  obtain ⟨-, htable, -⟩ := decide_follows_routing_table (v := callerAndIdler) (f := doubleCaller)
    (by simp [callerAndIdler]) (i := starting) (by simp [doubleCaller])
  obtain ⟨hfails, -, -, -, hrebound⟩ := decide_follows_routing_table (v := callerAndIdler)
    (f := idler) (by simp [callerAndIdler]) (i := stepping) (by simp [idler])
  have hrow : Routed callerAndIdler doubleCaller starting
      (.forwardToSibling "Backup" "Compute" .plain) [] :=
    .handedOn (r := lastCall) (by decide) rfl rfl rfl
      ⟨[starting, firstCall], [], rfl, ⟨rfl, rfl, rfl⟩, by simp⟩
  have hidle : Stranded idler stepping := ⟨rfl, rfl, rfl, fun t ht => by cases ht⟩
  have hfailed := (hfails _).2 ⟨by decide, hidle, rfl⟩
  refine ⟨(htable _ _).2 ⟨.inr (fun h => by cases h.required), hrow⟩, hfailed, fun b hb => ?_⟩
  rw [(hrebound rfl (by decide) b hb).1, hfailed]
  rfl

end AdaGlue
