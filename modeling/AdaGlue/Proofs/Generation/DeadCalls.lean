/-
When a run fails. A passive function runs in the threads of its callers, so a synchronous call of
it that no thread can come to is dead, and the middleware in Ada cannot be given wrappers for it. A
run fails exactly when wrappers are made and a function of the view has a dead call, and it fails
with the first one in the order of the view, whatever stands below its root.
-/
import AdaGlue.Proofs.Generation.Outcome
import AdaGlue.Proofs.View.Consistency

namespace AdaGlue

/-! ## Threads that may run a call -/

/-- The thread `t` may run the calls of `f` through `i`: any thread of the function may, unless `i`
names the provided interfaces that it is reached from; then the threads of these may. -/
def MayRun (f : FunctionBlock) (i : Interface) (t : String) : Prop :=
  if i.callingInterfaces = [] then t ∈ f.callingThreads
  else ∃ p ∈ f.provided, p.name ∈ i.callingInterfaces ∧ t ∈ p.callingThreads

theorem mem_callerNames_iff {known : List String} {f : FunctionBlock} (hf : f.Consistent known)
    {i : Interface} (hi : i ∈ f.interfaces) (t : String) :
    t ∈ (callerNames f i).toList ↔ MayRun f i t := by
  unfold callerNames MayRun offeredCallers
  rw [OrderedSet.mem_ofList]
  by_cases hany : i.callingInterfaces = []
  · simp [hany]
  simp only [List.isEmpty_iff, hany, if_false, List.mem_flatMap]
  constructor
  · rintro ⟨c, hc, ht⟩
    -- the name leads to the provided interface that bears it, so its threads are the ones meant
    obtain ⟨p, hp, rfl⟩ := hf.calling i hi c hc
    rw [hf.interface?_eq_some_iff.2 ⟨List.mem_of_mem_filter hp, rfl⟩] at ht
    exact ⟨p, hp, hc, ht⟩
  · rintro ⟨p, hp, hc, ht⟩
    refine ⟨p.name, hc, ?_⟩
    rw [hf.interface?_eq_some_iff.2 ⟨List.mem_of_mem_filter hp, rfl⟩]
    exact ht

theorem callerNames_isEmpty_iff {known : List String} {f : FunctionBlock} (hf : f.Consistent known)
    {i : Interface} (hi : i ∈ f.interfaces) :
    (callerNames f i).isEmpty = true ↔ ∀ t, ¬ MayRun f i t := by
  rw [OrderedSet.isEmpty, List.isEmpty_iff, List.eq_nil_iff_forall_not_mem]
  exact forall_congr' fun t => not_congr (mem_callerNames_iff hf hi t)

/-! ## Dead calls -/

/-- A synchronous call that no thread can come to, of a passive function whose wrappers are to be
written here. -/
structure DeadCall (f : FunctionBlock) (i : Interface) : Prop where
  notForeign : f.language ≠ .qgenAda ∧ f.language ≠ .qgenC
  passive : f.runtime = .passive
  required : i.direction = .required
  synchronous : i.synchronism = .synchronous
  bound : i.binding.language ≠ .qgenC
  unreached : ∀ t, ¬ MayRun f i t

theorem isForeign_eq_false_iff (l : Language) :
    l.isForeign = false ↔ l ≠ .qgenAda ∧ l ≠ .qgenC := by
  cases l <;> simp [Language.isForeign]

theorem deadCall?_eq_some_iff {known : List String} {f : FunctionBlock} (hf : f.Consistent known)
    {i : Interface} (hi : i ∈ f.interfaces) (x : DeadCode) :
    deadCall? f i = some x ↔ DeadCall f i ∧ x = ⟨f.name, i.name⟩ := by
  rw [deadCall?, Option.ite_none_right_eq_some]
  simp only [isDeadCall, Bool.and_eq_true, Bool.not_eq_true', isForeign_eq_false_iff, bne_iff_ne,
    Interface.isRequired, Interface.isSynchronous, FunctionBlock.isPassive, decide_eq_true_eq,
    callerNames_isEmpty_iff hf hi, Option.some.injEq]
  constructor
  · rintro ⟨⟨⟨⟨hl, hb⟩, hr⟩, ⟨hs, hp⟩, hu⟩, rfl⟩
    exact ⟨⟨hl, hp, hr, hs, hb, hu⟩, rfl⟩
  · rintro ⟨h, rfl⟩
    exact ⟨⟨⟨⟨h.notForeign, h.bound⟩, h.required⟩, ⟨h.synchronous, h.passive⟩, h.unreached⟩, rfl⟩

theorem deadCall?_eq_none_iff {known : List String} {f : FunctionBlock} (hf : f.Consistent known)
    {i : Interface} (hi : i ∈ f.interfaces) : deadCall? f i = none ↔ ¬ DeadCall f i := by
  rw [Option.eq_none_iff_forall_ne_some]
  constructor
  · intro h hdead
    exact h _ ((deadCall?_eq_some_iff hf hi _).2 ⟨hdead, rfl⟩)
  · intro h x hx
    exact h ((deadCall?_eq_some_iff hf hi x).1 hx).1

/-- The first dead call of a function. -/
def FirstDeadCallOf (f : FunctionBlock) (i : Interface) : Prop :=
  ∃ front back, f.interfaces = front ++ i :: back ∧ DeadCall f i ∧ ∀ j ∈ front, ¬ DeadCall f j

/-- The first dead call of a list of functions: no function before `f` has one, and none of the
interfaces of `f` before `i` is one. -/
def FirstDeadCall (functions : List FunctionBlock) (f : FunctionBlock) (i : Interface) : Prop :=
  ∃ before after, functions = before ++ f :: after ∧ FirstDeadCallOf f i ∧
    ∀ g ∈ before, ∀ j ∈ g.interfaces, ¬ DeadCall g j

/-- The first fault of a list, where `P` says what the faults of its members are and `Q` which
members have none. -/
theorem findSome?_eq_some_iff_of_mem {α ε : Type} {fault : α → Option ε} {P : α → ε → Prop}
    {Q : α → Prop} {l : List α} (hsome : ∀ a ∈ l, ∀ x, fault a = some x ↔ P a x)
    (hnone : ∀ a ∈ l, fault a = none ↔ Q a) (x : ε) :
    l.findSome? fault = some x ↔
      ∃ front a back, l = front ++ a :: back ∧ P a x ∧ ∀ b ∈ front, Q b := by
  rw [List.findSome?_eq_some_iff]
  refine exists_congr fun front => exists_congr fun a => exists_congr fun back => ?_
  refine and_congr_right fun hsplit => ?_
  have ha : a ∈ l := by rw [hsplit]; simp
  have hfront : ∀ b ∈ front, b ∈ l := by rw [hsplit]; simp +contextual
  exact and_congr (hsome a ha x) (forall₂_congr fun b hb => hnone b (hfront b hb))

theorem findSome?_deadCall?_eq_some_iff {known : List String} {f : FunctionBlock}
    (hf : f.Consistent known) (x : DeadCode) :
    f.interfaces.findSome? (deadCall? f) = some x ↔
      ∃ i, FirstDeadCallOf f i ∧ x = ⟨f.name, i.name⟩ := by
  rw [findSome?_eq_some_iff_of_mem (fun i hi x => deadCall?_eq_some_iff hf hi x)
    (fun i hi => deadCall?_eq_none_iff hf hi)]
  constructor
  · rintro ⟨front, i, back, hsplit, ⟨hdead, rfl⟩, hfront⟩
    exact ⟨i, ⟨front, back, hsplit, hdead, hfront⟩, rfl⟩
  · rintro ⟨i, ⟨front, back, hsplit, hdead, hfront⟩, rfl⟩
    exact ⟨front, i, back, hsplit, ⟨hdead, rfl⟩, hfront⟩

theorem findSome?_deadCall?_eq_none_iff {known : List String} {f : FunctionBlock}
    (hf : f.Consistent known) :
    f.interfaces.findSome? (deadCall? f) = none ↔ ∀ j ∈ f.interfaces, ¬ DeadCall f j := by
  rw [List.findSome?_eq_none_iff]
  exact forall₂_congr fun j hj => deadCall?_eq_none_iff hf hj

/-! ## Runs -/

/-- Wrappers are made at all. -/
structure Options.WantsWrappers (o : Options) : Prop where
  enabled : .wrappers ∈ o.backends
  text : o.concurrencyViewOnly = false
  middleware : o.middlewareInC = false

namespace Setting

variable (s : Setting)

theorem fault?_eq_findSome? :
    s.fault? = s.view.functions.findSome? fun f => (s.backendsFor f).findSome? (·.fault? f) := by
  unfold fault? jobs
  induction s.view.functions with
  | nil => rfl
  | cons f l ih =>
    rw [List.flatMap_cons, List.findSome?_append, ih, List.findSome?_map, List.findSome?_cons]
    show Option.or ((s.backendsFor f).findSome? (·.fault? f)) _ = _
    cases (s.backendsFor f).findSome? (·.fault? f) <;> rfl

theorem mem_backendsFor {b : Backend} {f : FunctionBlock} :
    b ∈ s.backendsFor f ↔ b ∈ s.options.backends ∧ b.applies s f = true := by
  unfold backendsFor
  cases b <;> simp [Backend.all, Options.enabled]

/-- Only wrappers have faults. -/
theorem findSome?_backendsFor (f : FunctionBlock) :
    (s.backendsFor f).findSome? (·.fault? f) =
      if .wrappers ∈ s.backendsFor f then f.interfaces.findSome? (deadCall? f) else none := by
  rcases s.backendsFor_cases f with h | h | h | h <;>
    rcases hx : f.interfaces.findSome? (deadCall? f) with _ | x <;>
    simp [h, Backend.fault?, hx]

/-- Where wrappers are made, a function fails at its first dead call: one that gets no wrappers is
foreign and has none. -/
theorem findSome?_backendsFor_of_wanted (h : s.options.WantsWrappers) (f : FunctionBlock) :
    (s.backendsFor f).findSome? (·.fault? f) = f.interfaces.findSome? (deadCall? f) := by
  rw [findSome?_backendsFor]
  split
  · rfl
  · next hout =>
    -- the only functions left out here are code in C of another generator
    have hforeign : f.language.isForeign = true := by
      by_contra hf
      refine hout (s.mem_backendsFor.2 ⟨h.enabled, ?_⟩)
      have hl := (isForeign_eq_false_iff _).1 (Bool.eq_false_iff.2 hf)
      simp [Backend.applies, Wrappers.applies, h.text, h.middleware, hl.2]
    rw [eq_comm, List.findSome?_eq_none_iff]
    intro i _
    simp [deadCall?, hforeign]

theorem findSome?_backendsFor_of_unwanted (h : ¬ s.options.WantsWrappers) (f : FunctionBlock) :
    (s.backendsFor f).findSome? (·.fault? f) = none := by
  rw [findSome?_backendsFor, if_neg]
  intro hin
  obtain ⟨hb, happ⟩ := s.mem_backendsFor.1 hin
  simp only [Backend.applies, Wrappers.applies, Bool.and_eq_true, Bool.not_eq_true'] at happ
  exact h ⟨hb, happ.1.1, happ.1.2⟩

/-- Wrappers are made, and some function of the view has a dead call. -/
def HasDeadCall : Prop :=
  s.options.WantsWrappers ∧ ∃ f ∈ s.view.functions, ∃ i ∈ f.interfaces, DeadCall f i

theorem fault?_eq_some_iff (x : DeadCode) :
    s.fault? = some x ↔ s.options.WantsWrappers ∧
      ∃ f i, FirstDeadCall s.view.functions f i ∧ x = ⟨f.name, i.name⟩ := by
  rw [fault?_eq_findSome?]
  by_cases hw : s.options.WantsWrappers
  swap
  · rw [List.findSome?_eq_none_iff.2 fun f _ => findSome?_backendsFor_of_unwanted s hw f]
    simp [hw]
  simp only [findSome?_backendsFor_of_wanted s hw, hw, true_and]
  rw [findSome?_eq_some_iff_of_mem
    (fun f hf x => findSome?_deadCall?_eq_some_iff (s.view.consistent hf) x)
    (fun f hf => findSome?_deadCall?_eq_none_iff (s.view.consistent hf))]
  constructor
  · rintro ⟨before, f, after, hsplit, ⟨i, hi, rfl⟩, hbefore⟩
    exact ⟨f, i, ⟨before, after, hsplit, hi, hbefore⟩, rfl⟩
  · rintro ⟨f, i, ⟨before, after, hsplit, hi, hbefore⟩, rfl⟩
    exact ⟨before, f, after, hsplit, ⟨i, hi, rfl⟩, hbefore⟩

theorem fault?_eq_none_iff : s.fault? = none ↔ ¬ s.HasDeadCall := by
  rw [fault?_eq_findSome?, List.findSome?_eq_none_iff]
  by_cases hw : s.options.WantsWrappers
  · simp only [findSome?_backendsFor_of_wanted s hw, HasDeadCall, hw, true_and, not_exists, not_and]
    exact forall₂_congr fun f hf => findSome?_deadCall?_eq_none_iff (s.view.consistent hf)
  · simp [findSome?_backendsFor_of_unwanted s hw, HasDeadCall, hw]

/-- A run fails exactly when wrappers are made and some function has a dead call; it fails with the
first dead call in the order of functions and then of interfaces, ends with an output in every
other case, and what stands below its root decides nothing of that. -/
theorem generate_fails_iff_dead_call :
    (∀ x, s.generate = .error x ↔ s.options.WantsWrappers ∧
      ∃ f i, FirstDeadCall s.view.functions f i ∧ x = ⟨f.name, i.name⟩) ∧
    ((∃ x, s.generate = .error x) ↔ s.HasDeadCall) ∧
    (¬ s.HasDeadCall → ∃ out, s.generate = .ok out) ∧
    ∀ occupied x, { s with occupied := occupied }.generate = .error x ↔ s.generate = .error x := by
  have hiff : ∀ t : Setting, ∀ x, t.generate = .error x ↔ t.options.WantsWrappers ∧
      ∃ f i, FirstDeadCall t.view.functions f i ∧ x = ⟨f.name, i.name⟩ := fun t x =>
    (t.generate_eq_error_iff x).trans (t.fault?_eq_some_iff x)
  refine ⟨hiff s, ?_, fun hlive => ?_, fun occupied x => ?_⟩
  · constructor
    · rintro ⟨x, hx⟩
      by_contra hlive
      rw [generate_eq_error_iff, s.fault?_eq_none_iff.2 hlive] at hx
      cases hx
    · intro hdead
      obtain ⟨x, hx⟩ := Option.ne_none_iff_exists'.1 fun h => s.fault?_eq_none_iff.1 h hdead
      exact ⟨x, s.generate_of_fault hx⟩
  · exact ⟨_, s.generate_of_live (s.fault?_eq_none_iff.2 hlive)⟩
  · rw [hiff s x, hiff _ x]

end Setting

end AdaGlue
