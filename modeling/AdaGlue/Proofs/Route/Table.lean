/-
The routing table. Each row gives the route of a kind of interface and the warnings that go with
it, and every interface falls under exactly one row. A decision takes the row of its interface,
unless the interface is a synchronous call that no thread can run; such a call is refused.
-/
import AdaGlue.Route

namespace AdaGlue

/-! ## Siblings -/

/-- `r` is a synchronous call of the entry that `i` stands for. -/
structure Interface.CallsEntryOf (r i : Interface) : Prop where
  required : r.direction = .required
  synchronous : r.synchronism = .synchronous
  entry : r.entryPoint = i.entryPoint

instance (r i : Interface) : Decidable (r.CallsEntryOf i) :=
  decidable_of_iff (r.direction = .required ∧ r.synchronism = .synchronous ∧
      r.entryPoint = i.entryPoint)
    ⟨fun h => ⟨h.1, h.2.1, h.2.2⟩, fun h => ⟨h.required, h.synchronous, h.entry⟩⟩

/-- `r` is the last interface of the function that calls the entry of `i`. -/
def FunctionBlock.LastCalling (f : FunctionBlock) (i r : Interface) : Prop :=
  ∃ front back, f.interfaces = front ++ r :: back ∧ r.CallsEntryOf i ∧
    ∀ q ∈ back, ¬ q.CallsEntryOf i

/-- The last member of a list that passes a test. -/
theorem getLast?_filter_eq_some_iff {α : Type} {p : α → Bool} {l : List α} {a : α} :
    (l.filter p).getLast? = some a ↔
      ∃ front back, l = front ++ a :: back ∧ p a = true ∧ ∀ b ∈ back, ¬ p b = true := by
  rw [List.getLast?_eq_some_iff]
  constructor
  · rintro ⟨passed, hpassed⟩
    obtain ⟨front, rest, rfl, -, hrest⟩ := List.filter_eq_append_iff.1 hpassed
    obtain ⟨skipped, back, rfl, -, ha, hback⟩ := List.filter_eq_cons_iff.1 hrest
    exact ⟨front ++ skipped, back, by simp, ha, List.filter_eq_nil_iff.1 hback⟩
  · rintro ⟨front, back, rfl, ha, hback⟩
    refine ⟨front.filter p, ?_⟩
    rw [List.filter_append, List.filter_cons_of_pos ha, List.filter_eq_nil_iff.2 hback]

namespace FunctionBlock

variable (f : FunctionBlock) (i : Interface)

theorem sibling?_eq_getLast? :
    f.sibling? i.entryPoint = (f.interfaces.filter fun r =>
      (r.isSynchronous && r.entryPoint == i.entryPoint) && r.isRequired).getLast? := by
  rw [sibling?, required, List.filter_filter]

theorem callsEntryOf_iff (r : Interface) :
    ((r.isSynchronous && r.entryPoint == i.entryPoint) && r.isRequired) = true ↔
      r.CallsEntryOf i := by
  simp only [Interface.isSynchronous, Interface.isRequired, Bool.and_eq_true, decide_eq_true_eq,
    beq_iff_eq]
  constructor
  · rintro ⟨⟨hsync, hentry⟩, hrequired⟩
    exact ⟨hrequired, hsync, hentry⟩
  · intro h
    exact ⟨⟨h.synchronous, h.entry⟩, h.required⟩

theorem sibling?_eq_some_iff (r : Interface) :
    f.sibling? i.entryPoint = some r ↔ f.LastCalling i r := by
  rw [sibling?_eq_getLast?, getLast?_filter_eq_some_iff]
  simp only [callsEntryOf_iff]
  rfl

theorem sibling?_eq_none_iff :
    f.sibling? i.entryPoint = none ↔ ∀ r ∈ f.interfaces, ¬ r.CallsEntryOf i := by
  rw [sibling?_eq_getLast?, List.getLast?_eq_none_iff, List.filter_eq_nil_iff]
  simp only [callsEntryOf_iff]

end FunctionBlock

/-! ## The table -/

/-- The rows of the table: the route of an interface, with its warnings. -/
inductive Routed (v : View) (f : FunctionBlock) (i : Interface) : Route → List Diagnostic → Prop where
  /-- Code in C of another generator is not wrapped. -/
  | skipped : i.binding.language = .qgenC → Routed v f i .skip [boundToC f i]
  /-- Synchronous entries are written together. -/
  | deferred : i.binding.language ≠ .qgenC → i.direction = .provided →
    i.synchronism = .synchronous → Routed v f i .deferToAggregate []
  /-- An artificial function makes the call that its entry stands for, as it was declared last. -/
  | handedOn {r : Interface} : i.binding.language ≠ .qgenC → i.direction = .provided →
    i.synchronism = .asynchronous → f.artificial = true → f.LastCalling i r →
    Routed v f i (.forwardToSibling r.callee i.entryPoint (.of r.protection)) []
  /-- Without such a call, the entry falls to the user after all. -/
  | fallen : i.binding.language ≠ .qgenC → i.direction = .provided →
    i.synchronism = .asynchronous → f.artificial = true →
    (∀ r ∈ f.interfaces, ¬ r.CallsEntryOf i) →
    Routed v f i (.forwardToVm (f.name ++ "_" ++ i.name)) [lacksSibling f i]
  /-- The entries of other functions are the user's. -/
  | ofUser : i.binding.language ≠ .qgenC → i.direction = .provided →
    i.synchronism = .asynchronous → f.artificial = false →
    Routed v f i (.forwardToVm (f.name ++ "_" ++ i.name)) []
  /-- Calls of the other generator's code in Ada. -/
  | foreign : i.binding.language = .qgenAda → i.direction = .required →
    Routed v f i (.callForeign ("Execute_" ++ i.entryPoint ++ "_QGenAda")) []
  /-- Synchronous calls of native code. -/
  | called : i.binding.language ≠ .qgenAda ∧ i.binding.language ≠ .qgenC →
    i.direction = .required → i.synchronism = .synchronous →
    Routed v f i (.callCallee i.callee i.entryPoint (.of i.protection)) []
  /-- Messages of a thread, sent from its process. -/
  | flushed {process : String} : i.binding.language ≠ .qgenAda ∧ i.binding.language ≠ .qgenC →
    i.direction = .required → i.synchronism = .asynchronous → f.runtime = .thread →
    f.process = some process →
    Routed v f i (.flushOutport (some (process ++ "_" ++ f.name ++ "_K"))) []
  /-- Messages of a thread without one are not sent. -/
  | unflushed : i.binding.language ≠ .qgenAda ∧ i.binding.language ≠ .qgenC →
    i.direction = .required → i.synchronism = .asynchronous → f.runtime = .thread →
    f.process = none → Routed v f i (.flushOutport none) [lacksProcess f i]
  /-- Messages of a passive function, relayed by the thread that runs it. -/
  | dispatched : i.binding.language ≠ .qgenAda ∧ i.binding.language ≠ .qgenC →
    i.direction = .required → i.synchronism = .asynchronous → f.runtime = .passive →
    Routed v f i (.dispatch (v.dispatch f i)) []

/-- Every interface falls under a row. -/
theorem exists_routed (v : View) (f : FunctionBlock) (i : Interface) :
    ∃ r ds, Routed v f i r ds := by
  by_cases hc : i.binding.language = .qgenC
  · exact ⟨_, _, .skipped hc⟩
  cases hd : i.direction with
  | provided =>
    cases hs : i.synchronism with
    | synchronous => exact ⟨_, _, .deferred hc hd hs⟩
    | asynchronous =>
      cases ha : f.artificial with
      | false => exact ⟨_, _, .ofUser hc hd hs ha⟩
      | true =>
        rcases hsib : f.sibling? i.entryPoint with _ | r
        · exact ⟨_, _, .fallen hc hd hs ha ((f.sibling?_eq_none_iff i).1 hsib)⟩
        · exact ⟨_, _, .handedOn hc hd hs ha ((f.sibling?_eq_some_iff i r).1 hsib)⟩
  | required =>
    by_cases hq : i.binding.language = .qgenAda
    · exact ⟨_, _, .foreign hq hd⟩
    cases hs : i.synchronism with
    | synchronous => exact ⟨_, _, .called ⟨hq, hc⟩ hd hs⟩
    | asynchronous =>
      cases hr : f.runtime with
      | passive => exact ⟨_, _, .dispatched ⟨hq, hc⟩ hd hs hr⟩
      | thread =>
        rcases hp : f.process with _ | p
        · exact ⟨_, _, .unflushed ⟨hq, hc⟩ hd hs hr hp⟩
        · exact ⟨_, _, .flushed ⟨hq, hc⟩ hd hs hr hp⟩

/-- The warnings of a row name the function. -/
theorem Routed.attributed {v : View} {f : FunctionBlock} {i : Interface} {r : Route}
    {ds : List Diagnostic} (h : Routed v f i r ds) : ∀ d ∈ ds, d.function = some f.name := by
  cases h <;> simp [boundToC, lacksSibling, lacksProcess, Diagnostic.atInterface]

/-- The call is refused: no thread can run it. Code in C of the other generator is not looked at. -/
def IsRefused (f : FunctionBlock) (i : Interface) : Prop :=
  i.binding.language ≠ .qgenC ∧ i.direction = .required ∧ isDeadCall f i = true

instance (f : FunctionBlock) (i : Interface) : Decidable (IsRefused f i) :=
  inferInstanceAs (Decidable (_ ∧ _))

theorem not_isRefused_of_live {f : FunctionBlock} {i : Interface} (h : isDeadCall f i = false) :
    ¬ IsRefused f i := by
  rintro ⟨-, -, hdead⟩
  rw [h] at hdead
  cases hdead

namespace View

variable {v : View} {f : FunctionBlock} {i : Interface} {r : Route} {ds : List Diagnostic}

/-- A required interface goes its way unless it is refused. -/
theorem route_of_required (hc : i.binding.language ≠ .qgenC) (hd : i.direction = .required) :
    v.route f i =
      if IsRefused f i then .error ⟨f.name, i.name⟩ else .ok (v.requiredRoute f i) := by
  unfold route
  rw [if_neg hc, hd]
  simp [IsRefused, hc, hd]

theorem requiredRoute_native (hn : i.binding.language ≠ .qgenAda ∧ i.binding.language ≠ .qgenC) :
    v.requiredRoute f i = v.nativeRequiredRoute f i := by
  have hconv : Convention.of i = .native := by simp [Convention.of, hn.1]
  rw [requiredRoute, hconv]

/-- The route is that of the row, unless the interface is refused. -/
theorem route_eq_of_routed (h : Routed v f i r ds) :
    v.route f i = if IsRefused f i then .error ⟨f.name, i.name⟩ else .ok (r, ds) := by
  have hprovided : i.direction = .provided → ¬ IsRefused f i := by
    rintro hd ⟨-, hr, -⟩
    rw [hd] at hr
    cases hr
  cases h with
  | skipped hc =>
    rw [if_neg fun hx => hx.1 hc, route, if_pos hc]
  | deferred hc hd hs =>
    rw [if_neg (hprovided hd), route, if_neg hc, hd, hs]
  | handedOn hc hd hs ha hlast =>
    rw [if_neg (hprovided hd), route, if_neg hc, hd, hs, asyncProvidedRoute, if_pos ha,
      (f.sibling?_eq_some_iff i _).2 hlast]
  | fallen hc hd hs ha hnone =>
    rw [if_neg (hprovided hd), route, if_neg hc, hd, hs, asyncProvidedRoute, if_pos ha,
      (f.sibling?_eq_none_iff i).2 hnone]
    rfl
  | ofUser hc hd hs ha =>
    rw [if_neg (hprovided hd), route, if_neg hc, hd, hs, asyncProvidedRoute, ha]
    rfl
  | foreign hq hd =>
    have hconv : Convention.of i = .qgenAda := by simp [Convention.of, hq]
    rw [route_of_required (by simp [hq]) hd, requiredRoute, hconv]
    rfl
  | called hn hd hs =>
    rw [route_of_required hn.2 hd, requiredRoute_native hn, nativeRequiredRoute, hs]
  | flushed hn hd hs hr hp =>
    rw [route_of_required hn.2 hd, requiredRoute_native hn, nativeRequiredRoute, hs, hr]
    simp [flushRoute, hp, FunctionBlock.entityConstant]
  | unflushed hn hd hs hr hp =>
    rw [route_of_required hn.2 hd, requiredRoute_native hn, nativeRequiredRoute, hs, hr]
    simp [flushRoute, hp]
  | dispatched hn hd hs hr =>
    rw [route_of_required hn.2 hd, requiredRoute_native hn, nativeRequiredRoute, hs, hr]

theorem routed_of_route (h : v.route f i = .ok (r, ds)) :
    ¬ IsRefused f i ∧ Routed v f i r ds := by
  obtain ⟨r', ds', hrow⟩ := exists_routed v f i
  rw [route_eq_of_routed hrow] at h
  split at h
  · cases h
  · next hlive =>
    cases h
    exact ⟨hlive, hrow⟩

/-- What is decided for an interface, read off its row. -/
theorem decide_eq_of_routed (h : Routed v f i r ds) :
    v.decide f i =
      if IsRefused f i then .error ⟨f.name, i.name⟩
      else .ok { route := r, convention := .of i, placement := .of f i, diagnostics := ds } := by
  unfold decide
  rw [route_eq_of_routed h]
  split <;> rfl

theorem decide_eq_error_iff {x : DeadCode} :
    v.decide f i = .error x ↔ IsRefused f i ∧ x = ⟨f.name, i.name⟩ := by
  obtain ⟨r, ds, hrow⟩ := exists_routed v f i
  rw [decide_eq_of_routed hrow]
  split
  · next hx => simp [hx, eq_comm]
  · next hx => simp [hx]

theorem decide_eq_ok_iff {d : Decision} :
    v.decide f i = .ok d ↔ ¬ IsRefused f i ∧ Routed v f i d.route d.diagnostics ∧
      d.convention = .of i ∧ d.placement = .of f i := by
  constructor
  · intro h
    obtain ⟨r, ds, hrow⟩ := exists_routed v f i
    rw [decide_eq_of_routed hrow] at h
    split at h
    · cases h
    · next hlive =>
      cases h
      exact ⟨hlive, hrow, rfl, rfl⟩
  · obtain ⟨r, c, p, ds⟩ := d
    rintro ⟨hlive, hrow, rfl, rfl⟩
    rw [decide_eq_of_routed hrow, if_neg hlive]

end View

end AdaGlue
