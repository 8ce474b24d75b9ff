/-
The generation of wrappers provides for cases that should never come up: a file that is not open, a
route that leads to no procedure, a call without a callee. It then writes nothing, or an empty
statement, or a name that is empty. Here it is done strictly, so that each of these cases is a
failure of its own, and it ends in the same way: for no function of a view does one of them come up.
-/
import AdaGlue.Proofs.Generation.Warnings
import AdaGlue.Proofs.Route.Decisions

namespace AdaGlue.Wrappers

/-- A case that is provided for and should not come up. -/
inductive Stray where
  /-- An interface needs a file that is not open. -/
  | notOpen (kinds : List Destination) (interface : String)
  /-- The procedure of an asynchronous entry is wanted for a route that forwards nothing. -/
  | strayEntry (route : Route)
  /-- The procedure of a call is wanted for a route that calls nothing. -/
  | strayCall (route : Route)
  /-- A callee is named by an interface without one. -/
  | noCallee (interface : String)
  deriving DecidableEq, Repr

namespace Strict

/-! ## Routes whose callees are there -/

/-- The function that a required interface calls. -/
def callee (i : Interface) : Except Stray String :=
  match i.remoteFunction with
  | some c => .ok c
  | none => .error (.noCallee i.name)

/-- The route of an asynchronous provided interface. -/
def asyncProvidedRoute (f : FunctionBlock) (i : Interface) :
    Except Stray (Route × List Diagnostic) :=
  if f.artificial then
    match f.sibling? i.entryPoint with
    | some r => return (.forwardToSibling (← callee r) i.entryPoint (.of r.protection), [])
    | none => return (.forwardToVm (Ada.userSymbol f.name i.name), [lacksSibling f i])
  else return (.forwardToVm (Ada.userSymbol f.name i.name), [])

/-- The route of a required interface whose far side is native code. -/
def nativeRequiredRoute (v : View) (f : FunctionBlock) (i : Interface) :
    Except Stray (Route × List Diagnostic) :=
  match i.synchronism, f.runtime with
  | .synchronous, _ => return (.callCallee (← callee i) i.entryPoint (.of i.protection), [])
  | .asynchronous, .thread => return flushRoute f i
  | .asynchronous, .passive => return (.dispatch (v.dispatch f i), [])

/-- The route of a required interface. -/
def requiredRoute (v : View) (f : FunctionBlock) (i : Interface) :
    Except Stray (Route × List Diagnostic) :=
  match Convention.of i with
  | .qgenAda => return (.callForeign (Ada.foreignProcedure i.entryPoint), [])
  | .native => nativeRequiredRoute v f i

/-- The route of an interface, with the warnings that go with it. -/
def route (v : View) (f : FunctionBlock) (i : Interface) :
    ExceptT DeadCode (Except Stray) (Route × List Diagnostic) :=
  if i.binding.language = .qgenC then return (.skip, [boundToC f i])
  else
    match i.direction, i.synchronism with
    | .provided, .synchronous => return (.deferToAggregate, [])
    | .provided, .asynchronous => liftM (asyncProvidedRoute f i)
    | .required, _ =>
      if isDeadCall f i then throw ⟨f.name, i.name⟩ else liftM (requiredRoute v f i)

/-- Decides how calls through `i` travel. -/
def decision (v : View) (f : FunctionBlock) (i : Interface) :
    ExceptT DeadCode (Except Stray) Decision := do
  let (route, diagnostics) ← route v f i
  return { route, convention := .of i, placement := .of f i, diagnostics }

/-! ## Procedures that have their files and their routes -/

/-- The emission, if it answers that all these files are open. -/
def require (e : Emission) (kinds : List Destination) (interface : String) :
    Except Stray Emission :=
  match e.require kinds interface with
  | (true, e) => .ok e
  | (false, _) => .error (.notOpen kinds interface)

/-- The wrapper of an asynchronous provided interface. -/
def asyncProvided (i : Interface) : Route → Except Stray Fragment
  | .forwardToVm symbol => .ok (Wrappers.asyncProvided i (.forwardToVm symbol))
  | .forwardToSibling callee entry accessor =>
    .ok (Wrappers.asyncProvided i (.forwardToSibling callee entry accessor))
  | route => .error (.strayEntry route)

/-- The wrapper of a required interface. -/
def required (f : FunctionBlock) (i : Interface) (d : Decision) : Except Stray Fragment :=
  match d.route with
  | .callForeign _ | .callCallee _ _ _ | .flushOutport _ | .dispatch _ =>
    .ok (Wrappers.required f i d)
  | route => .error (.strayCall route)

/-- Writes what has been decided for an interface. -/
def follow (e : Emission) (i : Interface) (d : Decision) : Except Stray Emission :=
  match d.route with
  | .skip => return e
  | .deferToAggregate => return record e i
  | .forwardToVm _ | .forwardToSibling _ _ _ => do
    let e ← require e [.wrappersDecl, .wrappersBody] i.name
    return writeFragment e .wrappersDecl .wrappersBody (← asyncProvided i d.route)
  | _ => do
    let (decl, body) := placed d.placement
    let e ← require e [decl, body] i.name
    return writeFragment e decl body (← required e.function i d)

/-- Writes the wrapper of an interface. -/
def emit (v : View) (e : Emission) (i : Interface) : ExceptT DeadCode (Except Stray) Emission :=
  if e.function.language.isForeign then return e
  else do
    let d ← decision v e.function i
    follow (e.reportAll d.diagnostics) i d

/-- The wrappers of a function. -/
def generate (v : View) (f : FunctionBlock) : ExceptT DeadCode (Except Stray) Output := do
  let e ← f.interfaces.foldlM (emit v) (begin v f)
  return finish e

/-! ## Strict steps that end as the plain ones do -/

/-- No stray case comes up, and the end is the same. -/
def EndsAs {α : Type} (x : ExceptT DeadCode (Except Stray) α) (y : Except DeadCode α) : Prop :=
  x.run = .ok y

theorem EndsAs.pure {α : Type} (a : α) : EndsAs (Pure.pure a) (.ok a) := rfl

theorem EndsAs.lift {α : Type} {x : Except Stray α} {a : α} (h : x = .ok a) :
    EndsAs (liftM x) (.ok a) := by
  rw [h]
  rfl

theorem EndsAs.bind {α β : Type} {x : ExceptT DeadCode (Except Stray) α} {y : Except DeadCode α}
    {g : α → ExceptT DeadCode (Except Stray) β} {h : α → Except DeadCode β} (hx : EndsAs x y)
    (hg : ∀ a, y = .ok a → EndsAs (g a) (h a)) : EndsAs (x >>= g) (y >>= h) := by
  unfold EndsAs at hx ⊢
  rw [ExceptT.run_bind, hx]
  cases y with
  | error e => rfl
  | ok a => exact hg a rfl

section Routes

variable {known : List String} {f : FunctionBlock} (hf : f.Consistent known) {i : Interface}

include hf

/-- A required interface of a function whose names fit has a callee. -/
theorem callee_eq (hi : i ∈ f.interfaces) (hrequired : i.direction = .required) :
    callee i = .ok i.callee := by
  unfold callee
  rw [hf.remoteFunction_eq hi hrequired]

theorem asyncProvidedRoute_eq (i : Interface) :
    asyncProvidedRoute f i = .ok (AdaGlue.asyncProvidedRoute f i) := by
  unfold asyncProvidedRoute AdaGlue.asyncProvidedRoute
  split
  · rcases hsib : f.sibling? i.entryPoint with _ | r
    · rfl
    · -- the sibling is a call of the same function
      obtain ⟨front, back, hsplit, hcalls, -⟩ := (f.sibling?_eq_some_iff i r).1 hsib
      have hr : r ∈ f.interfaces := by rw [hsplit]; simp
      dsimp only
      rw [callee_eq hf hr hcalls.required]
      rfl
  · rfl

variable (hi : i ∈ f.interfaces)

include hi

theorem requiredRoute_eq (v : View) (hrequired : i.direction = .required) :
    requiredRoute v f i = .ok (v.requiredRoute f i) := by
  unfold requiredRoute View.requiredRoute
  cases Convention.of i with
  | qgenAda => rfl
  | native =>
    unfold nativeRequiredRoute View.nativeRequiredRoute
    cases i.synchronism with
    | synchronous =>
      dsimp only
      rw [callee_eq hf hi hrequired]
      rfl
    | asynchronous => cases f.runtime <;> rfl

theorem route_endsAs (v : View) : EndsAs (route v f i) (v.route f i) := by
  unfold route View.route
  split
  · exact .pure _
  · cases hdirection : i.direction with
    | provided =>
      cases i.synchronism with
      | synchronous => exact .pure _
      | asynchronous => exact .lift (asyncProvidedRoute_eq hf i)
    | required =>
      dsimp only
      split
      · rfl
      · exact .lift (requiredRoute_eq hf hi v hdirection)

theorem decision_endsAs (v : View) : EndsAs (decision v f i) (v.decide f i) :=
  (route_endsAs hf hi v).bind fun _ _ => .pure _

end Routes

section Steps

variable {f : FunctionBlock} {e : Emission} (hready : Ready f e) {i : Interface}
  (hi : i ∈ f.interfaces)

include hready hi

/-- Whatever the route is, the case that is made for it finds its files and its procedure. -/
theorem follow_eq_ok {d : Decision} (hplace : d.placement = .of f i) :
    follow e i d = .ok (Wrappers.follow e i d) := by
  have hwrappers : e.isOpen .wrappersDecl = true ∧ e.isOpen .wrappersBody = true := by
    rw [hready.opened, hready.opened]
    exact isOpen_wrappers f
  have hplaced : e.isOpen (placed d.placement).1 = true ∧
      e.isOpen (placed d.placement).2 = true := by
    rw [hready.opened, hready.opened, hplace]
    exact isOpen_placed hi
  unfold follow Wrappers.follow Emission.writePair require
  cases hroute : d.route with
  | skip | deferToAggregate => rfl
  | forwardToVm _ | forwardToSibling _ _ _ =>
    dsimp only
    rw [Emission.require_of_open hwrappers.1 hwrappers.2]
    rfl
  | callForeign _ | callCallee _ _ _ | flushOutport _ | dispatch _ =>
    have hcall : required e.function i d = .ok (Wrappers.required e.function i d) := by
      unfold required
      rw [hroute]
    dsimp only
    rw [Emission.require_of_open hplaced.1 hplaced.2]
    exact congrArg (Functor.map (writeFragment e _ _)) hcall

end Steps

/-- One interface of a function whose names fit is written strictly as it is written. -/
theorem emit_endsAs {known : List String} {f : FunctionBlock} (hf : f.Consistent known) (v : View)
    {e : Emission} (hready : Ready f e) {i : Interface} (hi : i ∈ f.interfaces) :
    EndsAs (emit v e i) (Wrappers.emit v e i) := by
  unfold emit Wrappers.emit
  rw [hready.function]
  split
  · exact .pure _
  · refine (decision_endsAs hf hi v).bind fun d hd => .lift ?_
    have hreported : Ready f (e.reportAll d.diagnostics) := ⟨hready.function, hready.opened⟩
    exact follow_eq_ok hreported hi (decide_eq_ok hd).2.2

/-- All interfaces, from the first to the one at which the generation fails or to the last. -/
theorem foldlM_emit_endsAs {known : List String} {f : FunctionBlock} (hf : f.Consistent known)
    (v : View) {l : List Interface} (hl : ∀ i ∈ l, i ∈ f.interfaces) {e : Emission}
    (hready : Ready f e) : EndsAs (l.foldlM (emit v) e) (l.foldlM (Wrappers.emit v) e) := by
  induction l generalizing e with
  | nil => exact .pure e
  | cons i l ih =>
    rw [List.foldlM_cons, List.foldlM_cons]
    refine (emit_endsAs hf v hready (hl i List.mem_cons_self)).bind fun e' he' => ?_
    exact ih (fun j hj => hl j (List.mem_cons_of_mem _ hj)) (hready.of_grows (grows_of_emit he'))

theorem generate_endsAs {known : List String} {f : FunctionBlock} (hf : f.Consistent known)
    (s : Setting) : EndsAs (generate s.view f) (s.generateFunction .wrappers f) :=
  (foldlM_emit_endsAs hf s.view (fun _ hi => hi) (ready_begin s.view f)).bind fun _ _ => .pure _

end Strict

/-- However far the interfaces of a function have been written, nobody has been told of a file that
is not open. -/
theorem code_ne_of_mem_diagnostics (v : View) {f : FunctionBlock} {l : List Interface}
    (hl : ∀ i ∈ l, i ∈ f.interfaces) {e : Emission} (he : l.foldlM (emit v) (begin v f) = .ok e)
    {d : Diagnostic} (hd : d ∈ e.diagnostics) : d.code ≠ .missingDestination := by
  have hready := ready_begin v f
  cases hforeign : f.language.isForeign with
  | true =>
    rw [foldlM_emit_of_foreign (by rw [hready.function, hforeign])] at he
    cases he
    rw [diagnostics_begin, hforeign, if_pos rfl, List.mem_singleton] at hd
    rw [hd]
    intro hcode
    cases hcode
  | false =>
    have hremarks := foldlM_emit_remarks hforeign hl hready he
    rw [diagnostics_begin, hforeign] at hremarks
    have hmem : d.remark ∈ e.diagnostics.map (·.remark) := List.mem_map_of_mem hd
    rw [hremarks] at hmem
    obtain ⟨i, -, hi⟩ := List.mem_flatMap.1 hmem
    intro hcode
    have hname := (mem_remarksAt hi).2.2
    simp [Diagnostic.remark, hcode, DiagnosticCode.name] at hname

/-- For no function of a view does a stray case come up: the strict generation ends with the same
output or at the same dead call, and at no point of it has a file been missed. -/
theorem no_stray_case (s : Setting) {f : FunctionBlock} (hf : f ∈ s.view.functions) :
    (Strict.generate s.view f).run = .ok (s.generateFunction .wrappers f) ∧
      (∀ l, l <+: f.interfaces → ∀ e, l.foldlM (emit s.view) (begin s.view f) = .ok e →
        ∀ d ∈ e.diagnostics, d.code ≠ .missingDestination) ∧
      ∀ out, s.generateFunction .wrappers f = .ok out →
        ∀ d ∈ out.diagnostics, d.code ≠ .missingDestination := by
  refine ⟨Strict.generate_endsAs (s.view.consistent hf) s, ?_, ?_⟩
  · intro l hl e he d hd
    exact code_ne_of_mem_diagnostics s.view (fun i hi => hl.subset hi) he hd
  · intro out hout d hd
    obtain ⟨e, he, rfl⟩ := s.generateFunction_wrappers_eq_ok hout
    rw [diagnostics_finish] at hd
    exact code_ne_of_mem_diagnostics s.view (fun i hi => hi) he hd

/-- A thread made by the tools, whose interfaces take one route each. -/
def relay : FunctionBlock :=
  { name := "Relay", runtime := .thread, process := some "p1", artificial := true
    interfaces :=
      [{ name := "Go", direction := .provided },
       { name := "Go_On", direction := .required, synchronism := .synchronous
         remoteFunction := some "Store", remoteEntry := some "Go" },
       { name := "Log", direction := .required, remoteFunction := some "Store" },
       { name := "Tune", direction := .required, remoteFunction := some "Store"
         binding := { language := .qgenAda } },
       { name := "State", direction := .provided, synchronism := .synchronous },
       { name := "Raw", direction := .provided, binding := { language := .qgenC } },
       { name := "Tick", direction := .provided }] }

/-- A passive function with a message that nobody can relay. -/
def store : FunctionBlock :=
  { name := "Store", runtime := .passive
    interfaces := [{ name := "Full", direction := .required, remoteFunction := some "Relay" }] }

def relayAndStore : View where
  functions := [relay, store]
  sound := by decide

/-- A thread that calls nobody, as no view has one. -/
def lost : FunctionBlock :=
  { name := "Lost", runtime := .thread
    interfaces := [{ name := "Ask", direction := .required, synchronism := .synchronous }] }

theorem no_stray_case_of_relay :
    ((relay.interfaces.map fun i => (relayAndStore.route relay i).toOption.map (·.1)) =
        [some (.forwardToSibling "Store" "Go" .shielded), some (.callCallee "Store" "Go" .shielded),
         some (.flushOutport (some "p1_Relay_K")), some (.callForeign "Execute_Tune_QGenAda"),
         some .deferToAggregate, some .skip, some (.forwardToVm "Relay_Tick")] ∧
      (Strict.generate relayAndStore relay).run =
        .ok (Setting.generateFunction { view := relayAndStore } .wrappers relay)) ∧
    ((store.interfaces.map fun i => (relayAndStore.route store i).toOption.map (·.1)) =
        [some (.dispatch .inert)] ∧
      (Strict.generate relayAndStore store).run =
        .ok (Setting.generateFunction { view := relayAndStore } .wrappers store)) ∧
    (Strict.generate relayAndStore lost).run = .error (.noCallee "Ask") := by
  have hrelay := no_stray_case { view := relayAndStore } (f := relay) (by simp [relayAndStore])
  have hstore := no_stray_case { view := relayAndStore } (f := store) (by simp [relayAndStore])
  exact ⟨⟨by decide, hrelay.1⟩, ⟨by decide, hstore.1⟩, rfl⟩

end AdaGlue.Wrappers
