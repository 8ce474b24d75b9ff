/-
What a run warns about. Every warning has a cause that can be read off the view, the options and
what stands below the root: a function or an interface that another generator wraps, an entry of an
artificial function with nothing to call, a message of a thread without a process, a body that is
left to the user. Each cause is reported once, where it is met, and nothing else is.
-/
import AdaGlue.Proofs.Route.Table
import AdaGlue.Proofs.Wrappers.Contents

namespace AdaGlue

/-! ## What is said of an interface -/

/-- The code of a diagnostic and what it is about. -/
structure Remark where
  code : String
  function : Option String
  interface : Option String
  deriving DecidableEq, Repr

def Diagnostic.remark (d : Diagnostic) : Remark :=
  ⟨d.code.name, d.function, d.interface⟩

/-- An entry of an artificial function, which calls nothing that the entry could stand for. -/
def HasNoSibling (f : FunctionBlock) (i : Interface) : Prop :=
  f.artificial = true ∧ i.direction = .provided ∧ i.synchronism = .asynchronous ∧
    ∀ r ∈ f.interfaces, ¬ r.CallsEntryOf i

instance (f : FunctionBlock) (i : Interface) : Decidable (HasNoSibling f i) :=
  inferInstanceAs (Decidable (_ ∧ _))

/-- A message of a thread that has no process to send it from. -/
def CannotFlush (f : FunctionBlock) (i : Interface) : Prop :=
  f.runtime = .thread ∧ f.process = none ∧ i.direction = .required ∧
    i.synchronism = .asynchronous ∧ i.binding.language ≠ .qgenAda

instance (f : FunctionBlock) (i : Interface) : Decidable (CannotFlush f i) :=
  inferInstanceAs (Decidable (_ ∧ _))

/-- The remark on an interface, if there is one. -/
def remarksAt (f : FunctionBlock) (i : Interface) : List Remark :=
  if i.binding.language = .qgenC then [⟨"IVG0110", some f.name, some i.name⟩]
  else if HasNoSibling f i then [⟨"IVG0120", some f.name, some i.name⟩]
  else if CannotFlush f i then [⟨"IVG0130", some f.name, some i.name⟩]
  else []

/-- The warnings of a row of the routing table are the remark on its interface. -/
theorem Routed.map_remark {v : View} {f : FunctionBlock} {i : Interface} {r : Route}
    {ds : List Diagnostic} (h : Routed v f i r ds) : ds.map (·.remark) = remarksAt f i := by
  cases h with
  | skipped hc => rw [remarksAt, if_pos hc]; rfl
  | deferred hc hd hs => simp [remarksAt, HasNoSibling, CannotFlush, hc, hd, hs]
  | handedOn hc hd hs ha hlast =>
    obtain ⟨front, back, hsplit, hcalls, -⟩ := hlast
    have hsome : ¬ HasNoSibling f i := fun h => h.2.2.2 _ (by rw [hsplit]; simp) hcalls
    simp [remarksAt, CannotFlush, hc, hd, hsome]
  | fallen hc hd hs ha hnone => rw [remarksAt, if_neg hc, if_pos ⟨ha, hd, hs, hnone⟩]; rfl
  | ofUser hc hd hs ha => simp [remarksAt, HasNoSibling, CannotFlush, hc, hd, ha]
  | foreign hq hd => simp [remarksAt, HasNoSibling, CannotFlush, hq, hd]
  | called hn hd hs => simp [remarksAt, HasNoSibling, CannotFlush, hn.2, hd, hs]
  | flushed hn hd hs hr hp => simp [remarksAt, HasNoSibling, CannotFlush, hn.2, hd, hp]
  | unflushed hn hd hs hr hp =>
    have hno : ¬ HasNoSibling f i := by simp [HasNoSibling, hd]
    rw [remarksAt, if_neg hn.2, if_neg hno, if_pos ⟨hr, hp, hd, hs, hn.1⟩]
    rfl
  | dispatched hn hd hs hr => simp [remarksAt, HasNoSibling, CannotFlush, hn.2, hd, hr]

theorem mem_remarksAt {f : FunctionBlock} {i : Interface} {x : Remark} (hx : x ∈ remarksAt f i) :
    x.function = some f.name ∧ x.interface = some i.name ∧
      x.code ∈ ["IVG0110", "IVG0120", "IVG0130"] := by
  unfold remarksAt at hx
  repeat' split at hx
  all_goals simp at hx
  all_goals subst hx; simp

theorem nodup_remarksAt (f : FunctionBlock) (i : Interface) : (remarksAt f i).Nodup := by
  unfold remarksAt
  repeat' split
  all_goals simp

/-! ## What is said while wrappers are written -/

namespace Wrappers

@[simp] theorem diagnostics_writeFragment (e : Emission) (decl body : Destination) (p : Fragment) :
    (writeFragment e decl body p).diagnostics = e.diagnostics := by
  simp [writeFragment]

theorem diagnostics_begin (v : View) (f : FunctionBlock) :
    (begin v f).diagnostics = if f.language.isForeign then [foreignFunction f] else [] := by
  rw [begin_eq, diagnostics_writeFragment, diagnostics_writeFragment]
  unfold announced
  split <;> simp

theorem diagnostics_synthesize (e : Emission) : (synthesize e).diagnostics = e.diagnostics := by
  have hfold : ∀ (l : List Fragment) (e : Emission),
      (l.foldl (fun e p => writeFragment e .wrappersDecl .wrappersBody p) e).diagnostics =
        e.diagnostics := by
    intro l
    induction l with
    | nil => exact fun _ => rfl
    | cons p l ih => exact fun e => (ih _).trans (diagnostics_writeFragment ..)
  unfold synthesize
  split
  · exact hfold _ e
  · rfl

theorem diagnostics_finish (e : Emission) : (finish e).diagnostics = e.diagnostics := by
  simp [finish, Emission.close, diagnostics_synthesize]

section Steps

variable {v : View} {f : FunctionBlock} {e e' : Emission}

/-- A decision finds the files that it needs open, so following it gives no cause for a warning. -/
theorem diagnostics_follow (hready : Ready f e) {i : Interface} (hi : i ∈ f.interfaces)
    {d : Decision} (hplace : d.placement = .of f i) :
    (follow e i d).diagnostics = e.diagnostics := by
  rw [follow_eq, hready.function]
  rcases hp : procedure? f i d with _ | ⟨p, x⟩
  · simp only [record]
    repeat' split
    all_goals rfl
  · obtain ⟨hdecl, hbody⟩ := isOpen_of_procedure? hready hi hplace hp
    simp only
    rw [writePair_of_open hdecl hbody, diagnostics_writeFragment]

variable (hforeign : f.language.isForeign = false)

include hforeign

/-- One interface adds the remark on it. -/
theorem emit_remarks (hready : Ready f e) {i : Interface} (hi : i ∈ f.interfaces)
    (h : emit v e i = .ok e') :
    e'.diagnostics.map (·.remark) = e.diagnostics.map (·.remark) ++ remarksAt f i := by
  obtain ⟨d, hd, hreported, rfl⟩ := emit_eq_ok hforeign hready h
  obtain ⟨-, hrow, -, hplace⟩ := View.decide_eq_ok_iff.1 hd
  rw [diagnostics_follow hreported hi hplace, ← hrow.map_remark, ← List.map_append]
  rfl

/-- All interfaces add the remarks on them in their order. -/
theorem foldlM_emit_remarks {l : List Interface} (hl : ∀ i ∈ l, i ∈ f.interfaces)
    (hready : Ready f e) (h : l.foldlM (emit v) e = .ok e') :
    e'.diagnostics.map (·.remark) = e.diagnostics.map (·.remark) ++ l.flatMap (remarksAt f) := by
  induction l generalizing e with
  | nil => cases h; simp
  | cons i l ih =>
    rw [List.foldlM_cons] at h
    rcases hi : emit v e i with x | e₁
    · rw [hi] at h; cases h
    rw [hi] at h
    rw [ih (fun j hj => hl j (List.mem_cons_of_mem _ hj)) (hready.of_grows (grows_of_emit hi)) h,
      emit_remarks hforeign hready (hl i List.mem_cons_self) hi, List.append_assoc,
      List.flatMap_cons]

end Steps

end Wrappers

/-! ## What is said while a skeleton is written -/

namespace Skeletons

theorem diagnostics_begin (o : Options) (found : Bool) (f : FunctionBlock) :
    (begin o found f).diagnostics = if found then [bodyPreserved f] else [] := by
  unfold begin
  cases found <;> simp

theorem diagnostics_foldl_emit (l : List Interface) (e : Emission) :
    (l.foldl emit e).diagnostics = e.diagnostics := by
  induction l generalizing e with
  | nil => rfl
  | cons i l ih =>
    rw [List.foldl_cons, ih, emit]
    split <;> simp

theorem diagnostics_finish (o : Options) (e : Emission) :
    (finish o e).diagnostics = e.diagnostics := by
  simp [finish, Emission.close]

end Skeletons

/-! ## What is said of a function -/

/-- The remarks on the wrappers of a function: one on the whole of it where another generator
writes them, and otherwise those on its interfaces. -/
def wrapperRemarks (f : FunctionBlock) : List Remark :=
  if f.language = .qgenAda ∨ f.language = .qgenC then [⟨"IVG0110", some f.name, none⟩]
  else f.interfaces.flatMap (remarksAt f)

theorem mem_wrapperRemarks {f : FunctionBlock} {x : Remark} (hx : x ∈ wrapperRemarks f) :
    x.function = some f.name ∧ x.code ∈ ["IVG0110", "IVG0120", "IVG0130"] := by
  unfold wrapperRemarks at hx
  split at hx
  · rw [List.mem_singleton.1 hx]
    simp
  · obtain ⟨i, -, hi⟩ := List.mem_flatMap.1 hx
    exact ⟨(mem_remarksAt hi).1, (mem_remarksAt hi).2.2⟩

theorem nodup_wrapperRemarks {f : FunctionBlock} (hd : (f.interfaces.map (·.name)).Nodup) :
    (wrapperRemarks f).Nodup := by
  unfold wrapperRemarks
  split
  · exact List.nodup_singleton _
  · have hnames := hd.map fun _ _ => Option.some.inj
    rw [List.map_map] at hnames
    exact nodup_flatMap_of_name Remark.interface hnames (fun i _ x hx => (mem_remarksAt hx).2.1)
      fun i _ => nodup_remarksAt f i

namespace Setting

variable (s : Setting)

/-- The remark on the skeleton of a function, if its body stands below the root. -/
def skeletonRemarks (f : FunctionBlock) : List Remark :=
  if s.occupied (Destination.skeletonBody.path f.name) then [⟨"IVG0200", some f.name, none⟩] else []

/-- All remarks on a function. -/
def remarksOn (f : FunctionBlock) : List Remark :=
  (if s.GetsWrappers f then wrapperRemarks f else []) ++
    if s.GetsSkeleton f then s.skeletonRemarks f else []

section

variable {f : FunctionBlock}

theorem remarks_textOf_wrappers (hlive : Backend.wrappers.fault? f = none) :
    (s.textOf .wrappers f).diagnostics.map (·.remark) = wrapperRemarks f := by
  have hready := Wrappers.ready_begin s.view f
  obtain ⟨e, he, htext⟩ := s.textOf_wrappers_eq_finish hlive
  rw [htext, Wrappers.diagnostics_finish, wrapperRemarks]
  cases hforeign : f.language.isForeign with
  | false =>
    obtain ⟨hada, hc⟩ := (isForeign_eq_false_iff f.language).1 hforeign
    have hown : ¬ (f.language = .qgenAda ∨ f.language = .qgenC) := by simp [hada, hc]
    rw [Wrappers.foldlM_emit_remarks hforeign (fun _ hi => hi) hready he,
      Wrappers.diagnostics_begin, hforeign, if_neg hown]
    rfl
  | true =>
    have hother : f.language = .qgenAda ∨ f.language = .qgenC := by
      by_contra hno
      rw [not_or, ← isForeign_eq_false_iff, hforeign] at hno
      cases hno
    -- the interfaces are passed over, so only the start speaks
    rw [Wrappers.foldlM_emit_of_foreign (by rw [hready.function, hforeign])] at he
    cases he
    rw [Wrappers.diagnostics_begin, hforeign, if_pos hother]
    rfl

theorem remarks_textOf_skeletons (f : FunctionBlock) :
    (s.textOf .skeletons f).diagnostics.map (·.remark) = s.skeletonRemarks f := by
  rw [s.textOf_eq (s.generateFunction_skeletons f), Skeletons.diagnostics_finish,
    Skeletons.diagnostics_foldl_emit, Skeletons.diagnostics_begin, skeletonRemarks,
    Skeletons.bodyPath]
  split <;> rfl

/-- A run says of a function what its wrappers and then its skeleton give cause for. -/
theorem remarks_outputFor (hlive : s.fault? = none) (hf : f ∈ s.view.functions) :
    (s.outputFor f).diagnostics.map (·.remark) = s.remarksOn f := by
  simp only [outputFor, Output.concat, List.flatMap_map, List.map_flatMap]
  rw [s.flatMap_backendsFor, remarksOn]
  refine congrArg₂ (· ++ ·) (ite_congr rfl ?_ fun _ => rfl) (ite_congr rfl ?_ fun _ => rfl)
  · intro hgets
    exact s.remarks_textOf_wrappers
      (s.job_live hlive hf ((s.wrappers_mem_backendsFor_iff f).2 hgets))
  · intro _
    exact s.remarks_textOf_skeletons f

end

theorem remarksOn_sublist (f : FunctionBlock) :
    (s.remarksOn f).Sublist (wrapperRemarks f ++ s.skeletonRemarks f) := by
  unfold remarksOn
  refine List.Sublist.append ?_ ?_
  · split
    · exact List.Sublist.refl _
    · exact List.nil_sublist _
  · split
    · exact List.Sublist.refl _
    · exact List.nil_sublist _

theorem mem_skeletonRemarks {f : FunctionBlock} {x : Remark} (hx : x ∈ s.skeletonRemarks f) :
    x = ⟨"IVG0200", some f.name, none⟩ := by
  unfold skeletonRemarks at hx
  split at hx
  · exact List.mem_singleton.1 hx
  · cases hx

/-- All remarks on a function name it. -/
theorem function_of_mem_remarksOn {f : FunctionBlock} {x : Remark} (hx : x ∈ s.remarksOn f) :
    x.function = some f.name := by
  rcases List.mem_append.1 ((s.remarksOn_sublist f).subset hx) with hx | hx
  · exact (mem_wrapperRemarks hx).1
  · rw [s.mem_skeletonRemarks hx]

/-- No remark on a function is made twice: the one on its skeleton has a code of its own. -/
theorem nodup_remarksOn {f : FunctionBlock} (hf : f ∈ s.view.functions) :
    (s.remarksOn f).Nodup := by
  refine (s.remarksOn_sublist f).nodup (List.nodup_append'.2 ⟨?_, ?_, ?_⟩)
  · exact nodup_wrapperRemarks (s.view.consistent hf).distinct
  · unfold skeletonRemarks
    split <;> simp
  · intro x hx hx'
    have hcode := (mem_wrapperRemarks hx).2
    rw [s.mem_skeletonRemarks hx'] at hcode
    simp at hcode

/-- The diagnostics of a run that succeeds are the remarks on its functions, function after
function, and none of them is made twice. -/
theorem warnings_exact {out : Output} (h : s.generate = .ok out) :
    out.diagnostics.map (·.remark) = s.view.functions.flatMap s.remarksOn ∧
      (out.diagnostics.map (·.remark)).Nodup := by
  obtain ⟨hlive, rfl⟩ := s.generate_eq_ok_iff.1 h
  have hall : (Output.concat (s.view.functions.map s.outputFor)).diagnostics.map (·.remark) =
      s.view.functions.flatMap s.remarksOn := by
    simp only [Output.concat, List.flatMap_map, List.map_flatMap]
    exact List.flatMap_congr fun f hf => s.remarks_outputFor hlive hf
  refine ⟨hall, ?_⟩
  rw [hall]
  have hnames := s.view.names_nodup.map fun _ _ => Option.some.inj
  rw [List.map_map] at hnames
  exact nodup_flatMap_of_name Remark.function hnames
    (fun f _ x hx => s.function_of_mem_remarksOn hx) fun f hf => s.nodup_remarksOn hf

/-- One cause of each kind: a thread without a process, which also calls code in C of another
generator, an artificial function with nothing to call, a function that is wrapped elsewhere, and
one whose body the user has written. -/
def oneOfEachCause : Setting where
  view :=
    { functions :=
        [{ name := "Ctrl", runtime := .thread
           interfaces :=
             [{ name := "Step", direction := .required, remoteFunction := some "Plant"
                binding := { language := .qgenC } },
              { name := "Out", direction := .required, remoteFunction := some "Filter" },
              { name := "Tick", direction := .provided }] },
         { name := "Relay", runtime := .passive, artificial := true
           interfaces := [{ name := "Go", direction := .provided }] },
         { name := "Plant", language := .qgenC, runtime := .passive },
         { name := "Filter", language := .ada, runtime := .passive }]
      sound := by decide }
  occupied path := path = "Filter/Filter.adb"

theorem warnings_exact_of_each_cause :
    ∃ out, oneOfEachCause.generate = .ok out ∧
      out.diagnostics.map (·.remark) =
        [⟨"IVG0110", some "Ctrl", some "Step"⟩, ⟨"IVG0130", some "Ctrl", some "Out"⟩,
         ⟨"IVG0120", some "Relay", some "Go"⟩, ⟨"IVG0110", some "Plant", none⟩,
         ⟨"IVG0200", some "Filter", none⟩] := by
  have hgen := oneOfEachCause.generate_of_live (by decide)
  exact ⟨_, hgen, (oneOfEachCause.warnings_exact hgen).1.trans (by decide)⟩

end Setting

end AdaGlue
