/-
The branches of a dispatch. A call that several threads may relay is handed on by a case statement
with a branch for each of them, labelled with the constant of the thread. A constant joins process
and name by an underscore and keeps no record of where they were joined, so two threads have one
constant exactly where the process of one goes on with what the name of the other begins with.
Threads on one process are told apart in any case.
-/
import AdaGlue.Proofs.Generation.LinkSymbols
import AdaGlue.Proofs.Route.Decisions
import AdaGlue.Proofs.Wrappers.Dispatch

namespace AdaGlue

/-! ## Constants of threads -/

namespace FunctionBlock

/-- The process of a function with `z` behind it, after an underscore where there is a process. -/
def processWith (t : FunctionBlock) (z : String) : String :=
  match t.process with
  | some p => p ++ "_" ++ z
  | none => z

/-- The constant of `t` reads as one of `u`: the name of `t` ends in that of `u`, and what stands
before it is what the process of `u` goes on with. -/
def ReadsAs (t u : FunctionBlock) : Prop :=
  ∃ z, t.name = z ++ "_" ++ u.name ∧ u.process = some (t.processWith z)

/-- Two functions have one constant if they have one name and process, or if the constant of one
reads as that of the other. -/
theorem entityConstant_eq_iff {t u : FunctionBlock} :
    t.entityConstant = u.entityConstant ↔
      (t.name = u.name ∧ t.process = u.process) ∨ t.ReadsAs u ∨ u.ReadsAs t := by
  unfold entityConstant ReadsAs processWith
  cases t.process with
  | none => cases u.process <;> simp
  | some p =>
    cases u.process with
    | none => simp [eq_comm]
    | some q => simp [joined_eq_iff, and_comm]

/-- A process that goes on is another one. -/
theorem ReadsAs.process_ne {t u : FunctionBlock} (h : t.ReadsAs u) : t.process ≠ u.process := by
  obtain ⟨z, -, hu⟩ := h
  intro hsame
  rw [hu, processWith] at hsame
  cases ht : t.process with
  | none => rw [ht] at hsame; cases hsame
  | some p =>
    rw [ht] at hsame
    have hlength := congrArg String.length (Option.some.inj hsame)
    have hmark : "_".length = 1 := rfl
    simp only [String.length_append] at hlength
    omega

end FunctionBlock

/-! ## Labels -/

namespace Wrappers

/-- The label of a line that opens a branch. -/
def label? (text : String) : Option String :=
  if "when ".toList <+: text.toList ∧ " =>".toList <:+ text.toList then
    some (String.ofList ((text.toList.drop 5).dropLast.dropLast.dropLast))
  else none

/-- The labels among edits, in their order. -/
def branchLabels (edits : List Edit) : List String :=
  edits.filterMap fun
    | .line text => label? text
    | _ => none

@[simp] theorem branchLabels_nil : branchLabels [] = [] := rfl

@[simp] theorem branchLabels_line (text : String) (r : List Edit) :
    branchLabels (.line text :: r) = (label? text).toList ++ branchLabels r := by
  unfold branchLabels
  cases h : label? text <;> simp [h]

@[simp] theorem branchLabels_blank (r : List Edit) : branchLabels (.blank :: r) = branchLabels r :=
  rfl

@[simp] theorem branchLabels_indent (r : List Edit) : branchLabels (.indent :: r) = branchLabels r :=
  rfl

@[simp] theorem branchLabels_dedent (r : List Edit) : branchLabels (.dedent :: r) = branchLabels r :=
  rfl

@[simp] theorem branchLabels_append (front back : List Edit) :
    branchLabels (front ++ back) = branchLabels front ++ branchLabels back :=
  List.filterMap_append

theorem label?_when (x : String) : label? ("when " ++ x ++ " =>") = some x := by
  have hfront : "when ".toList <+: ("when " ++ x ++ " =>").toList :=
    ⟨x.toList ++ " =>".toList, by simp⟩
  have hback : " =>".toList <:+ ("when " ++ x ++ " =>").toList :=
    ⟨"when ".toList ++ x.toList, by simp⟩
  rw [label?, if_pos ⟨hfront, hback⟩]
  refine congrArg some (String.toList_inj.1 ?_)
  simp

theorem label?_of_semicolon (s : String) : label? (s ++ ";") = none := by
  rw [label?, if_neg]
  rintro ⟨-, front, hback⟩
  have hlast := congrArg List.getLast? hback
  simp at hlast

/-- A line that does not begin with the word is no label. -/
theorem label?_of_head {c : Char} (hc : c ≠ 'w') {s : String} (hs : s.toList.head? = some c) :
    label? s = none := by
  rw [label?, if_neg]
  rintro ⟨⟨back, hfront⟩, -⟩
  have hhead := congrArg List.head? hfront
  rw [hs] at hhead
  simp [hc.symm] at hhead

/-- Each branch has one label, the constant of its thread. -/
theorem branchLabels_dispatchBranch (i : Interface) (t : FunctionBlock) :
    branchLabels (dispatchBranch i t) = [t.entityConstant] := by
  simp [dispatchBranch, relayCall, label?_when, label?_of_semicolon]

theorem branchLabels_flatMap (i : Interface) (callers : List FunctionBlock) :
    branchLabels (callers.flatMap (dispatchBranch i)) = callers.map (·.entityConstant) := by
  induction callers with
  | nil => rfl
  | cons t callers ih =>
    rw [List.flatMap_cons, branchLabels_append, branchLabels_dispatchBranch, ih]
    rfl

/-- No other line of the wrapper looks like a label, whatever the names in it. -/
theorem branchLabels_required {f : FunctionBlock} {i : Interface} {d : Decision}
    {callers : List FunctionBlock} (hroute : d.route = .dispatch (.byTaskId callers)) :
    branchLabels (required f i d).body = callers.map (·.entityConstant) := by
  have hfixed : ∀ text ∈ [rule, "begin", "case Get_Task_Id is", "when others => null;", "end case;",
      "--  Passive function: the call is relayed by the calling thread"], label? text = none := by
    decide
  have htitle : label? ("--  " ++ requiredTitle i ++ " \"" ++ i.name ++ "\"") = none :=
    label?_of_head (c := '-') (by decide) (by simp)
  have hsignature : label? (requiredSignature i d.convention ++ " is") = none :=
    label?_of_head (c := 'p') (by decide) (by simp [requiredSignature])
  simp only [List.forall_mem_cons] at hfixed
  simp [required, requiredBody, hroute, statements, dispatchStatements, titled, hfixed, htitle,
    hsignature, label?_of_semicolon, branchLabels_flatMap]

end Wrappers

/-- Callers have different constants exactly if the constant of none reads as that of another. -/
theorem View.nodup_constants_iff {v : View} {f : FunctionBlock} (hf : f ∈ v.functions)
    (i : Interface) :
    ((v.callers f i).map (·.entityConstant)).Nodup ↔
      ∀ t ∈ v.callers f i, ∀ u ∈ v.callers f i, ¬ t.ReadsAs u := by
  rw [List.nodup_map_iff_inj_on (v.nodup_callers hf i)]
  constructor
  · intro hinj t ht u hu hreads
    have hsame := hinj t ht u hu (FunctionBlock.entityConstant_eq_iff.2 (.inr (.inl hreads)))
    exact hreads.process_ne (by rw [hsame])
  · intro hapart t ht u hu hconstant
    rcases FunctionBlock.entityConstant_eq_iff.1 hconstant with ⟨hname, -⟩ | hreads | hreads
    · exact List.inj_on_of_nodup_map v.names_nodup (v.mem_of_mem_callers ht)
        (v.mem_of_mem_callers hu) hname
    · exact (hapart t ht u hu hreads).elim
    · exact (hapart u hu t ht hreads).elim

open Wrappers in
/-- A dispatch among several threads has a branch for each thread that may run the call, labelled with
its constant. The labels differ exactly if the constant of no thread among them reads as that of
another, and so they do where all stand on one process, or on none. -/
theorem branch_labels_distinct_iff {v : View} {f : FunctionBlock} (hf : f ∈ v.functions)
    (hpassive : f.runtime = .passive) {i : Interface} (hrequired : i.direction = .required)
    (hasync : i.synchronism = .asynchronous) {callers : List FunctionBlock}
    (hdispatch : v.dispatch f i = .byTaskId callers) :
    callers = v.callers f i ∧ callers.Nodup ∧
    (i.binding.language ≠ .qgenAda ∧ i.binding.language ≠ .qgenC →
      ∃ d, v.decide f i = .ok d ∧ d.route = .dispatch (.byTaskId callers) ∧
        branchLabels (required f i d).body = callers.map (·.entityConstant)) ∧
    ((callers.map (·.entityConstant)).Nodup ↔ ∀ t ∈ callers, ∀ u ∈ callers, ¬ t.ReadsAs u) ∧
    ((∃ p, ∀ t ∈ callers, t.process = p) → (callers.map (·.entityConstant)).Nodup) := by
  obtain ⟨rfl, -⟩ := View.dispatch_eq_byTaskId_iff.1 hdispatch
  refine ⟨rfl, v.nodup_callers hf i, fun hbound => ?_, v.nodup_constants_iff hf i, ?_⟩
  · have hd := decide_eq_dispatch (v := v) hpassive hrequired hasync hbound
    rw [hdispatch] at hd
    exact ⟨_, hd, rfl, branchLabels_required rfl⟩
  · rintro ⟨p, hprocess⟩
    rw [v.nodup_constants_iff hf i]
    intro t ht u hu hreads
    exact hreads.process_ne ((hprocess t ht).trans (hprocess u hu).symm)

/-- A message that is sent to a recorder. -/
def recording : Interface :=
  { name := "Record", direction := .required, remoteFunction := some "Disk" }

/-- A passive function that sends it in either of two threads. -/
def recorder : FunctionBlock :=
  { name := "Recorder", runtime := .passive, callingThreads := ["Nav", "Map_Nav"]
    interfaces := [recording] }

/-- The function with its threads, one of them on that process. -/
def recorderAndThreads (process : String) : List FunctionBlock :=
  [recorder, { name := "Nav", runtime := .thread, process := some process },
   { name := "Map_Nav", runtime := .thread, process := some "Core" }]

/-- Both threads on one process. -/
def recorderOnOne : View where
  functions := recorderAndThreads "Core"
  sound := by decide

open Wrappers in
theorem branch_labels_distinct_iff_of_recorder :
    ∃ callers d, recorderOnOne.dispatch recorder recording = .byTaskId callers ∧
      recorderOnOne.decide recorder recording = .ok d ∧
      d.route = .dispatch (.byTaskId callers) ∧
      branchLabels (required recorder recording d).body = ["Core_Nav_K", "Core_Map_Nav_K"] ∧
      (callers.map (·.entityConstant)).Nodup := by
  have hf : recorder ∈ recorderOnOne.functions := by simp [recorderOnOne, recorderAndThreads]
  have hdispatch : recorderOnOne.dispatch recorder recording =
      .byTaskId (recorderOnOne.callers recorder recording) := by decide
  obtain ⟨-, -, hbranches, -, hone⟩ :=
    branch_labels_distinct_iff hf rfl (i := recording) rfl rfl hdispatch
  obtain ⟨d, hd, hroute, hlabels⟩ := hbranches (by decide)
  exact ⟨_, d, hdispatch, hd, hroute, hlabels.trans (by decide), hone ⟨some "Core", by decide⟩⟩

/-- The threads on two processes, one of which goes on from the other. -/
def recorderOnTwo : View where
  functions := recorderAndThreads "Core_Map"
  sound := by decide

open Wrappers in
/-- Two threads whose branches bear one label. -/
theorem branch_labels_clash :
    recorder ∈ recorderOnTwo.functions ∧ recording ∈ recorder.interfaces ∧
      recorder.runtime = .passive ∧ recording.direction = .required ∧
      recording.synchronism = .asynchronous ∧
      ∃ callers d, recorderOnTwo.dispatch recorder recording = .byTaskId callers ∧
        callers.map (·.name) = ["Nav", "Map_Nav"] ∧
        recorderOnTwo.decide recorder recording = .ok d ∧
        branchLabels (required recorder recording d).body =
          ["Core_Map_Nav_K", "Core_Map_Nav_K"] := by
  have hd := decide_eq_dispatch (v := recorderOnTwo) (f := recorder) (i := recording) rfl rfl rfl
    (by decide)
  have hdispatch : recorderOnTwo.dispatch recorder recording =
      .byTaskId (recorderOnTwo.callers recorder recording) := by decide
  exact ⟨by simp [recorderOnTwo, recorderAndThreads], by simp [recorder], rfl, rfl, rfl, _, _,
    hdispatch, by decide, hd, by decide⟩

end AdaGlue
