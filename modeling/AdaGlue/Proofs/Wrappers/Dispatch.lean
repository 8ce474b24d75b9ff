/-
How a passive function hands its calls on. A call that does not wait is relayed by the thread that
runs the function: by nobody if no thread can, at once if only one can, and otherwise by the thread
that is found running. The wrapper of such a call relays through each thread that may run it exactly
once, in the order in which they are offered, and through no other.
-/
import AdaGlue.Proofs.Callers
import AdaGlue.Proofs.Parameters
import AdaGlue.Proofs.Wrappers.Contents

namespace AdaGlue

namespace Wrappers

/-! ## The text of a relayed call -/

/-- The call through which a thread relays a call of `i`: it passes the inputs on. -/
def relayThrough (i : Interface) (thread : String) : String :=
  thread ++ "_Async_RI_Wrappers.vm_" ++ i.name ++ "_VT" ++ Ada.inputPart i.inputs ++ ";"

/-- The constant that a thread is known by: the names of its process, if any, and of itself. -/
def threadLabel (t : FunctionBlock) : String :=
  (match t.process with
    | some process => process ++ "_"
    | none => "") ++ t.name ++ "_K"

/-- The statements that hand a call on to these threads. -/
def relayStatements (i : Interface) : List FunctionBlock → List Line
  | [] => [⟨2, "null;"⟩]
  | [t] => [⟨2, relayThrough i t.name⟩]
  | threads =>
    [⟨2, "case Get_Task_Id is"⟩] ++
    threads.flatMap (fun t =>
      [⟨3, "when " ++ threadLabel t ++ " =>"⟩, ⟨4, relayThrough i t.name⟩]) ++
    [⟨3, "when others => null;"⟩, ⟨2, "end case;"⟩]

/-- The wrapper of a call of `i` with these statements. -/
def relayingProcedure (i : Interface) (statements : List Line) : List Line :=
  [⟨1, rule⟩,
   ⟨1, "--  Asynchronous Required Interface \"" ++ i.name ++ "\""⟩,
   ⟨1, rule⟩,
   ⟨1, "procedure vm_" ++ i.name ++ Ada.formalPart (Ada.formalsOf i) ++ " is"⟩,
   ⟨1, "begin"⟩,
   ⟨2, "--  Passive function: the call is relayed by the calling thread"⟩] ++
  statements ++
  [⟨1, "end vm_" ++ i.name ++ ";"⟩, ⟨1, ""⟩]

theorem relayCall_eq_relayThrough (t : FunctionBlock) (i : Interface) :
    relayCall t i = relayThrough i t.name := by
  unfold relayCall relayThrough Ada.asyncPackage Ada.relayProcedure
  rw [Ada.parenthesized_bufferActuals]
  simp only [String.append_assoc]
  rfl

theorem entityConstant_eq_threadLabel (t : FunctionBlock) : t.entityConstant = threadLabel t := by
  unfold FunctionBlock.entityConstant threadLabel
  cases t.process <;> simp

theorem laidOut_dispatchBranch (i : Interface) (t : FunctionBlock) :
    laidOut 3 (dispatchBranch i t) =
        [⟨3, "when " ++ threadLabel t ++ " =>"⟩, ⟨4, relayThrough i t.name⟩] ∧
      depthBehind 3 (dispatchBranch i t) = 3 := by
  unfold dispatchBranch
  rw [relayCall_eq_relayThrough, entityConstant_eq_threadLabel]
  exact ⟨rfl, rfl⟩

/-- The three kinds of dispatch are laid out as the statements for no thread, one and more. -/
theorem laidOut_dispatchStatements (v : View) (f : FunctionBlock) (i : Interface) :
    laidOut 2 (dispatchStatements i (v.dispatch f i)) = relayStatements i (v.callers f i) ∧
      depthBehind 2 (dispatchStatements i (v.dispatch f i)) = 2 := by
  unfold View.dispatch
  rcases v.callers f i with _ | ⟨t, _ | ⟨u, r⟩⟩
  · exact ⟨rfl, rfl⟩
  · simp only [Dispatch.among_singleton, dispatchStatements, relayCall_eq_relayThrough]
    exact ⟨rfl, rfl⟩
  · have hbranches : ∀ x ∈ t :: u :: r, depthBehind 3 (dispatchBranch i x) = 3 :=
      fun x _ => (laidOut_dispatchBranch i x).2
    obtain ⟨hlines, hdepth⟩ := laidOut_flatMap hbranches
    simp only [(laidOut_dispatchBranch i _).1] at hlines
    simp only [Dispatch.among_cons_cons, dispatchStatements, relayStatements, laidOut_append,
      depthBehind_append]
    simp only [laidOut, depthBehind]
    rw [hlines, hdepth]
    exact ⟨rfl, rfl⟩

/-! ## The wrapper -/

section

variable {v : View} {f : FunctionBlock} {i : Interface} (hpassive : f.runtime = .passive)
  (hrequired : i.direction = .required) (hasync : i.synchronism = .asynchronous)
  (hbound : i.binding.language ≠ .qgenAda ∧ i.binding.language ≠ .qgenC)

include hpassive hrequired hasync hbound

/-- A call of a passive function that does not wait is dispatched. -/
theorem decide_eq_dispatch :
    v.decide f i = .ok
      { route := .dispatch (v.dispatch f i), convention := .native, placement := .wrappers
        diagnostics := [] } := by
  have hconv : Convention.of i = .native := by simp [Convention.of, hbound.1]
  have hplace : Placement.of f i = .wrappers := by
    simp [Placement.of, FunctionBlock.isThread, hpassive]
  have hlive : isDeadCall f i = false := by
    simp [isDeadCall, Interface.isSynchronous, hasync]
  rw [View.decide_eq_of_routed (.dispatched hbound hrequired hasync hpassive),
    if_neg (not_isRefused_of_live hlive), hconv, hplace]

theorem wrapperLines_dispatch :
    wrapperLines v f i .wrappersBody =
      relayingProcedure i (relayStatements i (v.callers f i)) := by
  rw [wrapperLines_of_decide (decide_eq_dispatch hpassive hrequired hasync hbound)]
  obtain ⟨hlines, hdepth⟩ := laidOut_dispatchStatements v f i
  simp only [procedure?, Fragment.linesIn, placed, required, requiredBody, statements]
  simp [laidOut, laidOut_append, titled, hlines, hdepth, relayingProcedure, requiredTitle,
    Interface.isSynchronous, hasync, requiredSignature, requiredFormals, Ada.vmProcedure,
    Ada.parenthesized_bufferFormals, ← String.append_assoc]

end

end Wrappers

open Wrappers in
/-- The body of a passive function's wrappers holds, between the wrappers of the interfaces before
and behind it, the wrapper of each call that does not wait. Its statements relay the call through
the functions of the view that bear the names on offer, each once and where it is first offered. -/
theorem dispatch_complete_and_distinct {s : Setting} {out : Output} (h : s.generate = .ok out)
    (hwanted : s.options.WantsWrappers) {f : FunctionBlock} (hf : f ∈ s.view.functions)
    (hlanguage : f.language ≠ .qgenAda ∧ f.language ≠ .qgenC) (hpassive : f.runtime = .passive)
    {i : Interface} (hi : i ∈ f.interfaces) (hrequired : i.direction = .required)
    (hasync : i.synchronism = .asynchronous)
    (hbound : i.binding.language ≠ .qgenAda ∧ i.binding.language ≠ .qgenC) :
    ∃ threads : List FunctionBlock,
      threads.map (·.name) = (f.threadsFor i).eraseDups ∧
      (∀ t ∈ threads, t ∈ s.view.functions) ∧ threads.Nodup ∧
      ∃ before behind, f.interfaces = before ++ i :: behind ∧
        out.text? f.name .wrappersBody = some (page (
          frontLines s.view f .wrappersBody ++
          before.flatMap (wrapperLines s.view f · .wrappersBody) ++
          relayingProcedure i (relayStatements i threads) ++
          behind.flatMap (wrapperLines s.view f · .wrappersBody) ++
          (entryLines f .wrappersBody ++ endLines f .wrappersBody))) := by
  have hforeign := (isForeign_eq_false_iff f.language).2 hlanguage
  have hnames : (s.view.callers f i).map (·.name) = (f.threadsFor i).eraseDups := by
    rw [s.view.map_name_callers hf, toList_callerNames (s.view.consistent hf) hi]
  refine ⟨s.view.callers f i, hnames, fun t ht => s.view.mem_of_mem_callers ht,
    s.view.nodup_callers hf i, ?_⟩
  obtain ⟨before, behind, hsplit⟩ := List.append_of_mem hi
  refine ⟨before, behind, hsplit, ?_⟩
  rw [Setting.text?_wrappers h hwanted hf hforeign (isOpen_wrappers f).2]
  -- the file is cut at the wrapper of the interface
  unfold fileLines
  rw [hsplit, List.flatMap_append, List.flatMap_cons,
    wrapperLines_dispatch hpassive hrequired hasync hbound]
  simp only [List.append_assoc]

/-- A message that is sent by two entries. -/
def warning : Interface :=
  { name := "Warn", direction := .required, remoteFunction := some "Ctrl"
    callingInterfaces := ["Flush", "Put"], inputs := [{ name := "text", type := "T-String" }] }

/-- A passive function that sends it from two entries, one of which both its threads call. -/
def sharedLog : FunctionBlock :=
  { name := "Log", language := .ada, runtime := .passive, callingThreads := ["Ctrl", "Nav"]
    interfaces :=
      [{ name := "Put", direction := .provided, synchronism := .synchronous
         callingThreads := ["Nav", "Ctrl"] },
       { name := "Flush", direction := .provided, synchronism := .synchronous
         callingThreads := ["Nav"] },
       warning] }

def ctrlThread : FunctionBlock :=
  { name := "Ctrl", runtime := .thread, process := some "p1" }

def navThread : FunctionBlock :=
  { name := "Nav", runtime := .thread }

/-- The function and its threads, one of which stands on a process. -/
def logAndThreads : View where
  functions := [ctrlThread, sharedLog, navThread]
  sound := by decide

open Wrappers in
theorem dispatch_complete_and_distinct_of_log :
    ∃ out, Setting.generate { view := logAndThreads } = .ok out ∧
      sharedLog.threadsFor warning = ["Nav", "Nav", "Ctrl"] ∧
      ∃ text, out.text? "Log" .wrappersBody = some text ∧
        Shows text
          [⟨1, rule⟩,
           ⟨1, "--  Asynchronous Required Interface \"Warn\""⟩,
           ⟨1, rule⟩,
           ⟨1, "procedure vm_Warn(IN_text : Interfaces.C.char_array; IN_text_size : Integer) is"⟩,
           ⟨1, "begin"⟩,
           ⟨2, "--  Passive function: the call is relayed by the calling thread"⟩,
           ⟨2, "case Get_Task_Id is"⟩,
           ⟨3, "when Nav_K =>"⟩,
           ⟨4, "Nav_Async_RI_Wrappers.vm_Warn_VT(IN_text, IN_text_size);"⟩,
           ⟨3, "when p1_Ctrl_K =>"⟩,
           ⟨4, "Ctrl_Async_RI_Wrappers.vm_Warn_VT(IN_text, IN_text_size);"⟩,
           ⟨3, "when others => null;"⟩,
           ⟨2, "end case;"⟩,
           ⟨1, "end vm_Warn;"⟩,
           ⟨1, ""⟩] := by
  have hgen := Setting.generate_of_live { view := logAndThreads } (by decide)
  obtain ⟨threads, hnames, hmem, -, before, behind, -, htext⟩ :=
    dispatch_complete_and_distinct hgen ⟨by decide, rfl, rfl⟩ (f := sharedLog)
      (by simp [logAndThreads]) (by decide) rfl (i := warning) (by simp [sharedLog]) rfl rfl
      (by decide)
  obtain rfl : threads = [navThread, ctrlThread] := by
    rw [← logAndThreads.filterMap_function?_map_name hmem, hnames]
    decide
  refine ⟨_, hgen, by decide, _, htext, ?_⟩
  rw [List.append_assoc]
  exact ⟨_, _, rfl⟩

end AdaGlue
