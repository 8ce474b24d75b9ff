/-
The packages that a passive function relays its calls through. A call that does not wait is handed
on in a package of the thread that runs it, and the declaration of the function's own package names
such packages in its context clauses. It does so for the threads that the function is known to be
run by, as far as they stand on its process and have such a package.
-/
import AdaGlue.Proofs.Wrappers.Dispatch
import AdaGlue.Proofs.Wrappers.Linking

namespace AdaGlue

namespace Wrappers

/-! ## Context clauses of relays -/

/-- The context clause of the package that a thread relays through. -/
def relayClause (thread : String) : Line :=
  ⟨0, "with " ++ thread ++ "_Async_RI_Wrappers;"⟩

theorem mem_relayingThreads {v : View} {f t : FunctionBlock} (ht : t ∈ v.functions) :
    t ∈ relayingThreads v f ↔
      t.name ∈ f.callingThreads ∧ t.process = f.process ∧ t.SendsAhead := by
  have hlook : t ∈ f.callingThreads.filterMap v.function? ↔ t.name ∈ f.callingThreads := by
    rw [List.mem_filterMap]
    constructor
    · rintro ⟨n, hn, hlook⟩
      rw [(v.function?_eq_some_iff.1 hlook).2]
      exact hn
    · intro hn
      exact ⟨t.name, hn, v.function?_eq_some_iff.2 ⟨ht, rfl⟩⟩
  rw [relayingThreads, List.mem_filter, hlook, Bool.and_eq_true, decide_eq_true_eq,
    hasAsyncPackage_iff]

/-- The declaration names the packages of the relaying threads. -/
theorem relayClause_mem_frontLines {v : View} {f t : FunctionBlock}
    (hrelays : relaysThroughCallers f = true) (ht : t ∈ relayingThreads v f) :
    relayClause t.name ∈ frontLines v f .wrappersDecl := by
  have hclause : withClause (Ada.asyncPackage t.name) ∈ (declClauses v f).toList := by
    unfold declClauses
    rw [OrderedSet.mem_ofList]
    refine List.mem_append_right _ ?_
    rw [given, if_pos hrelays]
    exact List.mem_map_of_mem ht
  have hlaid : laidOut 0 ((declClauses v f).toList.map Edit.line) =
      (declClauses v f).toList.map (⟨0, ·⟩) := (laidOut_map_line 0 id _).1
  have hline : relayClause t.name ∈ laidOut 0 ((declClauses v f).toList.map Edit.line) := by
    rw [hlaid, List.mem_map]
    refine ⟨_, hclause, ?_⟩
    simp only [relayClause, withClause, Ada.asyncPackage, String.append_assoc]
    rfl
  -- the clauses stand right below the fixed lines of the front
  rw [frontLines_wrappersDecl]
  simp only [preamble, List.append_assoc]
  rw [laidOut_append]
  refine List.mem_append_right _ ?_
  rw [laidOut_append]
  exact List.mem_append_left _ hline

end Wrappers

section

variable {s : Setting} {out : Output} (h : s.generate = .ok out)
  (hwanted : s.options.WantsWrappers) {f : FunctionBlock} (hf : f ∈ s.view.functions)
  (hlanguage : f.language ≠ .qgenAda ∧ f.language ≠ .qgenC) (hpassive : f.runtime = .passive)
  {i : Interface} (hi : i ∈ f.interfaces) (hrequired : i.direction = .required)
  (hasync : i.synchronism = .asynchronous)
  (hbound : i.binding.language ≠ .qgenAda ∧ i.binding.language ≠ .qgenC)

include h hwanted hf hlanguage hpassive hi hrequired hasync hbound

open Wrappers

/-- The body relays a call that does not wait through all its callers. -/
theorem exists_body_relaying :
    ∃ body, out.text? f.name .wrappersBody = some body ∧
      Shows body (relayingProcedure i (relayStatements i (s.view.callers f i))) := by
  have hforeign := (isForeign_eq_false_iff f.language).2 hlanguage
  have hwrapper := wrapperLines_infix_fileLines (v := s.view) hi .wrappersBody
  rw [wrapperLines_dispatch hpassive hrequired hasync hbound] at hwrapper
  exact ⟨_, Setting.text?_wrappers h hwanted hf hforeign (isOpen_wrappers f).2,
    shows_of_infix hwrapper⟩

/-- The body of a passive function's wrappers hands each call that does not wait on to the threads
that may run it. Each of them that the function itself lists among its threads, as it does wherever
the call can be reached from any of its entries, has its package named in a context clause of the
declaration, provided that it stands on the function's process and has such a package. -/
theorem relay_packages_imported :
    ∃ threads : List FunctionBlock, ∃ decl body,
      threads.map (·.name) = (f.threadsFor i).eraseDups ∧
      (∀ t ∈ threads, t ∈ s.view.functions) ∧
      out.text? f.name .wrappersDecl = some decl ∧
      out.text? f.name .wrappersBody = some body ∧
      Shows body (relayingProcedure i (relayStatements i threads)) ∧
      ∀ t ∈ threads, (i.callingInterfaces ≠ [] → t.name ∈ f.callingThreads) →
        t.process = f.process → t.SendsAhead → Shows decl [relayClause t.name] := by
  have hforeign := (isForeign_eq_false_iff f.language).2 hlanguage
  have hnames : (s.view.callers f i).map (·.name) = (f.threadsFor i).eraseDups := by
    rw [s.view.map_name_callers hf, toList_callerNames (s.view.consistent hf) hi]
  obtain ⟨body, hbody, hshows⟩ :=
    exists_body_relaying h hwanted hf hlanguage hpassive hi hrequired hasync hbound
  refine ⟨s.view.callers f i, _, body, hnames, fun t ht => s.view.mem_of_mem_callers ht,
    Setting.text?_wrappers h hwanted hf hforeign (isOpen_wrappers f).1, hbody, hshows, ?_⟩
  intro t ht hlisted hprocess hahead
  have hmem := s.view.mem_of_mem_callers ht
  have hcalling : t.name ∈ f.callingThreads := by
    by_cases hany : i.callingInterfaces = []
    · have hname : t.name ∈ (f.threadsFor i).eraseDups := hnames ▸ List.mem_map_of_mem ht
      rw [List.mem_eraseDups, FunctionBlock.threadsFor, if_pos hany] at hname
      exact hname
    · exact hlisted hany
  have hrelays : relaysThroughCallers f = true := by
    simp [relaysThroughCallers, FunctionBlock.isPassive, hpassive]
  have hfront := relayClause_mem_frontLines hrelays
    ((mem_relayingThreads hmem).2 ⟨hcalling, hprocess, hahead⟩)
  exact shows_of_mem (List.mem_append_left _ (List.mem_append_left _ hfront))

end

/-- A message that is relayed by the threads that call an entry. -/
def notice : Interface :=
  { name := "Notify", direction := .required, remoteFunction := some "Near"
    callingInterfaces := ["Put"] }

/-- A passive function with an entry that four threads call, one of which it does not list. -/
def hub : FunctionBlock :=
  { name := "Hub", language := .ada, runtime := .passive, process := some "p1"
    callingThreads := ["Near", "Far", "Mute"]
    interfaces :=
      [{ name := "Put", direction := .provided, synchronism := .synchronous
         callingThreads := ["Near", "Far", "Mute", "Guest"] },
       notice] }

/-- A thread that sends messages of its own. -/
def sender (name process : String) : FunctionBlock :=
  { name := name, runtime := .thread, process := some process
    interfaces := [{ name := "Send", direction := .required, remoteFunction := some "Hub" }] }

/-- The function and its threads: only one of them is listed, near and sends messages. -/
def hubAndThreads : View where
  functions :=
    [sender "Near" "p1", sender "Far" "p2",
     { name := "Mute", runtime := .thread, process := some "p1" }, sender "Guest" "p1", hub]
  sound := by decide

open Wrappers in
theorem relay_packages_imported_of_hub :
    ∃ out, Setting.generate { view := hubAndThreads } = .ok out ∧
      ∃ decl body, out.text? "Hub" .wrappersDecl = some decl ∧
        out.text? "Hub" .wrappersBody = some body ∧
        (∃ threads, Shows body (relayingProcedure notice (relayStatements notice threads)) ∧
          sender "Near" "p1" ∈ threads) ∧
        Shows decl [⟨0, "with Near_Async_RI_Wrappers;"⟩] := by
  have hgen := Setting.generate_of_live { view := hubAndThreads } (by decide)
  obtain ⟨threads, decl, body, hnames, hmem, hdecl, hbody, hshows, hclauses⟩ :=
    relay_packages_imported hgen ⟨by decide, rfl, rfl⟩ (f := hub) (by simp [hubAndThreads])
      (by decide) rfl (i := notice) (by simp [hub]) rfl rfl (by decide)
  have hname : "Near" ∈ threads.map (·.name) := by rw [hnames]; decide
  obtain ⟨t, ht, hnear⟩ := List.mem_map.1 hname
  obtain rfl : t = sender "Near" "p1" :=
    List.inj_on_of_nodup_map hubAndThreads.names_nodup (hmem t ht) (by simp [hubAndThreads]) hnear
  exact ⟨_, hgen, decl, body, hdecl, hbody, ⟨threads, hshows, ht⟩,
    hclauses _ ht (by decide) rfl (by decide)⟩

open Wrappers in
/-- A call may be relayed through the package of a thread on another process, of one that has no
such package, and of one that only an entry lists, and no context clause names any of these. -/
theorem relay_packages_not_all_imported :
    ∃ out, Setting.generate { view := hubAndThreads } = .ok out ∧
      ∃ threads decl body, out.text? "Hub" .wrappersDecl = some decl ∧
        out.text? "Hub" .wrappersBody = some body ∧
        Shows body (relayingProcedure notice (relayStatements notice threads)) ∧
        threads.map (·.name) = ["Near", "Far", "Mute", "Guest"] ∧
        ∀ t ∈ ["Far", "Mute", "Guest"], ¬ Shows decl [relayClause t] := by
  have hgen := Setting.generate_of_live { view := hubAndThreads } (by decide)
  have hhub : hub ∈ hubAndThreads.functions := by simp [hubAndThreads]
  obtain ⟨body, hbody, hshows⟩ := exists_body_relaying hgen ⟨by decide, rfl, rfl⟩ hhub (by decide)
    rfl (i := notice) (by simp [hub]) rfl rfl (by decide)
  refine ⟨_, hgen, hubAndThreads.callers hub notice, _, body,
    Setting.text?_wrappers hgen ⟨by decide, rfl, rfl⟩ hhub rfl (isOpen_wrappers hub).1, hbody,
    hshows, by decide, ?_⟩
  have hplain : ∀ l ∈ fileLines hubAndThreads hub .wrappersDecl, '\n' ∉ l.text.toList := by
    decide +kernel
  have hother : ∀ t ∈ ["Far", "Mute", "Guest"], '\n' ∉ (relayClause t).text.toList ∧
      ∀ l ∈ fileLines hubAndThreads hub .wrappersDecl, l.written ≠ (relayClause t).written := by
    decide +kernel
  intro t ht hclause
  obtain ⟨hline, hnone⟩ := hother t ht
  obtain ⟨l, hl, hwritten⟩ := exists_written_eq_of_shows hplain hline hclause
  exact hnone l hl hwritten

end AdaGlue
