/-
The synchronous entries of a function. They are met twice: as the interfaces are gone through one by
one it is only noted that there is an entry, and once all are written the entries are looked for
again and written together. Both times the same interfaces count, so none is lost in between, and
the package of a function initialises it exactly if there is one.
-/
import AdaGlue.Proofs.Wrappers.Packages

namespace AdaGlue

/-- A file of an emission holds what was written to it. -/
theorem Emission.text?_close (e : Emission) (k : Destination) :
    e.close.text? e.function.name k = e.drafts.get k := by
  unfold Output.text? close
  dsimp only
  rcases hfind : e.files.find? fun g => (g.function, g.kind) == (e.function.name, k) with _ | g
  · rw [hfind]
    rw [List.find?_eq_none] at hfind
    rcases hk : e.drafts.get k with _ | text
    · rfl
    · have hno := hfind _ (mem_files.2 ⟨k, text, hk, rfl⟩)
      simp at hno
  · obtain ⟨l, text, hl, rfl⟩ := mem_files.1 (List.mem_of_find?_eq_some hfind)
    obtain rfl : l = k := by simpa using List.find?_some hfind
    rw [hfind, hl]
    rfl

namespace Wrappers

/-! ## Entries -/

/-- The provided interfaces whose callers wait, where Ada text can be given for them. -/
def entriesOf (f : FunctionBlock) : List Interface :=
  f.interfaces.filter fun i =>
    i.direction = .provided ∧ i.synchronism = .synchronous ∧ i.binding.language ≠ .qgenC

/-- The entries with that protection, in the order of the function. -/
def entriesWith (x : Protection) (f : FunctionBlock) : List Interface :=
  (entriesOf f).filter (·.protection = x)

theorem syncEntries_eq_entriesOf (f : FunctionBlock) : syncEntries f = entriesOf f := by
  rw [syncEntries_eq_filter]
  refine List.filter_congr fun i _ => ?_
  rw [Bool.eq_iff_iff]
  simp [isEntry, Interface.isProvided, Interface.isSynchronous]

theorem guardedEntries_eq (f : FunctionBlock) :
    guardedEntries f = if f.runtime = .passive then entriesWith .shielded f else [] := by
  unfold guardedEntries shieldedEntries entriesWith FunctionBlock.isPassive
  rw [syncEntries_eq_entriesOf]
  simp

theorem plainEntries_eq (f : FunctionBlock) : plainEntries f = entriesWith .unshielded f := by
  unfold plainEntries entriesWith
  rw [syncEntries_eq_entriesOf]
  refine List.filter_congr fun i _ => ?_
  cases i.protection <;> rfl

/-- An entry is passed over as long as interfaces are written one by one. -/
theorem wrapperLines_of_mem_entriesOf (v : View) {f : FunctionBlock} {i : Interface}
    (hi : i ∈ entriesOf f) (k : Destination) : wrapperLines v f i k = [] := by
  have hentry : isEntry i = true := by
    rw [← syncEntries_eq_entriesOf, syncEntries_eq_filter] at hi
    exact (List.mem_filter.1 hi).2
  rcases hd : v.decide f i with x | d
  · rw [wrapperLines, hd]
  · have hdefer := (route_eq_deferToAggregate_iff (decide_eq_ok hd).1).2 hentry
    rw [wrapperLines_of_decide hd, procedure?, hdefer]

/-! ## The lines behind the other interfaces -/

/-- The protected object, as it is declared or with its bodies, is there exactly if a passive
function has an entry for it. -/
theorem object_guardedEntries (object : List Procedure → List Line) (hempty : object [] = [])
    (f : FunctionBlock) :
    object ((guardedEntries f).map (entryProcedure f)) =
      if f.runtime = .passive ∧ entriesWith .shielded f ≠ [] then
        object ((entriesWith .shielded f).map (entryProcedure f))
      else [] := by
  rw [guardedEntries_eq]
  by_cases hpassive : f.runtime = .passive
  · by_cases hnone : entriesWith .shielded f = []
    · simp [hnone, hempty]
    · simp [hpassive, hnone]
  · simp [hpassive, hempty]

theorem endLines_wrappersBody (f : FunctionBlock) :
    endLines f .wrappersBody =
      (if entriesOf f ≠ [] ∧ f.artificial = false then
        [⟨0, "begin"⟩, ⟨1, "C_Init_" ++ f.name ++ ";"⟩, ⟨0, ""⟩] else []) ++
      [⟨0, "end " ++ Ada.wrappersPackage f.name ++ ";"⟩] := by
  unfold endLines bodyEnd
  rw [syncEntries_eq_entriesOf]
  by_cases hnone : entriesOf f = []
  · simp [hnone, given, endLine, laidOut]
  · cases hart : f.artificial <;> simp [hnone, given, endLine, laidOut]

end Wrappers

namespace Setting

variable {s : Setting} {f : FunctionBlock} {out : Output}

theorem text?_of_generateFunction (hforeign : f.language.isForeign = false)
    (h : s.generateFunction .wrappers f = .ok out) {k : Destination}
    (hk : (Wrappers.openFiles f).isOpen k = true) :
    out.text? f.name k = some (page (Wrappers.fileLines s.view f k)) := by
  obtain ⟨hlive, rfl⟩ := s.live_of_generateFunction h
  obtain ⟨e, htext, hfun, hdrafts⟩ := s.textOf_wrappers_eq_close hforeign hlive
  rw [htext, ← hfun, Emission.text?_close, hdrafts, hfun, Wrappers.get_openFiles hk]
  simp

end Setting

open Wrappers in
/-- The synchronous entries of a function are complete. That there is one has been noted exactly if
there is one. They are passed over while the interfaces are written, and stand behind them: in a
passive function those that exclude each other inside its one protected object, if there are any,
and then, in any function, the others. The package initialises the function where it has entries and
is not made by the tools. -/
theorem aggregate_complete {s : Setting} {f : FunctionBlock}
    (hlanguage : f.language ≠ .qgenAda ∧ f.language ≠ .qgenC) {out : Output}
    (h : s.generateFunction .wrappers f = .ok out) :
    ∃ e, f.interfaces.foldlM (emit s.view) (begin s.view f) = .ok e ∧ out = finish e ∧
      (e.synchronous = true ↔ entriesOf f ≠ []) ∧
      (∀ i ∈ entriesOf f, ∀ k, wrapperLines s.view f i k = []) ∧
      out.text? f.name .wrappersDecl = some (page
        (frontLines s.view f .wrappersDecl ++
          f.interfaces.flatMap (wrapperLines s.view f · .wrappersDecl) ++
          (if f.runtime = .passive ∧ entriesWith .shielded f ≠ [] then
            Content.objectDeclared f ((entriesWith .shielded f).map (entryProcedure f)) else []) ++
          (entriesWith .unshielded f).flatMap (fun i => (plainEntryProcedure f i).declared 1) ++
          [⟨0, "end " ++ Ada.wrappersPackage f.name ++ ";"⟩])) ∧
      out.text? f.name .wrappersBody = some (page
        (frontLines s.view f .wrappersBody ++
          f.interfaces.flatMap (wrapperLines s.view f · .wrappersBody) ++
          (if f.runtime = .passive ∧ entriesWith .shielded f ≠ [] then
            Content.objectImplemented f ((entriesWith .shielded f).map (entryProcedure f))
            else []) ++
          (entriesWith .unshielded f).flatMap (fun i => (plainEntryProcedure f i).implemented 1) ++
          (if entriesOf f ≠ [] ∧ f.artificial = false then
            [⟨0, "begin"⟩, ⟨1, "C_Init_" ++ f.name ++ ";"⟩, ⟨0, ""⟩] else []) ++
          [⟨0, "end " ++ Ada.wrappersPackage f.name ++ ";"⟩])) := by
  have hforeign := (isForeign_eq_false_iff f.language).2 hlanguage
  obtain ⟨e, he, hout⟩ := s.generateFunction_wrappers_eq_ok h
  obtain ⟨hdecl, hbody⟩ := entryLines_eq f
  rw [object_guardedEntries (Content.objectDeclared f) rfl, plainEntries_eq,
    List.flatMap_map] at hdecl
  rw [object_guardedEntries (Content.objectImplemented f) rfl, plainEntries_eq,
    List.flatMap_map] at hbody
  refine ⟨e, he, hout, ?_, fun i hi => wrapperLines_of_mem_entriesOf s.view hi, ?_, ?_⟩
  · obtain ⟨-, hsync, -⟩ := foldlM_emit_adds hforeign (fun _ hi => hi) (ready_begin s.view f) he
    rw [hsync, (begin_adds s.view f).2, Bool.false_or, ← syncEntries_eq_entriesOf,
      syncEntries_eq_filter]
    simp
  · rw [Setting.text?_of_generateFunction hforeign h (isOpen_wrappers f).1, fileLines, hdecl]
    simp only [List.append_assoc]
    rfl
  · rw [Setting.text?_of_generateFunction hforeign h (isOpen_wrappers f).2, fileLines, hbody,
      endLines_wrappersBody]
    simp only [List.append_assoc]

/-- A passive function with entries of all kinds, and one interface that is no entry. -/
def vault : FunctionBlock :=
  { name := "Vault", language := .c, runtime := .passive
    interfaces :=
      [{ name := "Put", direction := .provided, synchronism := .synchronous },
       { name := "Peek", direction := .provided, synchronism := .synchronous
         protection := .unshielded },
       { name := "Raw", direction := .provided, synchronism := .synchronous
         binding := { language := .qgenC } },
       { name := "Lock", direction := .provided },
       { name := "Take", direction := .provided, synchronism := .synchronous }] }

def vaultAlone : View where
  functions := [vault]
  sound := by decide

open Wrappers in
theorem aggregate_complete_of_vault :
    (entriesWith .shielded vault).map (·.name) = ["Put", "Take"] ∧
      (entriesWith .unshielded vault).map (·.name) = ["Peek"] ∧
      ∃ e out, vault.interfaces.foldlM (emit vaultAlone) (begin vaultAlone vault) = .ok e ∧
        Setting.generateFunction { view := vaultAlone } .wrappers vault = .ok out ∧
        e.synchronous = true ∧
        out.text? "Vault" .wrappersDecl = some (page
          (frontLines vaultAlone vault .wrappersDecl ++
            vault.interfaces.flatMap (wrapperLines vaultAlone vault · .wrappersDecl) ++
            [⟨1, rule⟩, ⟨1, "--  Protected access to \"Vault\""⟩, ⟨1, rule⟩,
             ⟨1, "protected Protected_Vault is"⟩,
             ⟨2, "procedure Put;"⟩,
             ⟨2, "procedure Take;"⟩,
             ⟨1, "end Protected_Vault;"⟩,
             ⟨1, ""⟩] ++
            [⟨1, rule⟩, ⟨1, "--  Unprotected Provided Interface \"Peek\""⟩, ⟨1, rule⟩,
             ⟨1, "procedure Peek;"⟩,
             ⟨1, ""⟩] ++
            [⟨0, "end Vault_Wrappers;"⟩])) ∧
        out.text? "Vault" .wrappersBody = some (page
          (frontLines vaultAlone vault .wrappersBody ++
            vault.interfaces.flatMap (wrapperLines vaultAlone vault · .wrappersBody) ++
            [⟨1, "protected body Protected_Vault is"⟩,
             ⟨2, "procedure Put is"⟩,
             ⟨3, "procedure C_Put;"⟩,
             ⟨3, "pragma Import (C, C_Put, \"Vault_Put\");"⟩,
             ⟨2, "begin"⟩,
             ⟨3, "C_Put;"⟩,
             ⟨2, "end Put;"⟩,
             ⟨2, ""⟩,
             ⟨2, "procedure Take is"⟩,
             ⟨3, "procedure C_Take;"⟩,
             ⟨3, "pragma Import (C, C_Take, \"Vault_Take\");"⟩,
             ⟨2, "begin"⟩,
             ⟨3, "C_Take;"⟩,
             ⟨2, "end Take;"⟩,
             ⟨2, ""⟩,
             ⟨1, "end Protected_Vault;"⟩,
             ⟨1, ""⟩] ++
            [⟨1, "procedure Peek is"⟩,
             ⟨2, "procedure C_Peek;"⟩,
             ⟨2, "pragma Import (C, C_Peek, \"Vault_Peek\");"⟩,
             ⟨1, "begin"⟩,
             ⟨2, "C_Peek;"⟩,
             ⟨1, "end Peek;"⟩,
             ⟨1, ""⟩] ++
            [⟨0, "begin"⟩, ⟨1, "C_Init_Vault;"⟩, ⟨0, ""⟩] ++ [⟨0, "end Vault_Wrappers;"⟩])) := by
  have hlive : Backend.wrappers.fault? vault = none := by decide
  obtain ⟨_, hout, -⟩ := Setting.generateFunction_of_live { view := vaultAlone } hlive
  obtain ⟨e, he, -, hsync, -, hdecl, hbody⟩ := aggregate_complete (by decide) hout
  have hobject : vault.runtime = .passive ∧ entriesWith .shielded vault ≠ [] := by decide
  have hinit : entriesOf vault ≠ [] ∧ vault.artificial = false := by decide
  rw [if_pos hobject] at hdecl
  rw [if_pos hobject, if_pos hinit] at hbody
  exact ⟨by decide, by decide, e, _, he, hout, hsync.2 hinit.1, hdecl, hbody⟩

end AdaGlue
