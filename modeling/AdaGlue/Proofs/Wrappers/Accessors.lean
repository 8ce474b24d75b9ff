/-
How a call that waits comes to the callee's entry, and where the callee declares it. The interface
that calls says by itself whether it goes through the callee's protected object; the callee's
interface says whether the entry stands inside that object, and only a passive function has one,
as a thread runs its calls one by one. The two sides meet exactly when both interfaces say the same
and the entry is not a guarded one of a thread.
-/
import AdaGlue.Proofs.Wrappers.Linking
import AdaGlue.Proofs.Wrappers.Packages

namespace AdaGlue

namespace Wrappers

/-! ## Where an entry is declared -/

namespace Content

/-- The package has the procedure of that interface inside its protected object. -/
def Guards (c : Content) (p : Interface) : Prop :=
  ∃ q ∈ c.inside, q.interface = p ∧ q.name = p.name

/-- The package has the procedure of that interface at its own level. -/
def Exposes (c : Content) (p : Interface) : Prop :=
  ∃ q ∈ c.above ++ c.below, q.interface = p ∧ q.name = p.name

end Content

section Entries

variable {v : View} {g : FunctionBlock} {p : Interface} (hp : p ∈ g.interfaces)
  (hentry : isEntry p = true)

include hp hentry

/-- An entry is guarded if it asks for it and its function is passive. -/
theorem guards_contentOf_iff :
    (contentOf v g .wrappers).Guards p ↔ p.protection = .shielded ∧ g.runtime = .passive := by
  constructor
  · rintro ⟨q, hq, rfl, -⟩
    obtain ⟨p, hmem, rfl⟩ := List.mem_map.1 hq
    exact (mem_guardedEntries.1 hmem).2.2
  · intro hguarded
    exact ⟨_, List.mem_map_of_mem (mem_guardedEntries.2 ⟨hp, hentry, hguarded⟩), rfl, rfl⟩

/-- An entry is exposed if it does not ask to be guarded. -/
theorem exposes_contentOf_iff (hforeign : g.language.isForeign = false)
    (hlive : ∀ i ∈ g.interfaces, deadCall? g i = none) :
    (contentOf v g .wrappers).Exposes p ↔ p.protection = .unshielded := by
  constructor
  · rintro ⟨q, hq, rfl, -⟩
    rcases List.mem_append.1 hq with hq | hq
    · -- what stands above the entries is the procedure of none of them
      have habove := List.mem_map_of_mem (f := Procedure.interface) hq
      rw [contentOf, map_interface_filterMap_wrapperIn? v hforeign hlive, List.mem_filter,
        hasWrapper_of_isEntry hentry] at habove
      simp at habove
    · obtain ⟨p, hmem, rfl⟩ := List.mem_map.1 hq
      exact (mem_plainEntries.1 hmem).2.2
  · intro hplain
    have hmem := List.mem_map_of_mem (f := plainEntryProcedure g)
      (mem_plainEntries.2 ⟨hp, hentry, hplain⟩)
    exact ⟨_, List.mem_append_right _ hmem, rfl, rfl⟩

end Entries

/-! ## Calls and entries -/

theorem accessor_eq_shielded_iff (x : Protection) : Accessor.of x = .shielded ↔ x = .shielded := by
  cases x <;> simp [Accessor.of]

theorem accessor_eq_plain_iff (x : Protection) : Accessor.of x = .plain ↔ x = .unshielded := by
  cases x <;> simp [Accessor.of]

/-- `p` of `g` is the entry that calls through `i` are made to. -/
structure EntryOf (i : Interface) (g : FunctionBlock) (p : Interface) : Prop where
  callee : i.remoteFunction = some g.name
  language : g.language ≠ .qgenAda ∧ g.language ≠ .qgenC
  owned : p ∈ g.interfaces
  provided : p.direction = .provided
  synchronous : p.synchronism = .synchronous
  bound : p.binding.language ≠ .qgenC
  name : p.name = i.entryPoint

theorem EntryOf.isEntry {i p : Interface} {g : FunctionBlock} (h : EntryOf i g p) :
    isEntry p = true := by
  simp [Wrappers.isEntry, Interface.isProvided, Interface.isSynchronous, h.provided, h.synchronous,
    h.bound]

/-- The wrappers of the callee declare the entry where it belongs. -/
theorem declared_of_generateFunction {s : Setting} {g : FunctionBlock} {out : Output}
    (h : s.generateFunction .wrappers g = .ok out) {i p : Interface} (hentry : EntryOf i g p) :
    fileWith g .wrappersDecl (frontLines s.view g .wrappersDecl ++
        (contentOf s.view g .wrappers).declared g ++ endLines g .wrappersDecl) ∈ out.files ∧
      ((contentOf s.view g .wrappers).Guards p ↔
        p.protection = .shielded ∧ g.runtime = .passive) ∧
      ((contentOf s.view g .wrappers).Exposes p ↔ p.protection = .unshielded) := by
  have hforeign := (isForeign_eq_false_iff g.language).2 hentry.language
  obtain ⟨hfault, rfl⟩ := s.live_of_generateFunction h
  refine ⟨?_, guards_contentOf_iff hentry.owned hentry.isEntry,
    exposes_contentOf_iff hentry.owned hentry.isEntry hforeign
      (List.findSome?_eq_none_iff.1 hfault)⟩
  rw [s.files_textOf_wrappers_eq hforeign hfault, packagesOf, List.flatMap_cons]
  exact List.mem_append_left _ List.mem_cons_self

end Wrappers

open Wrappers in
/-- A call that waits goes through the callee's protected object exactly if its own interface asks
for it. The callee declares the entry inside the object exactly if the entry asks for it and the
callee is passive, and at the level of the package exactly if the entry does not ask for it. So call
and declaration fit together exactly if both interfaces ask for the same and the entry is not a
guarded one of a thread. -/
theorem accessor_fits_entry_iff {s : Setting} {f : FunctionBlock} (hf : f ∈ s.view.functions)
    (hlanguage : f.language ≠ .qgenAda ∧ f.language ≠ .qgenC) {i : Interface}
    (hi : i ∈ f.interfaces) (hrequired : i.direction = .required)
    (hsync : i.synchronism = .synchronous)
    (hbound : i.binding.language ≠ .qgenAda ∧ i.binding.language ≠ .qgenC)
    (hlive : ¬ DeadCall f i) {g : FunctionBlock} {p : Interface} (hentry : EntryOf i g p) :
    ∃ d accessor, s.view.decide f i = .ok d ∧
      d.route = .callCallee g.name p.name accessor ∧
      (accessor = .shielded ↔ i.protection = .shielded) ∧
      (accessor = .plain ↔ i.protection = .unshielded) ∧
      ∀ out, s.generateFunction .wrappers g = .ok out →
        let content := contentOf s.view g .wrappers
        fileWith g .wrappersDecl (frontLines s.view g .wrappersDecl ++ content.declared g ++
          endLines g .wrappersDecl) ∈ out.files ∧
        (content.Guards p ↔ p.protection = .shielded ∧ g.runtime = .passive) ∧
        (content.Exposes p ↔ p.protection = .unshielded) ∧
        (((accessor = .shielded ↔ content.Guards p) ∧ (accessor = .plain ↔ content.Exposes p)) ↔
          i.protection = p.protection ∧ (g.runtime = .passive ∨ p.protection = .unshielded)) := by
  have hdead : isDeadCall f i = false := by
    have hnone := (deadCall?_eq_none_iff (s.view.consistent hf) hi).2 hlive
    simpa [deadCall?, Interface.isRequired, hrequired, hbound.2,
      (isForeign_eq_false_iff _).2 hlanguage] using hnone
  have hcallee : i.callee = g.name := by simp [Interface.callee, hentry.callee]
  refine ⟨_, .of i.protection, decide_eq_callCallee hrequired hsync hbound hdead, ?_,
    accessor_eq_shielded_iff _, accessor_eq_plain_iff _, ?_⟩
  · rw [hcallee, hentry.name]
  intro out hout
  obtain ⟨hfile, hguards, hexposes⟩ := declared_of_generateFunction hout hentry
  refine ⟨hfile, hguards, hexposes, ?_⟩
  rw [hguards, hexposes, accessor_eq_shielded_iff, accessor_eq_plain_iff]
  cases i.protection <;> cases p.protection <;> cases g.runtime <;> simp

/-- The same call past the protected object of the store. -/
def slipping : Interface :=
  { storing with name := "Slip", protection := .unshielded }

/-- A call of an entry that a thread guards by itself. -/
def asking : Interface :=
  { name := "Ask", direction := .required, synchronism := .synchronous
    remoteFunction := some "Server", remoteEntry := some "Serve" }

/-- The entry of the thread. -/
def serving : Interface :=
  { name := "Serve", direction := .provided, synchronism := .synchronous }

def serverThread : FunctionBlock :=
  { name := "Server", language := .ada, runtime := .thread, interfaces := [serving] }

/-- A thread that calls a guarded entry in both ways, and one of another thread. -/
def callingThread : FunctionBlock :=
  { name := "Ctrl", runtime := .thread, interfaces := [storing, slipping, asking] }

/-- The thread and its callees. -/
def storeAndServer : View where
  functions := [callingThread, passiveStore, serverThread]
  sound := by decide

open Wrappers in
theorem accessor_fits_entry_iff_of_store :
    ∃ d out, storeAndServer.decide callingThread storing = .ok d ∧
      d.route = .callCallee "Store" "Put" .shielded ∧
      Setting.generateFunction { view := storeAndServer } .wrappers passiveStore = .ok out ∧
      (contentOf storeAndServer passiveStore .wrappers).Guards storePut ∧
      ¬ (contentOf storeAndServer passiveStore .wrappers).Exposes storePut := by
  have hstore : EntryOf storing passiveStore storePut :=
    ⟨rfl, by decide, by simp [passiveStore], rfl, rfl, by decide, rfl⟩
  have hlive : Backend.wrappers.fault? passiveStore = none := by decide
  obtain ⟨e, hout, -⟩ := Setting.generateFunction_of_live { view := storeAndServer } hlive
  obtain ⟨d, accessor, hd, hroute, hshielded, -, hdeclared⟩ :=
    accessor_fits_entry_iff (s := { view := storeAndServer }) (f := callingThread)
      (by simp [storeAndServer]) (by decide) (i := storing) (by simp [callingThread]) rfl rfl
      (by decide) (fun hdead => by cases hdead.passive) hstore
  obtain ⟨-, hguards, hexposes, -⟩ := hdeclared _ hout
  obtain rfl := hshielded.2 rfl
  exact ⟨d, _, hd, hroute, hout, hguards.2 ⟨rfl, rfl⟩, fun h => by cases hexposes.1 h⟩

open Wrappers in
/-- The interface that calls may differ from the entry, and a thread declares no guarded entry. -/
theorem accessor_differs_from_entry :
    (EntryOf slipping passiveStore storePut ∧
      (∃ d, storeAndServer.decide callingThread slipping = .ok d ∧
        d.route = .callCallee "Store" "Put" .plain) ∧
      (contentOf storeAndServer passiveStore .wrappers).Guards storePut) ∧
    (EntryOf asking serverThread serving ∧
      (∃ d, storeAndServer.decide callingThread asking = .ok d ∧
        d.route = .callCallee "Server" "Serve" .shielded) ∧
      ∃ out, Setting.generateFunction { view := storeAndServer } .wrappers serverThread = .ok out ∧
        ¬ (contentOf storeAndServer serverThread .wrappers).Guards serving ∧
        ¬ (contentOf storeAndServer serverThread .wrappers).Exposes serving) := by
  have hstore : EntryOf slipping passiveStore storePut :=
    ⟨rfl, by decide, by simp [passiveStore], rfl, rfl, by decide, rfl⟩
  have hserver : EntryOf asking serverThread serving :=
    ⟨rfl, by decide, by simp [serverThread], rfl, rfl, by decide, rfl⟩
  have hlive : Backend.wrappers.fault? serverThread = none := by decide
  obtain ⟨e, hout, -⟩ := Setting.generateFunction_of_live { view := storeAndServer } hlive
  obtain ⟨-, hguards, hexposes⟩ := declared_of_generateFunction hout hserver
  refine ⟨⟨hstore, ⟨_, decide_eq_callCallee rfl rfl (by decide) (by decide), rfl⟩, ?_⟩,
    hserver, ⟨_, decide_eq_callCallee rfl rfl (by decide) (by decide), rfl⟩, _, hout, ?_, ?_⟩
  · exact (guards_contentOf_iff hstore.owned hstore.isEntry).2 ⟨rfl, rfl⟩
  · intro h
    cases (hguards.1 h).2
  · intro h
    cases hexposes.1 h

end AdaGlue
