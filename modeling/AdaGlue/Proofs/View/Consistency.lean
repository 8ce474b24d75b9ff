/-
What the names of a view promise to its readers. A list of functions without a fault has distinct
names, and each of its functions refers only to functions of the list and to provided interfaces of
its own, whose names are distinct too. So a name that is looked up leads to the one function, or
the one interface, that bears it.
-/
import AdaGlue.View.Consistency
import Mathlib.Data.List.Nodup

namespace AdaGlue

/-! ## Lists without a fault -/

theorem nameFault_eq_none_iff {ε : Type} (onEmpty : ε) (onRepeat : String → ε)
    (seen names : List String) :
    nameFault onEmpty onRepeat seen names = none ↔
      (∀ n ∈ names, n ≠ "") ∧ names.Nodup ∧ ∀ n ∈ names, n ∉ seen := by
  induction names generalizing seen with
  | nil => simp [nameFault]
  | cons n r ih =>
    unfold nameFault
    by_cases hempty : n = ""
    · simp [hempty]
    by_cases hseen : n ∈ seen
    · simp [hempty, hseen]
    simp only [String.isEmpty_iff, hempty, hseen, if_false, ih]
    constructor
    · rintro ⟨hne, hnodup, hfresh⟩
      refine ⟨?_, List.nodup_cons.2 ⟨fun h => hfresh n h List.mem_cons_self, hnodup⟩, ?_⟩
      · rintro m (_ | ⟨_, hm⟩); exacts [hempty, hne m hm]
      · rintro m (_ | ⟨_, hm⟩); exacts [hseen, fun h => hfresh m hm (List.mem_cons_of_mem _ h)]
    · rintro ⟨hne, hnodup, hfresh⟩
      obtain ⟨hn, hr⟩ := List.nodup_cons.1 hnodup
      refine ⟨fun m hm => hne m (List.mem_cons_of_mem _ hm), hr, ?_⟩
      rintro m hm (_ | ⟨_, hs⟩)
      exacts [hn hm, hfresh m (List.mem_cons_of_mem _ hm) hs]

/-- A name that occurs once leads to its bearer. -/
theorem find?_name_eq_some_iff {α κ : Type} [BEq κ] [LawfulBEq κ] {name : α → κ} {l : List α}
    (hd : (l.map name).Nodup) {n : κ} {a : α} :
    l.find? (name · == n) = some a ↔ a ∈ l ∧ name a = n := by
  constructor
  · intro h
    exact ⟨List.mem_of_find?_eq_some h, by simpa using List.find?_some h⟩
  · rintro ⟨hm, rfl⟩
    rcases hf : l.find? (name · == name a) with _ | b
    · rw [List.find?_eq_none] at hf
      exact (hf a hm (beq_self_eq_true _)).elim
    · have hb : name b = name a := by simpa using List.find?_some hf
      rw [List.inj_on_of_nodup_map hd (List.mem_of_find?_eq_some hf) hm hb]

/-- So the bearers of a name are the one that is found, or none. -/
theorem filter_name_eq_toList {α κ : Type} [DecidableEq κ] {name : α → κ} {l : List α}
    (hd : (l.map name).Nodup) (n : κ) :
    l.filter (name · = n) = (l.find? (name · == n)).toList := by
  induction l with
  | nil => rfl
  | cons a l ih =>
    obtain ⟨ha, hl⟩ := List.nodup_cons.1 hd
    by_cases hn : name a = n
    · have hrest : l.filter (name · = n) = [] := by
        rw [List.filter_eq_nil_iff]
        intro b hb hbn
        exact ha (List.mem_map.2 ⟨b, hb, (of_decide_eq_true hbn).trans hn.symm⟩)
      rw [List.filter_cons_of_pos (by simpa using hn), hrest,
        List.find?_cons_of_pos (by simpa using hn)]
      rfl
    · rw [List.filter_cons_of_neg (by simpa using hn), ih hl,
        List.find?_cons_of_neg (by simpa using hn)]

/-! ## Functions without a fault -/

/-- What a function refers to stands where it should; `known` are the names of all functions. -/
structure FunctionBlock.Consistent (known : List String) (f : FunctionBlock) : Prop where
  threads : ∀ t ∈ f.callingThreads, t ∈ known
  named : ∀ i ∈ f.interfaces, i.name ≠ ""
  distinct : (f.interfaces.map (·.name)).Nodup
  interfaceThreads : ∀ i ∈ f.interfaces, ∀ t ∈ i.callingThreads, t ∈ known
  calling : ∀ i ∈ f.interfaces, ∀ c ∈ i.callingInterfaces, ∃ p ∈ f.provided, p.name = c
  remote : ∀ i ∈ f.interfaces, i.isRequired = true → i.remoteFunction.isSome

theorem interface?_provided_iff {f : FunctionBlock} (hd : (f.interfaces.map (·.name)).Nodup)
    (c : String) : (f.interface? c).any (·.isProvided) = true ↔ ∃ p ∈ f.provided, p.name = c := by
  simp only [Option.any_eq_true, FunctionBlock.interface?, find?_name_eq_some_iff hd,
    FunctionBlock.provided, List.mem_filter]
  constructor
  · rintro ⟨p, ⟨hm, hn⟩, hp⟩; exact ⟨p, ⟨hm, hp⟩, hn⟩
  · rintro ⟨p, ⟨hm, hp⟩, hn⟩; exact ⟨p, ⟨hm, hn⟩, hp⟩

theorem interfaceFault_eq_none_iff {known : List String} {f : FunctionBlock}
    (hd : (f.interfaces.map (·.name)).Nodup) (i : Interface) :
    interfaceFault known f i = none ↔
      (∀ t ∈ i.callingThreads, t ∈ known) ∧
      (∀ c ∈ i.callingInterfaces, ∃ p ∈ f.provided, p.name = c) ∧
      (i.isRequired = true → i.remoteFunction.isSome) := by
  have hcall : (∀ c ∈ i.callingInterfaces, ¬ (!(f.interface? c).any (·.isProvided)) = true) ↔
      ∀ c ∈ i.callingInterfaces, ∃ p ∈ f.provided, p.name = c :=
    forall₂_congr fun c _ => by simp only [← interface?_provided_iff hd c]; simp
  simp only [interfaceFault, Option.or_eq_none_iff, Option.map_eq_none_iff, List.find?_eq_none,
    hcall]
  cases i.remoteFunction <;> simp

theorem functionFault_eq_none_iff (known : List String) (f : FunctionBlock) :
    functionFault known f = none ↔ f.Consistent known := by
  simp only [functionFault, Option.or_eq_none_iff, Option.map_eq_none_iff, List.find?_eq_none,
    nameFault_eq_none_iff, List.findSome?_eq_none_iff]
  constructor
  · rintro ⟨ht, ⟨hne, hd, -⟩, hi⟩
    have hi' := fun i him => (interfaceFault_eq_none_iff hd i).1 (hi i him)
    exact ⟨by simpa using ht, fun i him => hne _ (List.mem_map_of_mem him), hd,
      fun i him => (hi' i him).1, fun i him => (hi' i him).2.1, fun i him => (hi' i him).2.2⟩
  · intro h
    refine ⟨by simpa using h.threads, ⟨?_, h.distinct, by simp⟩, fun i him =>
      (interfaceFault_eq_none_iff h.distinct i).2
        ⟨h.interfaceThreads i him, h.calling i him, h.remote i him⟩⟩
    rintro n hn
    obtain ⟨i, him, rfl⟩ := List.mem_map.1 hn
    exact h.named i him

theorem firstFault_eq_none_iff (functions : List FunctionBlock) :
    firstFault functions = none ↔
      (∀ f ∈ functions, f.name ≠ "") ∧ (functions.map (·.name)).Nodup ∧
      ∀ f ∈ functions, f.Consistent (functions.map (·.name)) := by
  simp only [firstFault, Option.or_eq_none_iff, nameFault_eq_none_iff, List.findSome?_eq_none_iff,
    functionFault_eq_none_iff]
  simp [and_assoc]

/-! ## Views -/

namespace View

theorem ofFunctions_eq_ok_iff {functions : List FunctionBlock} {v : View} :
    ofFunctions functions = .ok v ↔ functions = v.functions := by
  unfold ofFunctions
  constructor
  · intro h
    split at h
    · cases h; rfl
    · cases h
  · rintro rfl
    split
    · rfl
    · next e he => rw [v.sound] at he; cases he

theorem ofFunctions_eq_error_iff {functions : List FunctionBlock} {e : ViewError} :
    ofFunctions functions = .error e ↔ firstFault functions = some e := by
  unfold ofFunctions
  split
  · next hnone => simp [hnone]
  · next x hx => simp [hx]

variable (v : View)

theorem name_ne_empty {f : FunctionBlock} (hf : f ∈ v.functions) : f.name ≠ "" :=
  ((firstFault_eq_none_iff _).1 v.sound).1 f hf

theorem names_nodup : (v.functions.map (·.name)).Nodup :=
  ((firstFault_eq_none_iff _).1 v.sound).2.1

theorem consistent {f : FunctionBlock} (hf : f ∈ v.functions) :
    f.Consistent (v.functions.map (·.name)) :=
  ((firstFault_eq_none_iff _).1 v.sound).2.2 f hf

theorem function?_eq_some_iff {n : String} {f : FunctionBlock} :
    v.function? n = some f ↔ f ∈ v.functions ∧ f.name = n :=
  find?_name_eq_some_iff v.names_nodup

/-- A name of the view has a function behind it. -/
theorem exists_function? {n : String} (hn : n ∈ v.functions.map (·.name)) :
    ∃ f ∈ v.functions, f.name = n ∧ v.function? n = some f := by
  obtain ⟨f, hf, rfl⟩ := List.mem_map.1 hn
  exact ⟨f, hf, rfl, v.function?_eq_some_iff.2 ⟨hf, rfl⟩⟩

end View

theorem FunctionBlock.Consistent.interface?_eq_some_iff {known : List String} {f : FunctionBlock}
    (h : f.Consistent known) {n : String} {i : Interface} :
    f.interface? n = some i ↔ i ∈ f.interfaces ∧ i.name = n :=
  find?_name_eq_some_iff h.distinct

end AdaGlue
