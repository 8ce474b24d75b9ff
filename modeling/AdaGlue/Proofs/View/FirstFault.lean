/-
Which fault of a list of functions is reported. The places where a name can be at fault are
numbered like the sections of a document: part 0 are the names of the functions, part 1 the
functions themselves, each with its calling threads, the names of its interfaces and its interfaces
as its own parts. A list that is no view is refused with the fault at the first of its places, in
the order in which the document is read, and a view finds each of its functions by its name.
-/
import AdaGlue.Proofs.View.Consistency
import Mathlib.Data.List.Lex

namespace AdaGlue

/-! ## Faults and their places -/

/-- The faults of a list of names: one that is empty, and one that stands there before. -/
inductive NameFaultAt {ε : Type} (onEmpty : ε) (onRepeat : String → ε) (names : List String) :
    List Nat → ε → Prop where
  | empty {n : Nat} : names[n]? = some "" → NameFaultAt onEmpty onRepeat names [n, 0] onEmpty
  | repeated {m n : Nat} {a : String} : m < n → names[m]? = some a → names[n]? = some a →
    NameFaultAt onEmpty onRepeat names [n, 1] (onRepeat a)

/-- The faults of what an interface of `f` refers to; `known` are the names of all functions. -/
inductive InterfaceFaultAt (known : List String) (f : FunctionBlock) (i : Interface) :
    List Nat → ViewError → Prop where
  | thread {n : Nat} {t : String} : i.callingThreads[n]? = some t → t ∉ known →
    InterfaceFaultAt known f i [0, n] (.unknownInterfaceCallingThread f.name i.name t)
  | calling {n : Nat} {c : String} : i.callingInterfaces[n]? = some c →
    (∀ p ∈ f.interfaces, p.direction = .provided → p.name ≠ c) →
    InterfaceFaultAt known f i [1, n] (.unknownCallingInterface f.name i.name c)
  | remote : i.direction = .required → i.remoteFunction = none →
    InterfaceFaultAt known f i [2] (.missingRemoteFunction f.name i.name)

/-- The faults inside a function. -/
inductive FunctionFaultAt (known : List String) (f : FunctionBlock) :
    List Nat → ViewError → Prop where
  | thread {n : Nat} {t : String} : f.callingThreads[n]? = some t → t ∉ known →
    FunctionFaultAt known f [0, n] (.unknownCallingThread f.name t)
  | name {place : List Nat} {e : ViewError} :
    NameFaultAt (.emptyInterfaceName f.name) (.duplicateInterface f.name)
      (f.interfaces.map (·.name)) place e →
    FunctionFaultAt known f (1 :: place) e
  | interface {n : Nat} {i : Interface} {place : List Nat} {e : ViewError} :
    f.interfaces[n]? = some i → InterfaceFaultAt known f i place e →
    FunctionFaultAt known f (2 :: n :: place) e

/-- The faults of a list of functions. -/
inductive FaultAt (functions : List FunctionBlock) : List Nat → ViewError → Prop where
  | name {place : List Nat} {e : ViewError} :
    NameFaultAt .emptyFunctionName .duplicateFunction (functions.map (·.name)) place e →
    FaultAt functions (0 :: place) e
  | inside {n : Nat} {f : FunctionBlock} {place : List Nat} {e : ViewError} :
    functions[n]? = some f → FunctionFaultAt (functions.map (·.name)) f place e →
    FaultAt functions (1 :: n :: place) e

/-- The fault is there at some place, and there is none at any place before. -/
def IsFirst {ε : Type} (faults : List Nat → ε → Prop) (e : ε) : Prop :=
  ∃ place, faults place e ∧ ∀ earlier < place, ∀ x, ¬ faults earlier x

/-! ## Searches for the first fault -/

theorem place_lt {m n : Nat} (h : m < n) (p q : List Nat) : m :: p < n :: q :=
  List.cons_lt_cons_iff.2 (.inl h)

/-- What a search has found is the first of the faults, and nothing only if there is none. -/
structure FindsFirst {ε : Type} (found : Option ε) (faults : List Nat → ε → Prop) : Prop where
  first : ∀ e, found = some e → IsFirst faults e
  nothing : found = none → ∀ place e, ¬ faults place e

namespace FindsFirst

variable {ε : Type} {found found' : Option ε} {faults faults' : List Nat → ε → Prop}

theorem congr (h : FindsFirst found faults) (hsame : ∀ place e, faults' place e ↔ faults place e) :
    FindsFirst found faults' := by
  have heq : faults' = faults := funext fun place => funext fun e => propext (hsame place e)
  exact heq ▸ h

/-- A single test. -/
theorem test (place : List Nat) (c : Prop) [Decidable c] (e : ε) :
    FindsFirst (if c then some e else none) fun p x => p = place ∧ c ∧ x = e := by
  constructor
  · intro x hx
    obtain ⟨hc, hx⟩ := Option.ite_none_right_eq_some.1 hx
    cases hx
    refine ⟨place, ⟨rfl, hc, rfl⟩, ?_⟩
    rintro earlier hlt y ⟨rfl, -, -⟩
    exact lt_irrefl _ hlt
  · rintro hnone p x ⟨-, hc, -⟩
    rw [if_pos hc] at hnone
    cases hnone

/-- One search after the other, where the places of the second lie behind those of the first. The
second may rely on what the first has not found. -/
theorem or (h : FindsFirst found faults) (h' : found = none → FindsFirst found' faults')
    (hlt : ∀ p q e x, faults p e → faults' q x → p < q) :
    FindsFirst (found.or found') fun p e => faults p e ∨ faults' p e := by
  rcases hfound : found with _ | x
  · have hempty := h.nothing hfound
    rw [Option.none_or]
    exact (h' hfound).congr fun p e => or_iff_right (hempty p e)
  · obtain ⟨place, hplace, hbefore⟩ := h.first x hfound
    constructor
    · intro e he
      cases he
      refine ⟨place, .inl hplace, ?_⟩
      rintro earlier hearlier y (hy | hy)
      · exact hbefore earlier hearlier y hy
      · exact lt_asymm hearlier (hlt _ _ _ _ hplace hy)
    · intro hnone
      cases hnone

/-- The search as part `n` of a longer one. -/
theorem part (h : FindsFirst found faults) (n : Nat) :
    FindsFirst found fun p e => ∃ q, p = n :: q ∧ faults q e := by
  constructor
  · intro e he
    obtain ⟨place, hplace, hbefore⟩ := h.first e he
    refine ⟨n :: place, ⟨place, rfl, hplace⟩, ?_⟩
    rintro _ hlt x ⟨q, rfl, hq⟩
    exact hbefore q (by simpa using hlt) x hq
  · rintro hnone p e ⟨q, -, hq⟩
    exact h.nothing hnone q e hq

/-- The members of a list one after the other, numbered from `k` on. -/
theorem findSome? {α : Type} {fault : α → Option ε} {faults : α → List Nat → ε → Prop} {l : List α}
    (h : ∀ a ∈ l, FindsFirst (fault a) (faults a)) (k : Nat) :
    FindsFirst (l.findSome? fault) fun p e =>
      ∃ n a q, p = (k + n) :: q ∧ l[n]? = some a ∧ faults a q e := by
  induction l generalizing k with
  | nil => exact ⟨by simp, by simp⟩
  | cons a l ih =>
    have hrest := ih (fun b hb => h b (List.mem_cons_of_mem _ hb)) (k + 1)
    have hboth := ((h a List.mem_cons_self).part k).or (fun _ => hrest) (by
      rintro _ _ e x ⟨q, rfl, -⟩ ⟨n, b, r, rfl, -, -⟩
      exact place_lt (by omega) _ _)
    have hcons : (a :: l).findSome? fault = (fault a).or (l.findSome? fault) := by
      rw [List.findSome?_cons]
      cases fault a <;> rfl
    rw [hcons]
    refine hboth.congr fun p e => ?_
    constructor
    · rintro ⟨_ | n, b, q, rfl, hb, hfault⟩
      · cases hb
        exact .inl ⟨q, rfl, hfault⟩
      · exact .inr ⟨n, b, q, by rw [Nat.add_right_comm, Nat.add_assoc], hb, hfault⟩
    · rintro (⟨q, rfl, hfault⟩ | ⟨n, b, q, rfl, hb, hfault⟩)
      · exact ⟨0, a, q, rfl, rfl, hfault⟩
      · exact ⟨n + 1, b, q, by rw [Nat.add_right_comm, Nat.add_assoc], hb, hfault⟩

/-- A place has one fault at most, so the first fault is the one that is found. -/
theorem eq_some_iff (h : FindsFirst found faults)
    (hunique : ∀ p e x, faults p e → faults p x → e = x) (e : ε) :
    found = some e ↔ IsFirst faults e := by
  refine ⟨h.first e, ?_⟩
  rintro ⟨place, hplace, hbefore⟩
  rcases hfound : found with _ | x
  · exact (h.nothing hfound place e hplace).elim
  obtain ⟨place', hplace', hbefore'⟩ := h.first x hfound
  rcases lt_trichotomy place place' with hlt | rfl | hlt
  · exact (hbefore' place hlt e hplace).elim
  · rw [hunique place x e hplace' hplace]
  · exact (hbefore place' hlt x hplace').elim

end FindsFirst

/-! ## What the checks find -/

/-- Names behind others that have been seen, numbered from `k` on. -/
theorem findsFirst_nameFault_from {ε : Type} (onEmpty : ε) (onRepeat : String → ε)
    (seen names : List String) (k : Nat) :
    FindsFirst (nameFault onEmpty onRepeat seen names) fun p e =>
      (∃ n, p = [k + n, 0] ∧ names[n]? = some "" ∧ e = onEmpty) ∨
      ∃ n a, p = [k + n, 1] ∧ names[n]? = some a ∧ (a ∈ seen ∨ ∃ m < n, names[m]? = some a) ∧
        e = onRepeat a := by
  induction names generalizing seen k with
  | nil => exact ⟨by simp [nameFault], by simp⟩
  | cons a names ih =>
    have hcons : nameFault onEmpty onRepeat seen (a :: names) =
        (if a = "" then some onEmpty else none).or
          ((if a ∈ seen then some (onRepeat a) else none).or
            (nameFault onEmpty onRepeat (a :: seen) names)) := by
      simp only [nameFault, String.isEmpty_iff]
      split
      · rfl
      · split <;> rfl
    have hrest := (FindsFirst.test [k, 1] (a ∈ seen) (onRepeat a)).or
      (fun _ => ih (a :: seen) (k + 1)) (by
        rintro _ _ e x ⟨rfl, -, -⟩ (⟨n, rfl, -, -⟩ | ⟨n, b, rfl, -, -, -⟩)
        · exact place_lt (by omega) _ _
        · exact place_lt (by omega) _ _)
    have hall := (FindsFirst.test [k, 0] (a = "") onEmpty).or (fun _ => hrest) (by
      rintro _ _ e x ⟨rfl, -, -⟩ (⟨rfl, -, -⟩ | ⟨n, rfl, -, -⟩ | ⟨n, b, rfl, -, -, -⟩)
      · exact List.cons_lt_cons_iff.2 (.inr ⟨rfl, place_lt (by omega) _ _⟩)
      · exact place_lt (by omega) _ _
      · exact place_lt (by omega) _ _)
    rw [hcons]
    refine hall.congr fun p e => ?_
    have hnext : ∀ n, k + (n + 1) = k + 1 + n := fun n => by omega
    -- a name is the head, or one behind it that has the head before it
    constructor
    · rintro (⟨_ | n, rfl, hn, rfl⟩ | ⟨_ | n, b, rfl, hb, hseen, rfl⟩)
      · exact .inl ⟨rfl, by simpa using hn, rfl⟩
      · exact .inr (.inr (.inl ⟨n, by rw [hnext], hn, rfl⟩))
      · obtain rfl : a = b := by simpa using hb
        refine .inr (.inl ⟨rfl, ?_, rfl⟩)
        simpa using hseen
      · refine .inr (.inr (.inr ⟨n, b, by rw [hnext], hb, ?_, rfl⟩))
        rcases hseen with hseen | ⟨_ | m, hm, hbm⟩
        · exact .inl (List.mem_cons_of_mem _ hseen)
        · cases hbm
          exact .inl List.mem_cons_self
        · exact .inr ⟨m, by omega, hbm⟩
    · rintro (⟨rfl, ha, rfl⟩ | ⟨rfl, ha, rfl⟩ | ⟨n, rfl, hn, rfl⟩ | ⟨n, b, rfl, hb, hseen, rfl⟩)
      · exact .inl ⟨0, rfl, by rw [ha]; rfl, rfl⟩
      · exact .inr ⟨0, a, rfl, rfl, .inl ha, rfl⟩
      · exact .inl ⟨n + 1, by rw [← hnext], hn, rfl⟩
      · refine .inr ⟨n + 1, b, by rw [← hnext], hb, ?_, rfl⟩
        rcases hseen with hseen | ⟨m, hm, hbm⟩
        · rcases List.mem_cons.1 hseen with rfl | hseen
          · exact .inr ⟨0, by omega, rfl⟩
          · exact .inl hseen
        · exact .inr ⟨m + 1, by omega, hbm⟩

theorem findsFirst_nameFault {ε : Type} (onEmpty : ε) (onRepeat : String → ε)
    (names : List String) :
    FindsFirst (nameFault onEmpty onRepeat [] names) (NameFaultAt onEmpty onRepeat names) := by
  refine (findsFirst_nameFault_from onEmpty onRepeat [] names 0).congr fun p e => ?_
  simp only [Nat.zero_add]
  constructor
  · rintro (hn | ⟨hlt, hm, hn⟩)
    · exact .inl ⟨_, rfl, hn, rfl⟩
    · exact .inr ⟨_, _, rfl, hn, .inr ⟨_, hlt, hm⟩, rfl⟩
  · rintro (⟨n, rfl, hn, rfl⟩ | ⟨n, a, rfl, hn, hseen | ⟨m, hlt, hm⟩, rfl⟩)
    · exact .empty hn
    · cases hseen
    · exact .repeated hlt hm hn

/-- The first member that fails a test. -/
theorem findsFirst_find? {α ε : Type} (l : List α) (bad : α → Bool) (err : α → ε) :
    FindsFirst ((l.find? bad).map err) fun p e =>
      ∃ n a, p = [n] ∧ l[n]? = some a ∧ bad a = true ∧ e = err a := by
  have hsearch : (l.find? bad).map err =
      l.findSome? fun a => if bad a = true then some (err a) else none := by
    induction l with
    | nil => rfl
    | cons a l ih =>
      rw [List.find?_cons, List.findSome?_cons]
      cases bad a
      · exact ih
      · rfl
  rw [hsearch]
  refine (FindsFirst.findSome? (fun a _ => .test [] (bad a = true) (err a)) 0).congr fun p e => ?_
  simp only [Nat.zero_add]
  constructor
  · rintro ⟨n, a, rfl, ha, hbad, rfl⟩
    exact ⟨n, a, [], rfl, ha, rfl, hbad, rfl⟩
  · rintro ⟨n, a, _, rfl, ha, rfl, hbad, rfl⟩
    exact ⟨n, a, rfl, ha, hbad, rfl⟩

/-- The interfaces of the function have names of their own here, so a name that is looked up leads
to the interface that is meant. -/
theorem findsFirst_interfaceFault (known : List String) {f : FunctionBlock}
    (hd : (f.interfaces.map (·.name)).Nodup) (i : Interface) :
    FindsFirst (interfaceFault known f i) (InterfaceFaultAt known f i) := by
  have hthreads := (findsFirst_find? i.callingThreads (· ∉ known)
    (ViewError.unknownInterfaceCallingThread f.name i.name)).part 0
  have hcalling := (findsFirst_find? i.callingInterfaces
    (fun c => !(f.interface? c).any (·.isProvided))
    (ViewError.unknownCallingInterface f.name i.name)).part 1
  have hremote := FindsFirst.test [2] ((i.isRequired && i.remoteFunction.isNone) = true)
    (ViewError.missingRemoteFunction f.name i.name)
  have hlater := hcalling.or (fun _ => hremote) (by
    rintro _ _ e x ⟨q, rfl, -⟩ ⟨rfl, -, -⟩
    exact place_lt (by omega) _ _)
  have hall := hthreads.or (fun _ => hlater) (by
    rintro _ _ e x ⟨q, rfl, -⟩ (⟨r, rfl, -⟩ | ⟨rfl, -, -⟩) <;>
      exact place_lt (by omega) _ _)
  have hnone : ∀ c, (!(f.interface? c).any (·.isProvided)) = true ↔
      ∀ p ∈ f.interfaces, p.direction = .provided → p.name ≠ c := by
    intro c
    have hlook := interface?_provided_iff hd c
    rw [Bool.not_eq_true', Bool.eq_false_iff, Ne, hlook]
    simp [FunctionBlock.provided, Interface.isProvided]
  refine FindsFirst.congr hall fun p e => ?_
  constructor
  · rintro (⟨ht, hknown⟩ | ⟨hc, hprovided⟩ | ⟨hrequired, hremote⟩)
    · exact .inl ⟨_, rfl, _, _, rfl, ht, by simpa using hknown, rfl⟩
    · exact .inr (.inl ⟨_, rfl, _, _, rfl, hc, (hnone _).2 hprovided, rfl⟩)
    · exact .inr (.inr ⟨rfl, by simp [Interface.isRequired, hrequired, hremote], rfl⟩)
  · rintro (⟨_, rfl, n, t, rfl, ht, hknown, rfl⟩ | ⟨_, rfl, n, c, rfl, hc, hprovided, rfl⟩ |
      ⟨rfl, hboth, rfl⟩)
    · exact .thread ht (by simpa using hknown)
    · exact .calling hc ((hnone c).1 hprovided)
    · simp only [Interface.isRequired, Bool.and_eq_true, decide_eq_true_eq,
        Option.isNone_iff_eq_none] at hboth
      exact .remote hboth.1 hboth.2

theorem findsFirst_functionFault (known : List String) (f : FunctionBlock) :
    FindsFirst (functionFault known f) (FunctionFaultAt known f) := by
  have hthreads := (findsFirst_find? f.callingThreads (· ∉ known)
    (ViewError.unknownCallingThread f.name)).part 0
  have hnames := (findsFirst_nameFault (.emptyInterfaceName f.name)
    (ViewError.duplicateInterface f.name) (f.interfaces.map (·.name))).part 1
  have hlater := hnames.or (fun hfine => (FindsFirst.findSome? (l := f.interfaces) (fun i _ =>
      findsFirst_interfaceFault known ((nameFault_eq_none_iff _ _ _ _).1 hfine).2.1 i)
      0).part 2) (by
    rintro _ _ e x ⟨q, rfl, -⟩ ⟨r, rfl, -⟩
    exact place_lt (by omega) _ _)
  have hall := hthreads.or (fun _ => hlater) (by
    rintro _ _ e x ⟨q, rfl, -⟩ (⟨r, rfl, -⟩ | ⟨r, rfl, -⟩) <;>
      exact place_lt (by omega) _ _)
  refine FindsFirst.congr hall fun p e => ?_
  simp only [Nat.zero_add]
  constructor
  · rintro (⟨ht, hknown⟩ | hname | ⟨hi, hfault⟩)
    · exact .inl ⟨_, rfl, _, _, rfl, ht, by simpa using hknown, rfl⟩
    · exact .inr (.inl ⟨_, rfl, hname⟩)
    · exact .inr (.inr ⟨_, rfl, _, _, _, rfl, hi, hfault⟩)
  · rintro (⟨_, rfl, n, t, rfl, ht, hknown, rfl⟩ | ⟨_, rfl, hname⟩ |
      ⟨_, rfl, n, i, q, rfl, hi, hfault⟩)
    · exact .thread ht (by simpa using hknown)
    · exact .name hname
    · exact .interface hi hfault

theorem findsFirst_firstFault (functions : List FunctionBlock) :
    FindsFirst (firstFault functions) (FaultAt functions) := by
  have hnames := (findsFirst_nameFault .emptyFunctionName ViewError.duplicateFunction
    (functions.map (·.name))).part 0
  have hinside := (FindsFirst.findSome? (l := functions)
    (fun f _ => findsFirst_functionFault (functions.map (·.name)) f) 0).part 1
  have hall := hnames.or (fun _ => hinside) (by
    rintro _ _ e x ⟨q, rfl, -⟩ ⟨r, rfl, -⟩
    exact place_lt (by omega) _ _)
  refine FindsFirst.congr hall fun p e => ?_
  simp only [Nat.zero_add]
  constructor
  · rintro (hname | ⟨hf, hfault⟩)
    · exact .inl ⟨_, rfl, hname⟩
    · exact .inr ⟨_, rfl, _, _, _, rfl, hf, hfault⟩
  · rintro (⟨_, rfl, hname⟩ | ⟨_, rfl, n, f, q, rfl, hf, hfault⟩)
    · exact .name hname
    · exact .inside hf hfault

/-! ## One fault at a place -/

theorem NameFaultAt.unique {ε : Type} {onEmpty : ε} {onRepeat : String → ε} {names : List String}
    {place : List Nat} {e x : ε} (h : NameFaultAt onEmpty onRepeat names place e)
    (h' : NameFaultAt onEmpty onRepeat names place x) : e = x := by
  cases h with
  | empty hn => cases h'; rfl
  | repeated _ _ hn =>
    cases h' with
    | repeated _ _ hn' => rw [hn] at hn'; cases hn'; rfl

theorem InterfaceFaultAt.unique {known : List String} {f : FunctionBlock} {i : Interface}
    {place : List Nat} {e x : ViewError} (h : InterfaceFaultAt known f i place e)
    (h' : InterfaceFaultAt known f i place x) : e = x := by
  cases h with
  | thread ht _ => cases h' with | thread ht' _ => rw [ht] at ht'; cases ht'; rfl
  | calling hc _ => cases h' with | calling hc' _ => rw [hc] at hc'; cases hc'; rfl
  | remote => cases h'; rfl

theorem FunctionFaultAt.unique {known : List String} {f : FunctionBlock} {place : List Nat}
    {e x : ViewError} (h : FunctionFaultAt known f place e) (h' : FunctionFaultAt known f place x) :
    e = x := by
  cases h with
  | thread ht _ => cases h' with | thread ht' _ => rw [ht] at ht'; cases ht'; rfl
  | name hname => cases h' with | name hname' => exact hname.unique hname'
  | interface hi hfault =>
    cases h' with
    | interface hi' hfault' => rw [hi] at hi'; cases hi'; exact hfault.unique hfault'

theorem FaultAt.unique {functions : List FunctionBlock} {place : List Nat} {e x : ViewError}
    (h : FaultAt functions place e) (h' : FaultAt functions place x) : e = x := by
  cases h with
  | name hname => cases h' with | name hname' => exact hname.unique hname'
  | inside hf hfault =>
    cases h' with
    | inside hf' hfault' => rw [hf] at hf'; cases hf'; exact hfault.unique hfault'

theorem firstFault_eq_some_iff (functions : List FunctionBlock) (e : ViewError) :
    firstFault functions = some e ↔ IsFirst (FaultAt functions) e :=
  (findsFirst_firstFault functions).eq_some_iff (fun _ _ _ h h' => h.unique h') e

/-! ## Views and refusals -/

/-- A list of functions is a view exactly if its names are there, are distinct and fit together. If
it is none, it is refused with its first fault. If it is one, the view has just these functions,
and the functions of a name are the one that is found for it, or none. -/
theorem View.ofFunctions_reports_first_fault (functions : List FunctionBlock) :
    ((∃ v, View.ofFunctions functions = .ok v) ↔
      (∀ f ∈ functions, f.name ≠ "") ∧ (functions.map (·.name)).Nodup ∧
        ∀ f ∈ functions, f.Consistent (functions.map (·.name))) ∧
    (∀ e, View.ofFunctions functions = .error e ↔ IsFirst (FaultAt functions) e) ∧
    ∀ v, View.ofFunctions functions = .ok v → v.functions = functions ∧
      ∀ n, functions.filter (·.name = n) = (v.function? n).toList := by
  refine ⟨?_, fun e => ?_, fun v hv => ?_⟩
  · rw [← firstFault_eq_none_iff]
    constructor
    · rintro ⟨v, hv⟩
      rw [View.ofFunctions_eq_ok_iff.1 hv]
      exact v.sound
    · intro hsound
      exact ⟨⟨functions, hsound⟩, View.ofFunctions_eq_ok_iff.2 rfl⟩
  · rw [View.ofFunctions_eq_error_iff, firstFault_eq_some_iff]
  · obtain rfl := View.ofFunctions_eq_ok_iff.1 hv
    exact ⟨rfl, fun n => filter_name_eq_toList v.names_nodup n⟩

/-- The names of functions come before what the functions say, and the names of interfaces before
what these say. -/
example :
    firstFault
        [{ name := "A", runtime := .passive, callingThreads := ["X"] },
         { name := "A", runtime := .thread }] = some (.duplicateFunction "A") ∧
      firstFault
        [{ name := "A", runtime := .passive
           interfaces :=
             [{ name := "P", direction := .required, callingThreads := ["X"] },
              { name := "Q", direction := .provided }, { name := "P", direction := .provided }] }] =
        some (.duplicateInterface "A" "P") := by
  decide

end AdaGlue
