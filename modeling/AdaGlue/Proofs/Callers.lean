/-
The threads that may run a call, as they are resolved: the names are those that the function or the
provided interfaces offer, each where it first occurs, and the functions behind them are found in
the view, one for each name and in the same order. Naming the provided interfaces that a call is
reached from does not narrow its threads by itself: it does exactly if the function lists theirs.
-/
import AdaGlue.Proofs.Generation.DeadCalls
import AdaGlue.Proofs.Generation.Locality
import AdaGlue.Proofs.OrderedSet

namespace AdaGlue

/-- The threads that `f` offers to run its calls through `i`, in order and with repetitions: its
own, unless `i` names the provided interfaces that it is reached from; then theirs, one after the
other. -/
def FunctionBlock.threadsFor (f : FunctionBlock) (i : Interface) : List String :=
  if i.callingInterfaces = [] then f.callingThreads
  else i.callingInterfaces.flatMap fun c =>
    (f.provided.filter (·.name = c)).flatMap (·.callingThreads)

theorem offeredCallers_eq_threadsFor {known : List String} {f : FunctionBlock}
    (hf : f.Consistent known) {i : Interface} (hi : i ∈ f.interfaces) :
    offeredCallers f i = f.threadsFor i := by
  unfold offeredCallers FunctionBlock.threadsFor
  simp only [List.isEmpty_iff]
  split
  · rfl
  refine List.flatMap_congr fun c hc => ?_
  obtain ⟨p, hp, rfl⟩ := hf.calling i hi c hc
  have hdistinct : (f.provided.map (·.name)).Nodup :=
    hf.distinct.sublist (List.filter_sublist.map _)
  rw [hf.interface?_eq_some_iff.2 ⟨List.mem_of_mem_filter hp, rfl⟩,
    filter_name_eq_toList hdistinct, (find?_name_eq_some_iff hdistinct).2 ⟨hp, rfl⟩]
  simp

/-- The names of the callers are the threads on offer, each once. -/
theorem toList_callerNames {known : List String} {f : FunctionBlock} (hf : f.Consistent known)
    {i : Interface} (hi : i ∈ f.interfaces) :
    (callerNames f i).toList = (f.threadsFor i).eraseDups := by
  rw [callerNames, OrderedSet.toList_ofList, offeredCallers_eq_threadsFor hf hi]

/-- Looking up names of the view loses none of them. -/
theorem View.map_name_filterMap_function? (v : View) {names : List String}
    (hknown : ∀ n ∈ names, n ∈ v.functions.map (·.name)) :
    (names.filterMap v.function?).map (·.name) = names := by
  induction names with
  | nil => rfl
  | cons n names ih =>
    obtain ⟨g, -, hname, hlook⟩ := v.exists_function? (hknown n List.mem_cons_self)
    rw [List.filterMap_cons_some hlook, List.map_cons, hname,
      ih fun m hm => hknown m (List.mem_cons_of_mem _ hm)]

/-- Functions of a view are found again by their names. -/
theorem View.filterMap_function?_map_name (v : View) {l : List FunctionBlock}
    (h : ∀ f ∈ l, f ∈ v.functions) : (l.map (·.name)).filterMap v.function? = l := by
  induction l with
  | nil => rfl
  | cons f l ih =>
    have hfound : v.function? f.name = some f :=
      v.function?_eq_some_iff.2 ⟨h f List.mem_cons_self, rfl⟩
    rw [List.map_cons, List.filterMap_cons_some hfound,
      ih fun g hg => h g (List.mem_cons_of_mem _ hg)]

/-- The callers are the functions behind the names, in their order. -/
theorem View.map_name_callers (v : View) {f : FunctionBlock} (hf : f ∈ v.functions)
    (i : Interface) : (v.callers f i).map (·.name) = (callerNames f i).toList :=
  v.map_name_filterMap_function? fun _ ht =>
    known_of_namesThread hf (namesThread_of_mem_callerNames ht)

theorem View.nodup_callers (v : View) {f : FunctionBlock} (hf : f ∈ v.functions) (i : Interface) :
    (v.callers f i).Nodup := by
  have hnames := OrderedSet.nodup_ofList (offeredCallers f i)
  rw [← callerNames, ← v.map_name_callers hf i] at hnames
  exact hnames.of_map

theorem View.mem_of_mem_callers (v : View) {f g : FunctionBlock} {i : Interface}
    (hg : g ∈ v.callers f i) : g ∈ v.functions := by
  obtain ⟨n, -, hlook⟩ := List.mem_filterMap.1 hg
  exact (v.function?_eq_some_iff.1 hlook).1

/-! ## Naming provided interfaces -/

/-- The interface as if it could be reached from any provided one. -/
def Interface.unrestricted (i : Interface) : Interface :=
  { i with callingInterfaces := [] }

theorem mem_callerNames_unrestricted {f : FunctionBlock} {i : Interface} {t : String} :
    t ∈ (callerNames f i.unrestricted).toList ↔ t ∈ f.callingThreads := by
  rw [callerNames, OrderedSet.mem_ofList]
  rfl

theorem MayRun.of_named {f : FunctionBlock} {i p : Interface} {t : String} (hp : p ∈ f.provided)
    (hnamed : p.name ∈ i.callingInterfaces) (ht : t ∈ p.callingThreads) : MayRun f i t := by
  rw [MayRun, if_neg (List.ne_nil_of_mem hnamed)]
  exact ⟨p, hp, hnamed, ht⟩

/-- The threads that may run a call are functions of the view. They are among those that could run
it if it named no provided interfaces, which are the function's own, exactly if the function lists
the threads of each provided interface that the call names. -/
theorem restriction_narrows_iff {v : View} {f : FunctionBlock} (hf : f ∈ v.functions)
    {i : Interface} (hi : i ∈ f.interfaces) :
    (∀ t ∈ (callerNames f i).toList, t ∈ v.functions.map (·.name)) ∧
    (∀ t, t ∈ (callerNames f i.unrestricted).toList ↔ t ∈ f.callingThreads) ∧
    ((∀ t ∈ (callerNames f i).toList, t ∈ f.callingThreads) ↔
      ∀ p ∈ f.provided, p.name ∈ i.callingInterfaces →
        ∀ t ∈ p.callingThreads, t ∈ f.callingThreads) := by
  have hmem := mem_callerNames_iff (v.consistent hf) hi
  refine ⟨fun t ht => known_of_namesThread hf (namesThread_of_mem_callerNames ht),
    fun t => mem_callerNames_unrestricted, ?_⟩
  constructor
  · intro hwithin p hp hnamed t ht
    exact hwithin t ((hmem t).2 (.of_named hp hnamed ht))
  · intro hlisted t ht
    have hrun : MayRun f i t := (hmem t).1 ht
    unfold MayRun at hrun
    split at hrun
    · exact hrun
    · obtain ⟨p, hp, hnamed, ht⟩ := hrun
      exact hlisted p hp hnamed t ht

/-- A call that is reached from one provided interface. -/
def filing (via : String) : Interface :=
  { name := "File_" ++ via, direction := .required, remoteFunction := some "Nav"
    callingInterfaces := [via] }

/-- A passive function that lists one of the two threads of its interfaces. -/
def ledger : FunctionBlock :=
  { name := "Ledger", runtime := .passive, callingThreads := ["Nav"]
    interfaces :=
      [{ name := "Put", direction := .provided, callingThreads := ["Nav"] },
       { name := "Get", direction := .provided, callingThreads := ["Nav", "Guest"] },
       filing "Put", filing "Get"] }

/-- The function and the threads. -/
def ledgerAndThreads : View where
  functions :=
    [ledger, { name := "Nav", runtime := .thread }, { name := "Guest", runtime := .thread }]
  sound := by decide

theorem restriction_narrows_iff_of_ledger :
    (∀ t ∈ (callerNames ledger (filing "Put")).toList, t ∈ ledger.callingThreads) ∧
      ¬ ∀ t ∈ (callerNames ledger (filing "Get")).toList, t ∈ ledger.callingThreads := by
  have hf : ledger ∈ ledgerAndThreads.functions := by simp [ledgerAndThreads]
  obtain ⟨-, -, hput⟩ := restriction_narrows_iff hf (i := filing "Put") (by decide)
  obtain ⟨-, -, hget⟩ := restriction_narrows_iff hf (i := filing "Get") (by decide)
  rw [hput, hget]
  decide

/-- A call that names a provided interface may be run by a thread that else could not run it. -/
theorem restriction_widens :
    ledger ∈ ledgerAndThreads.functions ∧ filing "Get" ∈ ledger.required ∧
      "Guest" ∈ (callerNames ledger (filing "Get")).toList ∧
      "Guest" ∉ (callerNames ledger (filing "Get").unrestricted).toList ∧
      "Guest" ∉ ledger.callingThreads := by
  refine ⟨by simp [ledgerAndThreads], ?_⟩
  decide

end AdaGlue
