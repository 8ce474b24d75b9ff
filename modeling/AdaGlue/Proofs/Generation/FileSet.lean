/-
Which files a run writes. A function gets a pair of wrapper packages, or two where a thread calls
others without waiting, and a skeleton whose body is left out where the user has one; each only if
it is asked for and the function's language takes it. The files of a run are these, function after
function, none of them twice, in whatever order and however often the backends are asked for. Each
stands at a path of its own, whatever separators the names of the functions have.
-/
import AdaGlue.Proofs.Destination
import AdaGlue.Proofs.Generation.DeadCalls
import Mathlib.Data.List.Nodup

namespace AdaGlue

/-! ## What a function gets -/

instance (o : Options) : Decidable o.WantsWrappers :=
  decidable_of_iff
    (.wrappers ∈ o.backends ∧ o.concurrencyViewOnly = false ∧ o.middlewareInC = false)
    ⟨fun h => ⟨h.1, h.2.1, h.2.2⟩, fun h => ⟨h.enabled, h.text, h.middleware⟩⟩

/-- A thread that calls others without waiting for them. -/
def FunctionBlock.SendsAhead (f : FunctionBlock) : Prop :=
  f.runtime = .thread ∧
    ∃ i ∈ f.interfaces, i.direction = .required ∧ i.synchronism = .asynchronous

instance (f : FunctionBlock) : Decidable f.SendsAhead :=
  inferInstanceAs (Decidable (_ ∧ _))

namespace Setting

variable (s : Setting)

/-- Wrappers are made, and the function is not code in C of another generator that others call. -/
def GetsWrappers (f : FunctionBlock) : Prop :=
  s.options.WantsWrappers ∧
    ¬ (f.language = .qgenC ∧ ∃ i ∈ f.interfaces, i.direction = .provided)

instance (f : FunctionBlock) : Decidable (s.GetsWrappers f) :=
  inferInstanceAs (Decidable (_ ∧ _))

/-- Skeletons are made, and the function's user code is in Ada. -/
def GetsSkeleton (f : FunctionBlock) : Prop :=
  .skeletons ∈ s.options.backends ∧ s.options.concurrencyViewOnly = false ∧
    (f.language = .ada ∨ f.language = .qgenAda)

instance (f : FunctionBlock) : Decidable (s.GetsSkeleton f) :=
  inferInstanceAs (Decidable (_ ∧ _))

/-- The kinds of files that are written for a function, in their order. -/
def kindsFor (f : FunctionBlock) : List Destination :=
  (if s.GetsWrappers f then
    [.wrappersDecl, .wrappersBody] ++ if f.SendsAhead then [.asyncDecl, .asyncBody] else []
   else []) ++
  if s.GetsSkeleton f then
    [.skeletonDecl] ++
      if s.occupied (Destination.skeletonBody.path f.name) then [] else [.skeletonBody]
  else []

theorem kindsFor_nodup (f : FunctionBlock) : (s.kindsFor f).Nodup := by
  unfold kindsFor
  repeat' split
  all_goals decide

theorem wrappers_mem_backendsFor_iff (f : FunctionBlock) :
    .wrappers ∈ s.backendsFor f ↔ s.GetsWrappers f := by
  have hprovided : f.provided.isEmpty = false ↔ ∃ i ∈ f.interfaces, i.direction = .provided := by
    simp [FunctionBlock.provided, Interface.isProvided]
  rw [mem_backendsFor, GetsWrappers, ← hprovided]
  simp only [Backend.applies, Wrappers.applies, Bool.and_eq_true, Bool.not_eq_true',
    Bool.and_eq_false_iff, decide_eq_false_iff_not]
  constructor
  · rintro ⟨hb, ⟨htext, hmid⟩, hlang⟩
    refine ⟨⟨hb, htext, hmid⟩, fun hc => ?_⟩
    rcases hlang with hlang | hlang
    · exact hlang hc.1
    · rw [hc.2] at hlang; cases hlang
  · rintro ⟨⟨hb, htext, hmid⟩, hlang⟩
    refine ⟨hb, ⟨htext, hmid⟩, ?_⟩
    by_cases hc : f.language = .qgenC
    · right
      cases hempty : f.provided.isEmpty with
      | false => exact absurd ⟨hc, hempty⟩ hlang
      | true => rfl
    · exact .inl hc

theorem skeletons_mem_backendsFor_iff (f : FunctionBlock) :
    .skeletons ∈ s.backendsFor f ↔ s.GetsSkeleton f := by
  rw [mem_backendsFor, GetsSkeleton]
  cases hl : f.language <;> simp [hl, Backend.applies, Skeletons.applies, Language.isAdaFamily]

/-- What the backends of a function give, wrappers first. -/
theorem flatMap_backendsFor {β : Type} (f : FunctionBlock) (given : Backend → List β) :
    (s.backendsFor f).flatMap given =
      (if s.GetsWrappers f then given .wrappers else []) ++
        if s.GetsSkeleton f then given .skeletons else [] := by
  simp only [← wrappers_mem_backendsFor_iff, ← skeletons_mem_backendsFor_iff]
  rcases s.backendsFor_cases f with h | h | h | h <;> simp [h]

end Setting

/-! ## What is opened -/

/-- Whose file it is, its kind and where it stands. -/
def GeneratedFile.entry (g : GeneratedFile) : String × Destination × String :=
  (g.function, g.kind, g.path)

/-- The entry of a function's file of that kind. -/
def Destination.entryOf (f : FunctionBlock) (k : Destination) : String × Destination × String :=
  (f.name, k, k.path f.name)

namespace Emission

theorem map_entry_files (e : Emission) :
    e.files.map (·.entry) = e.opened.map (Destination.entryOf e.function) := by
  rw [files_eq, List.map_map]
  rfl

theorem Grows.opened_eq {e e' : Emission} (h : Grows e e') : e'.opened = e.opened := by
  unfold Emission.opened
  exact List.filter_congr fun k _ => h.opened k

end Emission

theorem hasAsyncPackage_iff (f : FunctionBlock) :
    Wrappers.hasAsyncPackage f = true ↔ f.SendsAhead := by
  simp [Wrappers.hasAsyncPackage, FunctionBlock.isThread, FunctionBlock.hasAsyncRequired,
    FunctionBlock.required, Interface.isRequired, Interface.isAsynchronous,
    FunctionBlock.SendsAhead]

theorem Wrappers.opened_begin (v : View) (f : FunctionBlock) :
    (begin v f).opened =
      [.wrappersDecl, .wrappersBody] ++ if f.SendsAhead then [.asyncDecl, .asyncBody] else [] := by
  rw [(begin_grows v f).opened_eq]
  unfold openFiles Emission.opened
  simp only [hasAsyncPackage_iff]
  by_cases h : f.SendsAhead
  · simp [h, Destination.all]
  · simp [h, Destination.all]

theorem Skeletons.opened_begin (o : Options) (found : Bool) (f : FunctionBlock) :
    (begin o found f).opened = [.skeletonDecl] ++ if found then [] else [.skeletonBody] := by
  unfold begin Emission.opened
  cases found <;> simp [Destination.all]

/-! ## What a run writes -/

/-- What several sources give, each under a name of its own and nothing twice, has nothing twice. -/
theorem nodup_flatMap_of_name {α β κ : Type} {name : α → κ} (of : β → κ) {given : α → List β}
    {l : List α} (hd : (l.map name).Nodup) (hat : ∀ a ∈ l, ∀ b ∈ given a, of b = name a)
    (heach : ∀ a ∈ l, (given a).Nodup) : (l.flatMap given).Nodup := by
  rw [List.nodup_flatMap]
  refine ⟨heach, ?_⟩
  rw [List.Nodup, List.pairwise_map] at hd
  refine hd.imp_of_mem fun {a c} ha hc hne b hb hb' => hne ?_
  rw [← hat a ha b hb, hat c hc b hb']

namespace Setting

variable (s : Setting)

/-- The files of a function by one backend are those opened for it, as no later step opens one. -/
theorem map_entry_textOf {b : Backend} {f : FunctionBlock} (h : b.fault? f = none) :
    (s.textOf b f).files.map (·.entry) = (b.begin s f).opened.map (Destination.entryOf f) := by
  obtain ⟨e, he, hgrows⟩ := s.textOf_eq_close h
  have hf : e.function = f := by simpa using hgrows.function
  rw [he, ← hgrows.opened_eq, ← hf]
  exact e.map_entry_files

theorem map_entry_outputFor (hlive : s.fault? = none) {f : FunctionBlock}
    (hf : f ∈ s.view.functions) :
    (s.outputFor f).files.map (·.entry) = (s.kindsFor f).map (Destination.entryOf f) := by
  have htext : ∀ b ∈ s.backendsFor f, (s.textOf b f).files.map (·.entry) =
      (b.begin s f).opened.map (Destination.entryOf f) :=
    fun b hb => s.map_entry_textOf (s.job_live hlive hf hb)
  have hwrap : (Backend.begin .wrappers s f).opened = [.wrappersDecl, .wrappersBody] ++
      if f.SendsAhead then [.asyncDecl, .asyncBody] else [] := Wrappers.opened_begin s.view f
  have hskel : (Backend.begin .skeletons s f).opened = [.skeletonDecl] ++
      if s.occupied (Destination.skeletonBody.path f.name) then [] else [.skeletonBody] :=
    Skeletons.opened_begin s.options _ f
  have hfiles : (s.outputFor f).files.map (·.entry) =
      ((s.backendsFor f).flatMap fun b => (b.begin s f).opened).map (Destination.entryOf f) := by
    simp only [outputFor, Output.concat, List.flatMap_map, List.map_flatMap]
    exact List.flatMap_congr htext
  rw [hfiles, s.flatMap_backendsFor, hwrap, hskel]
  rfl

/-- Functions have names of their own, so no two entries of a run are alike. -/
theorem nodup_flatMap_kindsFor :
    (s.view.functions.flatMap fun f => (s.kindsFor f).map (f.name, ·)).Nodup := by
  refine nodup_flatMap_of_name Prod.fst s.view.names_nodup ?_ fun f _ =>
    (s.kindsFor_nodup f).map fun k l h => (Prod.mk.inj h).2
  intro f _ x hx
  obtain ⟨k, -, rfl⟩ := List.mem_map.1 hx
  rfl

theorem map_entry_files_of_generate {out : Output} (h : s.generate = .ok out) :
    out.files.map (·.entry) =
      s.view.functions.flatMap fun f => (s.kindsFor f).map (Destination.entryOf f) := by
  obtain ⟨hlive, rfl⟩ := s.generate_eq_ok_iff.1 h
  simp only [Output.concat, List.flatMap_map, List.map_flatMap]
  exact List.flatMap_congr fun f hf => s.map_entry_outputFor hlive hf

theorem files_kind_nodup {out : Output} (h : s.generate = .ok out) :
    (out.files.map fun g => (g.function, g.kind)).Nodup := by
  have hpairs : out.files.map (fun g => (g.function, g.kind)) =
      s.view.functions.flatMap fun f => (s.kindsFor f).map (f.name, ·) := by
    have hboth := congrArg (List.map fun x : String × Destination × String => (x.1, x.2.1))
      (s.map_entry_files_of_generate h)
    simp only [List.map_flatMap, List.map_map] at hboth
    exact hboth
  rw [hpairs]
  exact s.nodup_flatMap_kindsFor

/-- The same run with the backends asked for in another way. -/
def askingFor (backends : List Backend) : Setting :=
  { s with options := { s.options with backends := backends } }

section

variable {backends : List Backend} (hsame : ∀ b, b ∈ backends ↔ b ∈ s.options.backends)

include hsame

theorem wantsWrappers_askingFor :
    (s.askingFor backends).options.WantsWrappers ↔ s.options.WantsWrappers :=
  ⟨fun h => ⟨(hsame _).1 h.enabled, h.text, h.middleware⟩,
    fun h => ⟨(hsame _).2 h.enabled, h.text, h.middleware⟩⟩

theorem kindsFor_askingFor (f : FunctionBlock) :
    (s.askingFor backends).kindsFor f = s.kindsFor f := by
  have hw : (s.askingFor backends).GetsWrappers f ↔ s.GetsWrappers f :=
    and_congr_left fun _ => s.wantsWrappers_askingFor hsame
  have hk : (s.askingFor backends).GetsSkeleton f ↔ s.GetsSkeleton f :=
    and_congr_left fun _ => hsame _
  unfold kindsFor
  simp only [hw, hk]
  rfl

theorem fault?_askingFor_eq_none_iff : (s.askingFor backends).fault? = none ↔ s.fault? = none := by
  rw [fault?_eq_none_iff, fault?_eq_none_iff]
  exact not_congr (and_congr_left fun _ => s.wantsWrappers_askingFor hsame)

end

/-- The files of a run that succeeds are exactly those that its functions get, in the order of the
functions, and none is there twice. Asking for the same backends in another order, or for some of
them more than once, succeeds too and gives the same files. -/
theorem generated_files_exact {out : Output} (h : s.generate = .ok out) :
    out.files.map (fun g => (g.function, g.kind, g.path)) =
      (s.view.functions.flatMap fun f =>
        (s.kindsFor f).map fun k => (f.name, k, k.path f.name)) ∧
    (out.files.map fun g => (g.function, g.kind)).Nodup ∧
    ∀ backends, (∀ b, b ∈ backends ↔ b ∈ s.options.backends) →
      ∃ out', (s.askingFor backends).generate = .ok out' ∧
        out'.files.map (fun g => (g.function, g.kind, g.path)) =
          out.files.map fun g => (g.function, g.kind, g.path) := by
  have hlist := s.map_entry_files_of_generate h
  refine ⟨hlist, s.files_kind_nodup h, fun backends hsame => ?_⟩
  have hlive := (s.fault?_askingFor_eq_none_iff hsame).2 (s.generate_eq_ok_iff.1 h).1
  have h' := (s.askingFor backends).generate_of_live hlive
  refine ⟨_, h', ?_⟩
  have hlist' := (s.askingFor backends).map_entry_files_of_generate h'
  simp only [s.kindsFor_askingFor hsame] at hlist'
  exact hlist'.trans hlist.symm

/-- A thread that calls ahead, a passive function whose body the user has written, and a function
that another generator wraps. -/
def threadFilterAndPlant : Setting where
  view :=
    { functions :=
        [{ name := "Ctrl", runtime := .thread, process := some "p1"
           interfaces :=
             [{ name := "Out", direction := .required, remoteFunction := some "Filter" }] },
         { name := "Filter", language := .ada, runtime := .passive },
         { name := "Plant", language := .qgenC, runtime := .passive
           interfaces := [{ name := "Step", direction := .provided }] }]
      sound := by decide }
  options := { backends := [.skeletons, .wrappers, .skeletons] }
  occupied path := path = "Filter/Filter.adb"

theorem generated_files_exact_of_plant :
    ∃ out, threadFilterAndPlant.generate = .ok out ∧
      out.files.map (fun g => (g.function, g.kind, g.path)) =
        [("Ctrl", .wrappersDecl, "Ctrl/Ctrl_wrappers.ads"),
         ("Ctrl", .wrappersBody, "Ctrl/Ctrl_wrappers.adb"),
         ("Ctrl", .asyncDecl, "Ctrl/Ctrl_async_ri_wrappers.ads"),
         ("Ctrl", .asyncBody, "Ctrl/Ctrl_async_ri_wrappers.adb"),
         ("Filter", .wrappersDecl, "Filter/Filter_wrappers.ads"),
         ("Filter", .wrappersBody, "Filter/Filter_wrappers.adb"),
         ("Filter", .skeletonDecl, "Filter/Filter.ads")] ∧
      ∃ out', (threadFilterAndPlant.askingFor Backend.all).generate = .ok out' ∧
        out'.files.map (fun g => (g.function, g.kind, g.path)) =
          out.files.map fun g => (g.function, g.kind, g.path) := by
  have hgen := threadFilterAndPlant.generate_of_live (by decide)
  obtain ⟨hlist, -, hsame⟩ := threadFilterAndPlant.generated_files_exact hgen
  refine ⟨_, hgen, hlist.trans (by decide), hsame Backend.all ?_⟩
  intro b
  cases b <;> decide

/-! ## Where the files stand -/

/-- Kinds and names make different paths, so the entries of a run do. -/
theorem nodup_map_path_files {out : Output} (h : s.generate = .ok out)
    (hrel : ∀ f ∈ s.view.functions, Path.isAbsolute f.name = false) :
    (out.files.map (·.path)).Nodup := by
  have hpaths : out.files.map (·.path) =
      (s.view.functions.flatMap fun f => (s.kindsFor f).map (f.name, ·)).map
        fun x => x.2.path x.1 := by
    have hentries := congrArg (List.map fun x : String × Destination × String => x.2.2)
      (s.map_entry_files_of_generate h)
    simp only [List.map_flatMap, List.map_map] at hentries ⊢
    exact hentries
  have hname : ∀ x ∈ s.view.functions.flatMap fun f => (s.kindsFor f).map (f.name, ·),
      x.1 ≠ "" ∧ Path.isAbsolute x.1 = false := by
    intro x hx
    obtain ⟨f, hf, hx⟩ := List.mem_flatMap.1 hx
    obtain ⟨k, -, rfl⟩ := List.mem_map.1 hx
    exact ⟨s.view.name_ne_empty hf, hrel f hf⟩
  rw [hpaths]
  refine s.nodup_flatMap_kindsFor.map_on fun x hx y hy heq => ?_
  obtain ⟨hne, habs⟩ := hname x hx
  obtain ⟨hne', habs'⟩ := hname y hy
  obtain ⟨hnames, hkinds⟩ := Destination.path_inj hne habs hne' habs' heq
  exact Prod.ext hnames hkinds

end Setting

/-- The path of a file is the name of its function, a separator unless the name ends in one, the
name again and the ending of its kind. It belongs to one kind of file of one function, so the files
of a run stand at different paths. -/
theorem file_paths_distinct :
    (∀ m n : String, m ≠ "" → n ≠ "" → Path.isAbsolute m = false → Path.isAbsolute n = false →
      ∀ k l : Destination,
        k.path m = (if m.toList.getLast? = some '/' then m else m ++ "/") ++ (m ++ k.ending) ∧
        (k.path m = l.path n ↔ m = n ∧ k = l)) ∧
    ∀ (s : Setting) (out : Output),
      (∀ f ∈ s.view.functions, Path.isAbsolute f.name = false) → s.generate = .ok out →
        (out.files.map (·.path)).Nodup := by
  refine ⟨fun m n hm hn hrel hrel' k l => ⟨?_, ?_⟩,
    fun s out hrel h => s.nodup_map_path_files h hrel⟩
  · apply String.toList_inj.1
    rw [Destination.toList_path hm hrel, Path.gap]
    split <;> simp
  · constructor
    · exact Destination.path_inj hm hrel hn hrel'
    · rintro ⟨rfl, rfl⟩
      rfl

/-- Functions whose names begin alike, go on like an ending or have separators. -/
def lookalikes : View where
  functions :=
    [{ name := "a", language := .ada, runtime := .passive },
     { name := "a/", language := .ada, runtime := .passive },
     { name := "a/a", language := .ada, runtime := .passive },
     { name := "a_wrappers", language := .ada, runtime := .passive }]
  sound := by decide

theorem file_paths_distinct_of_lookalikes :
    (Destination.skeletonDecl.path "a/" = "a/a/.ads" ∧
      Destination.skeletonDecl.path "a/a" = "a/a/a/a.ads" ∧
      (Destination.skeletonDecl.path "a_wrappers" = Destination.wrappersDecl.path "a" ↔
        "a_wrappers" = "a" ∧ Destination.skeletonDecl = .wrappersDecl)) ∧
    ∃ out, Setting.generate { view := lookalikes } = .ok out ∧ out.files.length = 16 ∧
      (out.files.map (·.path)).Nodup := by
  have hgen := Setting.generate_of_live { view := lookalikes } (by decide)
  obtain ⟨hpath, hrun⟩ := file_paths_distinct
  have hlength := congrArg List.length (Setting.map_entry_files_of_generate _ hgen)
  rw [List.length_map] at hlength
  refine ⟨⟨?_, ?_, ?_⟩, _, hgen, hlength.trans (by decide), hrun _ _ ?_ hgen⟩
  · rw [(hpath "a/" "a" (by decide) (by decide) rfl rfl _ .skeletonDecl).1]
    decide
  · rw [(hpath "a/a" "a" (by decide) (by decide) rfl rfl _ .skeletonDecl).1]
    decide
  · exact (hpath "a_wrappers" "a" (by decide) (by decide) rfl rfl _ _).2
  · decide

end AdaGlue
