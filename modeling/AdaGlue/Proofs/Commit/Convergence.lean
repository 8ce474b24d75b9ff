/-
Runs converge. A run against the files below a root, followed by a commit that writes, leaves every
body of the user as it was, and a second run finds nothing to do: its files are among those of the
first run, less the bodies that are the user's by now, and all of them stand there already.
-/
import AdaGlue.Proofs.Commit.Files
import AdaGlue.Proofs.Generation.FileSet
import AdaGlue.Proofs.Generation.UserBodies
import AdaGlue.Run

namespace AdaGlue

/-! ## The setting of a run against files -/

theorem mapM_isFile_run (root : String) (paths : List String) (fs : Files) :
    (paths.mapM (fun path => return (path, ← Disk.isFile (Path.join root path))) :
      StateM Files (List (String × Bool))) fs =
      (paths.map fun path => (path, (fs.contents? (Path.join root path)).isSome), fs) := by
  induction paths with
  | nil => rfl
  | cons p paths ih =>
    rw [List.mapM_cons]
    show (match (paths.mapM (fun path => return (path, ← Disk.isFile (Path.join root path))) :
      StateM Files (List (String × Bool))) fs with
      | (r, t) => (((p, (fs.contents? (Path.join root p)).isSome) :: r, t) : List _ × Files)) = _
    rw [ih]
    rfl

/-- Asking for the bodies of the user changes no file, and finds each that is there. -/
theorem below_run (root : String) (v : View) (o : Options) (fs : Files) :
    ∃ occupied, (Setting.below root v o : StateM Files Setting).run fs = (⟨v, o, occupied⟩, fs) ∧
      ∀ f ∈ v.functions, occupied (Skeletons.bodyPath f) =
        (fs.contents? (Path.join root (Skeletons.bodyPath f))).isSome := by
  have hrun : (Setting.below root v o : StateM Files Setting).run fs =
      (match ((v.functions.map Skeletons.bodyPath).mapM
        (fun path => return (path, ← Disk.isFile (Path.join root path))) :
        StateM Files (List (String × Bool))) fs with
      | (asked, t) =>
        ((⟨v, o, fun path => path ∈ (asked.filter (·.2)).map (·.1)⟩, t) : Setting × Files)) := rfl
  rw [mapM_isFile_run] at hrun
  refine ⟨_, hrun, fun f hf => ?_⟩
  rw [Bool.eq_iff_iff]
  simp only [List.map_map, decide_eq_true_eq, List.mem_map, List.mem_filter, Function.comp_apply]
  constructor
  · rintro ⟨_, ⟨⟨g, -, rfl⟩, hsome⟩, hpath⟩
    rw [← hpath]; exact hsome
  · intro hsome
    exact ⟨_, ⟨⟨f, hf, rfl⟩, hsome⟩, rfl⟩

namespace Files

/-- The setting of a run against these files below the root. -/
def setting (fs : Files) (root : String) (v : View) (o : Options) : Setting :=
  ((Setting.below root v o : StateM Files Setting).run fs).1

variable (fs : Files) (root : String) (v : View) (o : Options)

theorem inMemory_setting :
    (fs.setting root v o).inMemory = { view := v, options := o, occupied := fun _ => false } := by
  obtain ⟨occupied, hrun, -⟩ := below_run root v o fs
  unfold setting
  rw [hrun]
  rfl

theorem view_setting : (fs.setting root v o).view = v :=
  congrArg Setting.view (fs.inMemory_setting root v o)

theorem occupied_setting {f : FunctionBlock} (hf : f ∈ v.functions) :
    (fs.setting root v o).occupied (Skeletons.bodyPath f) =
      (fs.contents? (Path.join root (Skeletons.bodyPath f))).isSome := by
  obtain ⟨occupied, hrun, hocc⟩ := below_run root v o fs
  unfold setting
  rw [hrun]
  exact hocc f hf

end Files

/-! ## The files of a run -/

namespace Setting

variable {s : Setting} {out : Output}

/-- Every file of a run belongs to a function and a backend that runs on it. -/
theorem owner_of_mem_files (h : s.generate = .ok out) {g : GeneratedFile} (hg : g ∈ out.files) :
    ∃ f ∈ s.view.functions, ∃ b ∈ s.backendsFor f, b.fault? f = none ∧ g ∈ (s.textOf b f).files := by
  obtain ⟨hlive, rfl⟩ := s.generate_eq_ok_iff.1 h
  simp only [Output.concat, outputFor, List.flatMap_map, List.mem_flatMap] at hg
  obtain ⟨f, hf, b, hb, hg⟩ := hg
  exact ⟨f, hf, b, hb, s.job_live hlive hf hb, hg⟩

theorem exists_inMemory_generate (h : s.generate = .ok out) :
    ∃ mem, s.inMemory.generate = .ok mem :=
  ⟨_, s.inMemory.generate_of_live (s.fault?_inMemory.trans (s.generate_eq_ok_iff.1 h).1)⟩

/-- The files of a run are those in memory, less the bodies that are taken. -/
theorem mem_files_iff_in_memory {mem : Output} (h : s.generate = .ok out)
    (hm : s.inMemory.generate = .ok mem) (g : GeneratedFile) :
    g ∈ out.files ↔ g ∈ mem.files ∧ s.isTaken g = false := by
  obtain ⟨hlive, rfl⟩ := s.generate_eq_ok_iff.1 h
  obtain ⟨-, rfl⟩ := s.inMemory.generate_eq_ok_iff.1 hm
  simp only [Output.concat, List.flatMap_map, List.mem_flatMap]
  constructor
  · rintro ⟨f, hf, hg⟩
    rw [s.files_outputFor hlive hf, List.mem_filter] at hg
    exact ⟨⟨f, hf, hg.1⟩, by simpa using hg.2⟩
  · rintro ⟨⟨f, hf, hg⟩, hfree⟩
    refine ⟨f, hf, ?_⟩
    rw [s.files_outputFor hlive hf, List.mem_filter]
    exact ⟨hg, by simpa using hfree⟩

/-- The paths of a run tell its files apart. -/
theorem eq_of_path_eq (hrel : ∀ f ∈ s.view.functions, Path.isAbsolute f.name = false)
    (h : s.generate = .ok out) {g g' : GeneratedFile} (hg : g ∈ out.files) (hg' : g' ∈ out.files)
    (hpath : g.path = g'.path) : g = g' :=
  List.inj_on_of_nodup_map (s.nodup_map_path_files h hrel) hg hg' hpath

/-- Every file of a run stands at a relative path, and no such path ends like a temporary one. -/
theorem path_of_mem_files (hrel : ∀ f ∈ s.view.functions, Path.isAbsolute f.name = false)
    (h : s.generate = .ok out) {g : GeneratedFile} (hg : g ∈ out.files) :
    ∃ f ∈ s.view.functions, g.function = f.name ∧ g.path = g.kind.path f.name ∧
      Path.isAbsolute g.path = false := by
  obtain ⟨f, hf, b, -, hlive, hmem⟩ := owner_of_mem_files h hg
  obtain ⟨hfun, hp, -⟩ := s.textOf_files hlive hmem
  refine ⟨f, hf, hfun, hp, ?_⟩
  rw [hp]
  exact Destination.isAbsolute_path (s.view.name_ne_empty hf) (hrel f hf) g.kind

end Setting

theorem getLast?_temporary (p : String) :
    (Commit.temporary p).toList.getLast? = some 'p' := by
  unfold Commit.temporary
  rw [String.toList_append, List.getLast?_append]
  rfl

/-- A path that a function's text may go to is no temporary one. -/
theorem join_path_ne_temporary {n : String} (hn : n ≠ "") (hrel : Path.isAbsolute n = false)
    (root : String) (k : Destination) (p : String) :
    Path.join root (k.path n) ≠ Commit.temporary p := by
  intro heq
  have hlast := getLast?_temporary p
  rw [← heq] at hlast
  rcases Destination.getLast?_path hn hrel k with hk | hk <;>
    · rw [Path.getLast?_join hk] at hlast
      cases hlast

theorem Setting.apart_files {s : Setting} {out : Output}
    (hrel : ∀ f ∈ s.view.functions, Path.isAbsolute f.name = false) (h : s.generate = .ok out)
    (root : String) : Commit.Apart root out.files := by
  constructor
  · intro g hg g' _
    obtain ⟨f, hf, -, hp, -⟩ := path_of_mem_files hrel h hg
    rw [hp]
    exact join_path_ne_temporary (s.view.name_ne_empty hf) (hrel f hf) root g.kind _
  · intro g hg g' hg' heq
    obtain ⟨-, -, -, -, habs⟩ := path_of_mem_files hrel h hg
    obtain ⟨-, -, -, -, habs'⟩ := path_of_mem_files hrel h hg'
    exact eq_of_path_eq hrel h hg hg' (Path.join_inj habs habs' heq)

/-! ## Convergence -/

/-- A body of the user is no file of the run that found it, nor a temporary one. -/
theorem body_apart {s : Setting} {out : Output}
    (hrel : ∀ f ∈ s.view.functions, Path.isAbsolute f.name = false) (h : s.generate = .ok out)
    (root : String) {f : FunctionBlock} (hf : f ∈ s.view.functions)
    (hocc : s.occupied (Skeletons.bodyPath f) = true) :
    ∀ g ∈ out.files, Path.join root (Skeletons.bodyPath f) ≠ Path.join root g.path ∧
      Path.join root (Skeletons.bodyPath f) ≠ Commit.temporary (Path.join root g.path) := by
  have hne := s.view.name_ne_empty hf
  intro g hg
  refine ⟨fun heq => ?_, join_path_ne_temporary hne (hrel f hf) root .skeletonBody _⟩
  obtain ⟨f', hf', hfun, hp, habs⟩ := Setting.path_of_mem_files hrel h hg
  have hpath := Path.join_inj (Destination.isAbsolute_path hne (hrel f hf) _) habs heq
  rw [hp] at hpath
  obtain ⟨hname, hkind⟩ := Destination.path_inj hne (hrel f hf) (s.view.name_ne_empty hf')
    (hrel f' hf') hpath
  -- a file of that kind is written only where no body was found
  obtain ⟨mem, hm⟩ := Setting.exists_inMemory_generate h
  have hfree := ((Setting.mem_files_iff_in_memory h hm g).1 hg).2
  rw [s.isTaken_of_function (hfun.trans hname.symm), ← hkind, hocc] at hfree
  cases hfree

/-- Two runs that differ only in the bodies they find: where the second finds all those of the
first, it writes no file that the first did not write. -/
theorem files_subset_of_occupied {s s' : Setting} {out : Output} (hsame : s'.inMemory = s.inMemory)
    (h : s.generate = .ok out)
    (hocc : ∀ f ∈ s.view.functions, s.occupied (Skeletons.bodyPath f) = true →
      s'.occupied (Skeletons.bodyPath f) = true) :
    ∃ out', s'.generate = .ok out' ∧ out'.files ⊆ out.files := by
  obtain ⟨mem, hm⟩ := Setting.exists_inMemory_generate h
  have hlive : s'.fault? = none := by
    rw [← s'.fault?_inMemory, hsame, s.fault?_inMemory]
    exact (s.generate_eq_ok_iff.1 h).1
  have h' := s'.generate_of_live hlive
  refine ⟨_, h', fun g hg => ?_⟩
  obtain ⟨hmem, hfree⟩ := (Setting.mem_files_iff_in_memory h' (hsame ▸ hm) g).1 hg
  refine (Setting.mem_files_iff_in_memory h hm g).2 ⟨hmem, ?_⟩
  obtain ⟨f, hf, b, -, hlive, hg⟩ := Setting.owner_of_mem_files hm hmem
  have hfun := (s.inMemory.textOf_files hlive hg).1
  rw [s'.isTaken_of_function hfun] at hfree
  rw [s.isTaken_of_function hfun]
  rcases ho : s.occupied (Skeletons.bodyPath f) with _ | _
  · rw [Bool.and_false]
  · rw [hocc f hf ho] at hfree
    exact hfree

/-- A run against the files below a root, and a commit that writes, leave every body of the user as
it was. The next run against what they leave gives files that all stand there already: a commit that
checks them succeeds, and one that writes them reports each as unchanged and changes nothing. -/
theorem regenerate_after_commit_unchanged (root : String) (v : View) (o : Options) (fs : Files)
    (hrel : ∀ f ∈ v.functions, Path.isAbsolute f.name = false) {out : Output}
    (hgen : (fs.setting root v o).generate = .ok out) :
    ∃ report fs₁, (commit root .write out.files : ExceptT CommitError (StateM Files) _).run fs =
        (.ok report, fs₁) ∧
      (∀ f ∈ v.functions, ∀ body,
        fs.contents? (Path.join root (Skeletons.bodyPath f)) = some body →
        fs₁.contents? (Path.join root (Skeletons.bodyPath f)) = some body) ∧
      ∃ out₁, (fs₁.setting root v o).generate = .ok out₁ ∧
        ∀ mode, (commit root mode out₁.files : ExceptT CommitError (StateM Files) _).run fs₁ =
          (.ok (out₁.files.map (Commit.committed · .unchanged)), fs₁) := by
  have hview := fs.view_setting root v o
  rw [← hview] at hrel
  obtain ⟨report, hcommit⟩ := Commit.commit_run_write root out.files fs
  have hbody : ∀ f ∈ v.functions, ∀ body,
      fs.contents? (Path.join root (Skeletons.bodyPath f)) = some body →
      (out.files.foldl (Commit.settle root) fs).contents?
        (Path.join root (Skeletons.bodyPath f)) = some body := by
    intro f hf body hb
    have hocc : (fs.setting root v o).occupied (Skeletons.bodyPath f) = true := by
      rw [fs.occupied_setting root v o hf, hb]; rfl
    rw [← hb]
    exact Commit.contents?_foldl_settle out.files fs
      (body_apart hrel hgen root (hview.symm ▸ hf) hocc)
  refine ⟨report, _, hcommit, hbody, ?_⟩
  generalize hfs : out.files.foldl (Commit.settle root) fs = fs₁ at hbody
  have hsame : (fs₁.setting root v o).inMemory = (fs.setting root v o).inMemory := by
    rw [Files.inMemory_setting, Files.inMemory_setting]
  -- the second run finds every body that the first one found, so it writes none of them either
  obtain ⟨out₁, hgen₁, hsub⟩ := files_subset_of_occupied hsame hgen fun f hf hocc => by
    rw [hview] at hf
    rw [fs.occupied_setting root v o hf] at hocc
    rw [fs₁.occupied_setting root v o hf]
    obtain ⟨body, hb⟩ := Option.isSome_iff_exists.1 hocc
    rw [hbody f hf body hb]
    rfl
  refine ⟨out₁, hgen₁, fun mode => Commit.commit_run_of_current mode fun g hg => ?_⟩
  rw [← hfs]
  exact Commit.current_of_settled (Setting.apart_files hrel hgen root) fs g (hsub hg)

/-- A thread, and a passive function in a directory of its own that the thread may run. -/
def threadAndFilter : View where
  functions :=
    [{ name := "Ctrl", language := .ada, runtime := .thread, process := some "p1"
       interfaces :=
         [{ name := "Out", direction := .required, remoteFunction := some "lib/Filter" }] },
     { name := "lib/Filter", language := .ada, runtime := .passive, callingThreads := ["Ctrl"]
       interfaces := [{ name := "Step", direction := .provided, synchronism := .synchronous }] }]
  sound := by decide

/-- The user has written the body of the passive function, and no more. -/
def filterWritten : Files :=
  Files.put ⟨fun _ => none⟩ "out/lib/Filter/lib/Filter.adb" (some [45, 45])

theorem regenerate_after_commit_unchanged_of_filter :
    (∀ f ∈ threadAndFilter.functions, Path.isAbsolute f.name = false) ∧
    ∃ out, (filterWritten.setting "out" threadAndFilter {}).generate = .ok out ∧
      ∃ report fs₁, (commit "out" .write out.files : ExceptT CommitError (StateM Files) _).run
          filterWritten = (.ok report, fs₁) ∧
        (∀ f ∈ threadAndFilter.functions, ∀ body,
          filterWritten.contents? (Path.join "out" (Skeletons.bodyPath f)) = some body →
          fs₁.contents? (Path.join "out" (Skeletons.bodyPath f)) = some body) ∧
        ∃ out₁, (fs₁.setting "out" threadAndFilter {}).generate = .ok out₁ ∧
          ∀ mode, (commit "out" mode out₁.files : ExceptT CommitError (StateM Files) _).run fs₁ =
            (.ok (out₁.files.map (Commit.committed · .unchanged)), fs₁) := by
  have hrel : ∀ f ∈ threadAndFilter.functions, Path.isAbsolute f.name = false := by decide
  have hlive : (filterWritten.setting "out" threadAndFilter {}).fault? = none := by
    rw [← Setting.fault?_inMemory, Files.inMemory_setting]
    decide
  have hgen := Setting.generate_of_live _ hlive
  exact ⟨hrel, _, hgen, regenerate_after_commit_unchanged "out" threadAndFilter {} filterWritten
    hrel hgen⟩

end AdaGlue
