/-
Commits on a disk that is a plain map from paths to contents, where every request succeeds that can.
A commit that writes settles its files one after the other: each ends up with its contents, and
nothing changes but the files themselves and their temporary names. A commit of files that stand
there already, in either mode, reports each as unchanged and changes nothing.
-/
import AdaGlue.Commit
import AdaGlue.Disk.Tree

namespace AdaGlue

/-- The contents of every file, by its path. -/
@[ext] structure Files where
  contents? : String → Option (List UInt8)

namespace Files

/-- A file put at a path, or taken away from it. -/
def put (fs : Files) (path : String) (contents : Option (List UInt8)) : Files :=
  ⟨fun p => if p = path then contents else fs.contents? p⟩

@[simp] theorem contents?_put (fs : Files) (path p : String) (contents : Option (List UInt8)) :
    (fs.put path contents).contents? p = if p = path then contents else fs.contents? p := rfl

@[simp] theorem put_put (fs : Files) (path : String) (a b : Option (List UInt8)) :
    (fs.put path a).put path b = fs.put path b := by
  ext1
  funext p
  simp only [contents?_put]
  split <;> rfl

end Files

instance : Disk (StateM Files) where
  read p fs :=
    match fs.contents? p with
    | some contents => (.ok contents, fs)
    | none => (.error Disk.Refusal.notFound.reason, fs)
  isFile p fs := ((fs.contents? p).isSome, fs)
  makeDirs _ fs := (.ok (), fs)
  write p contents fs := (.ok (), fs.put p (some contents))
  rename p q fs :=
    match fs.contents? p with
    | some contents => (.ok (), (fs.put p none).put q (some contents))
    | none => (.error Disk.Refusal.notFound.reason, fs)

/-! ## Steps that may fail -/

section Steps

variable {σ ε α β : Type} {x : ExceptT ε (StateM σ) α} {f : α → ExceptT ε (StateM σ) β} {s s' : σ}

/-- A step that succeeds is followed by the next, from the state it leaves. -/
theorem run_bind_ok {a : α} (h : x.run s = (.ok a, s')) : (x >>= f).run s = (f a).run s' := by
  show (match x.run s with | (r, t) => (ExceptT.bindCont f r : StateM σ _) t) = _
  rw [h]
  rfl

/-- A step that fails ends the run. -/
theorem run_bind_error {e : ε} (h : x.run s = (.error e, s')) :
    (x >>= f).run s = (.error e, s') := by
  rw [ExceptT.run_bind]
  simp only [bind, StateT.bind, h]
  rfl

/-- A step that cannot fail succeeds among those that can. -/
theorem run_liftM {y : StateM σ α} {a : α} (h : y s = (a, s')) :
    (liftM y : ExceptT ε (StateM σ) α).run s = (.ok a, s') := by
  have hrun : (liftM y : ExceptT ε (StateM σ) α).run s = (.ok (y s).1, (y s).2) := rfl
  rw [hrun, h]

end Steps

namespace Commit

/-! ## One file -/

/-- A request ends as the disk answers, with the meaning that its failure has. -/
theorem attempt_run {σ ε : Type} (failure : String → ε) {request : StateM σ (Except String Unit)}
    {s s' : σ} {r : Except String Unit} (h : request s = (r, s')) :
    (attempt failure request).run s = (r.mapError failure, s') := by
  have hrun : (attempt failure request).run s =
      ((request s).1.mapError failure, (request s).2) := rfl
  rw [hrun, h]

theorem rename_run {fs : Files} {p : String} {contents : List UInt8}
    (h : fs.contents? p = some contents) (q : String) :
    (Disk.rename p q : StateM Files _) fs = (.ok (), (fs.put p none).put q (some contents)) := by
  show (match fs.contents? p with
    | some c => ((.ok (), (fs.put p none).put q (some c)) : Except String Unit × Files)
    | none => (.error Disk.Refusal.notFound.reason, fs)) = _
  rw [h]

/-- The file is put in place, and its temporary name is free. -/
theorem replace_run (path : String) (contents : List UInt8) (fs : Files) :
    (replace path contents : ExceptT CommitError (StateM Files) Unit).run fs =
      (.ok (), (fs.put (temporary path) none).put path (some contents)) := by
  have hwrite : (attempt (.notWritten (temporary path)) (Disk.write (temporary path) contents) :
      ExceptT CommitError (StateM Files) Unit).run fs =
      (.ok (), fs.put (temporary path) (some contents)) := attempt_run _ rfl
  have hrename : (attempt (.notRenamed (temporary path) path)
      (Disk.rename (temporary path) path) : ExceptT CommitError (StateM Files) Unit).run
      (fs.put (temporary path) (some contents)) =
      (.ok (), ((fs.put (temporary path) (some contents)).put (temporary path) none).put path
        (some contents)) := attempt_run _ (rename_run (by simp) path)
  rw [Files.put_put] at hrename
  unfold replace
  cases Path.parent? path with
  | none => exact (run_bind_ok hwrite).trans hrename
  | some dir =>
    have hmake : (attempt (.noDirectory dir) (Disk.makeDirs dir) :
        ExceptT CommitError (StateM Files) Unit).run fs = (.ok (), fs) := attempt_run _ rfl
    exact (run_bind_ok hmake).trans ((run_bind_ok hwrite).trans hrename)

/-- The bytes that stand at the path of the file are those it was generated with. -/
def Current (root : String) (fs : Files) (f : GeneratedFile) : Prop :=
  fs.contents? (Path.join root f.path) = some (Text.bytes f.contents)

instance (root : String) (fs : Files) (f : GeneratedFile) : Decidable (Current root fs f) :=
  inferInstanceAs (Decidable (_ = _))

theorem isCurrent_run (path : String) (contents : List UInt8) (fs : Files) :
    (isCurrent path contents : StateM Files Bool) fs =
      (decide (fs.contents? path = some contents), fs) := by
  unfold isCurrent
  cases h : fs.contents? path with
  | none =>
    have hread : (Disk.read path : StateM Files _) fs =
        (.error Disk.Refusal.notFound.reason, fs) := by
      simp only [Disk.read, h]
    simp only [bind, StateT.bind, hread, reduceCtorEq, decide_false]
    rfl
  | some c =>
    have hread : (Disk.read path : StateM Files _) fs = (.ok c, fs) := by
      simp only [Disk.read, h]
    simp only [bind, StateT.bind, hread, Option.some.injEq]
    rfl

section File

variable {root : String} {fs : Files} {f : GeneratedFile}

theorem lift_isCurrent_run (root : String) (fs : Files) (f : GeneratedFile) :
    (liftM (isCurrent (Path.join root f.path) (Text.bytes f.contents) : StateM Files Bool) :
      ExceptT CommitError (StateM Files) Bool).run fs = (.ok (decide (Current root fs f)), fs) :=
  run_liftM (isCurrent_run ..)

/-- A file that stands there already is reported as unchanged, in either mode. -/
theorem file_run_of_current (h : Current root fs f) (mode : CommitMode) :
    (file root mode f : ExceptT CommitError (StateM Files) _).run fs =
      (.ok (committed f .unchanged), fs) := by
  unfold file
  rw [run_bind_ok (lift_isCurrent_run root fs f)]
  simp only [h, decide_true, if_true]
  rfl

/-- Any other file is put in place. -/
theorem file_run_write (h : ¬ Current root fs f) :
    (file root .write f : ExceptT CommitError (StateM Files) _).run fs =
      (.ok (committed f .written), (fs.put (temporary (Path.join root f.path)) none).put
        (Path.join root f.path) (some (Text.bytes f.contents))) := by
  unfold file
  rw [run_bind_ok (lift_isCurrent_run root fs f)]
  simp only [h, decide_false, Bool.false_eq_true, if_false]
  exact run_bind_ok (replace_run ..)

end File

/-- The disk after a file has been committed. -/
def settle (root : String) (fs : Files) (f : GeneratedFile) : Files :=
  if Current root fs f then fs
  else (fs.put (temporary (Path.join root f.path)) none).put (Path.join root f.path)
    (some (Text.bytes f.contents))

/-- What a commit that writes says of a file. -/
def statusOf (root : String) (fs : Files) (f : GeneratedFile) : FileStatus :=
  if Current root fs f then .unchanged else .written

theorem file_run_settle (root : String) (fs : Files) (f : GeneratedFile) :
    (file root .write f : ExceptT CommitError (StateM Files) _).run fs =
      (.ok (committed f (statusOf root fs f)), settle root fs f) := by
  unfold statusOf settle
  split
  · next h => exact file_run_of_current h .write
  · next h => exact file_run_write h

theorem current_settle (root : String) (fs : Files) (f : GeneratedFile) :
    Current root (settle root fs f) f := by
  unfold settle
  split
  · next h => exact h
  · simp [Current]

/-- Nothing changes but the file and its temporary name. -/
theorem contents?_settle {root p : String} (fs : Files) {f : GeneratedFile}
    (hp : p ≠ Path.join root f.path) (htemp : p ≠ temporary (Path.join root f.path)) :
    (settle root fs f).contents? p = fs.contents? p := by
  unfold settle
  split
  · rfl
  · simp [hp, htemp]

/-! ## All files -/

theorem commit_run_of_current {root : String} {fs : Files} (mode : CommitMode)
    {l : List GeneratedFile} (h : ∀ f ∈ l, Current root fs f) :
    (commit root mode l : ExceptT CommitError (StateM Files) _).run fs =
      (.ok (l.map (committed · .unchanged)), fs) := by
  unfold commit
  induction l with
  | nil => rfl
  | cons f l ih =>
    rw [List.mapM_cons, run_bind_ok (file_run_of_current (h f List.mem_cons_self) mode),
      run_bind_ok (ih fun g hg => h g (List.mem_cons_of_mem _ hg))]
    rfl

/-- What a commit that writes reports: each file is looked at when those before it are settled. -/
def reportOf (root : String) (fs : Files) : List GeneratedFile → List CommittedFile
  | [] => []
  | f :: l => committed f (statusOf root fs f) :: reportOf root (settle root fs f) l

theorem commit_run_settle (root : String) (l : List GeneratedFile) (fs : Files) :
    (commit root .write l : ExceptT CommitError (StateM Files) _).run fs =
      (.ok (reportOf root fs l), l.foldl (settle root) fs) := by
  unfold commit
  induction l generalizing fs with
  | nil => rfl
  | cons f l ih =>
    rw [List.mapM_cons, run_bind_ok (file_run_settle root fs f), run_bind_ok (ih _)]
    rfl

theorem commit_run_write (root : String) (l : List GeneratedFile) (fs : Files) :
    ∃ report, (commit root .write l : ExceptT CommitError (StateM Files) _).run fs =
      (.ok report, l.foldl (settle root) fs) :=
  ⟨_, commit_run_settle root l fs⟩

theorem contents?_foldl_settle {root p : String} (l : List GeneratedFile) (fs : Files)
    (hp : ∀ f ∈ l, p ≠ Path.join root f.path ∧ p ≠ temporary (Path.join root f.path)) :
    (l.foldl (settle root) fs).contents? p = fs.contents? p := by
  induction l generalizing fs with
  | nil => rfl
  | cons f l ih =>
    obtain ⟨hf, htemp⟩ := hp f List.mem_cons_self
    rw [List.foldl_cons, ih _ fun g hg => hp g (List.mem_cons_of_mem _ hg),
      contents?_settle fs hf htemp]

/-- The files of a list do not get in each other's way: none is the temporary name of another, and
those at one path are the same. -/
structure Apart (root : String) (l : List GeneratedFile) : Prop where
  temporary : ∀ f ∈ l, ∀ g ∈ l, Path.join root f.path ≠ temporary (Path.join root g.path)
  path : ∀ f ∈ l, ∀ g ∈ l, Path.join root f.path = Path.join root g.path → f = g

theorem Apart.mono {root : String} {l l' : List GeneratedFile} (h : Apart root l) (hs : l' ⊆ l) :
    Apart root l' :=
  ⟨fun f hf g hg => h.temporary f (hs hf) g (hs hg), fun f hf g hg => h.path f (hs hf) g (hs hg)⟩

/-- What stands there keeps standing while the others are settled. -/
theorem current_foldl_settle {root : String} {f : GeneratedFile} (l : List GeneratedFile)
    (hapart : Apart root (f :: l)) {fs : Files} (h : Current root fs f) :
    Current root (l.foldl (settle root) fs) f := by
  induction l generalizing fs with
  | nil => exact h
  | cons g l ih =>
    rw [List.foldl_cons]
    have hg : g ∈ f :: g :: l := by simp
    refine ih (hapart.mono (List.cons_subset_cons f (List.subset_cons_self g l))) ?_
    by_cases hpath : Path.join root f.path = Path.join root g.path
    -- a file at the same path is the same file and is settled with the same bytes
    · rw [hapart.path f List.mem_cons_self g hg hpath]
      exact current_settle root fs g
    · exact (contents?_settle fs hpath (hapart.temporary f List.mem_cons_self g hg)).trans h

/-- After a commit that writes, every file stands there as it was generated. -/
theorem current_of_settled {root : String} {l : List GeneratedFile} (hapart : Apart root l)
    (fs : Files) : ∀ f ∈ l, Current root (l.foldl (settle root) fs) f := by
  induction l generalizing fs with
  | nil => simp
  | cons g l ih =>
    intro f hf
    rw [List.foldl_cons]
    rcases List.mem_cons.1 hf with rfl | hf
    · exact current_foldl_settle l hapart (current_settle root fs f)
    · exact ih (hapart.mono (List.subset_cons_self g l)) _ f hf

end Commit

end AdaGlue
