/-
What a commit that fails leaves behind. A file is written under its temporary name and then moved
into place, and nothing is taken back. So the temporary file stays where the move fails, be it that
a directory stands at the path or that the device refuses, and it stays in part where the device
breaks off the write. After any other failure the disk has no files but those it had and those that
were committed before.
-/
import AdaGlue.Proofs.Disk.Gains

namespace AdaGlue

open Disk (Tree Location)
open Disk.Tree (Beside Fits GainsOnly)

namespace Commit

/-! ## Temporary names -/

theorem utf8ByteSize_temporary (path : String) :
    (temporary path).utf8ByteSize = path.utf8ByteSize + 11 :=
  String.utf8ByteSize_append

theorem temporary_ne (name short : String) (h : short.utf8ByteSize < 11) :
    temporary name ≠ short := by
  rintro rfl
  rw [utf8ByteSize_temporary] at h
  omega

theorem isStep_temporary (name : String) : Path.isStep (temporary name) = true := by
  have hempty := temporary_ne name "" (by decide)
  have hdot := temporary_ne name "." (by decide)
  simp [Path.isStep, hempty, hdot]

/-- Only the last name of a temporary path is a temporary one. -/
theorem exists_components_temporary (path : String) :
    ∃ front last, Path.components path = front ++ [last] ∧
      Path.components (temporary path) = front ++ [temporary last] := by
  have hplain : '/' ∉ ".ivglue-tmp".toList := by decide
  obtain ⟨init, last, hpath, htemporary⟩ := Path.splitAt_append path.toList hplain
  have hname : String.ofList (last ++ ".ivglue-tmp".toList) = temporary (String.ofList last) := by
    rw [String.ofList_append, String.ofList_toList, temporary]
  refine ⟨init.map String.ofList, String.ofList last, ?_, ?_⟩
  · rw [Path.components, hpath, List.map_append, List.map_singleton]
  · rw [Path.components, temporary, String.toList_append, htemporary, List.map_append,
      List.map_singleton, hname]

theorem fits_of_temporary {path : String} (hne : path ≠ "") (h : Fits (temporary path)) :
    Fits path where
  plain hnul := h.plain (by simp [temporary, hnul])
  nonempty := hne
  short := by
    have hshort := h.short
    rw [utf8ByteSize_temporary] at hshort
    omega

theorem beside_temporary {path : String} (hne : path ≠ "") : Beside (temporary path) path where
  start := (Path.isAbsolute_append hne _).symm
  names := by
    obtain ⟨front, last, hpath, htemporary⟩ := exists_components_temporary path
    refine ⟨front, temporary last, last, htemporary, hpath, isStep_temporary last,
      temporary_ne last ".." (by decide), ?_⟩
    rw [utf8ByteSize_temporary]
    omega
  fits := fits_of_temporary hne

/-- The last name on the way to the place is a temporary one. -/
def IsTemporary (place : Location) : Prop :=
  ∃ name, place.getLast? = some (temporary name)

theorem isTemporary_placeOf (t : Tree) (path : String) :
    IsTemporary (t.placeOf (temporary path)) := by
  obtain ⟨front, last, -, htemporary⟩ := exists_components_temporary path
  have hup := temporary_ne last ".." (by decide)
  refine ⟨last, ?_⟩
  rw [Tree.placeOf, Path.steps, htemporary, List.filter_append, List.filter_singleton,
    isStep_temporary]
  simp [Disk.Location.follow_append, Disk.Location.follow, hup]

/-! ## One file -/

/-- How putting a file in place ends, and on which disk. -/
inductive Replaced (t : Tree) (path : String) (contents : List UInt8) :
    Except CommitError Unit × Tree → Prop where
  /-- The file is in place, and no other has come. -/
  | moved {t' : Tree} : GainsOnly (· = t.placeOf path) t t' → Replaced t path contents (.ok (), t')
  /-- Nothing has been written. -/
  | unwritten {e : CommitError} {t' : Tree} : (∀ p q reason, e ≠ .notRenamed p q reason) →
    GainsOnly (fun _ => False) t t' → Replaced t path contents (.error e, t')
  /-- A beginning of the file stands beside its place. -/
  | brokenOff {n : Nat} {reason : String} {t' : Tree} : n < contents.length →
    t'.latest = some (.brokenOff n reason) →
    GainsOnly (· = t.placeOf (temporary path)) t t' →
    t'.entry? (t.placeOf (temporary path)) = some (.file (contents.take n)) →
    Replaced t path contents (.error (.notWritten (temporary path) reason), t')
  /-- The file stands beside its place, which a directory takes or the device refuses to fill. -/
  | unmoved {reason : String} {t' : Tree} : GainsOnly (· = t.placeOf (temporary path)) t t' →
    t'.entry? (t.placeOf (temporary path)) = some (.file contents) →
    (path ≠ "" → t'.isDirectory path = true ∨ ∃ m, t'.latest = some m) →
    Replaced t path contents (.error (.notRenamed (temporary path) path reason), t')

variable (t : Tree) (path : String) (contents : List UInt8)

/-- A file that has been written under its temporary name is moved into place. -/
theorem replaced_of_rename {t₁ : Tree}
    (hwritten : t.write (temporary path) contents = (.ok (), t₁)) :
    Replaced t path contents ((attempt (.notRenamed (temporary path) path)
      (Disk.rename (temporary path) path) : ExceptT CommitError (StateM Tree) Unit).run t₁) := by
  obtain ⟨hgoes, hput⟩ := Tree.write_eq_ok hwritten
  have hgains : GainsOnly (· = t.placeOf (temporary path)) t t₁ := by
    rw [hput]
    exact (t.put_file_gainsOnly _ _).next
  have hrename : (Disk.rename (temporary path) path : StateM Tree _) t₁ =
      Disk.answer (t₁.rename (temporary path) path) := rfl
  rcases hrenamed : t₁.rename (temporary path) path with ⟨r | _, t₂⟩
  · rw [hrenamed] at hrename
    rw [attempt_run _ hrename]
    obtain ⟨rfl, hcause⟩ := Tree.rename_eq_error hrenamed
    refine .unmoved hgains.next ?_ fun hne => hcause.imp_left ?_
    · rw [hput]
      exact Tree.entry?_put_of_fileAt hgoes contents
    · rintro ⟨r', hmoved⟩
      rw [Tree.isDirectory_next]
      exact (beside_temporary hne).isDirectory_of_moved hwritten hmoved
  · rw [hrenamed] at hrename
    rw [attempt_run _ hrename]
    obtain ⟨hhome, hdevice, hkept⟩ := Tree.hasFile_of_rename hrenamed
    refine .moved ⟨hhome.trans hgains.home, hdevice.trans hgains.device, fun place hfile => ?_⟩
    rw [Tree.placeOf_of_home hgains.home, Tree.placeOf_of_home hgains.home] at hkept
    rcases hkept place hfile with hplace | ⟨hother, hbefore⟩
    · exact .inr hplace
    · exact .inl ((hgains.files place hbefore).resolve_right hother)

/-- The temporary file is written, and moved into place. -/
theorem replaced_of_write :
    Replaced t path contents ((do
      attempt (.notWritten (temporary path)) (Disk.write (temporary path) contents)
      attempt (.notRenamed (temporary path) path) (Disk.rename (temporary path) path) :
        ExceptT CommitError (StateM Tree) Unit).run t) := by
  have hwrite : (Disk.write (temporary path) contents : StateM Tree _) t =
      Disk.answer (t.write (temporary path) contents) := rfl
  rcases t.write_cases (temporary path) contents with
    ⟨r, hrefused⟩ | ⟨hgoes, ⟨n, reason, hn, hmishap, hbroken⟩ | hdone⟩
  · rw [hrefused] at hwrite
    rw [run_bind_error (attempt_run _ hwrite)]
    exact .unwritten (by simp) (GainsOnly.refl _ t).next
  · rw [hbroken] at hwrite
    rw [run_bind_error (attempt_run _ hwrite)]
    exact .brokenOff hn hmishap (t.put_file_gainsOnly _ _).next
      (Tree.entry?_put_of_fileAt hgoes (contents.take n))
  · have hwritten := hwrite
    rw [hdone] at hwritten
    rw [run_bind_ok (attempt_run _ hwritten)]
    exact replaced_of_rename t path contents hdone

/-- Nothing changes with a start from a disk that has gained no files. -/
theorem Replaced.of_gainsOnly {t t₁ : Tree} {path : String} {contents : List UInt8}
    {r : Except CommitError Unit × Tree} (h : Replaced t₁ path contents r)
    (hgains : GainsOnly (fun _ => False) t t₁) : Replaced t path contents r := by
  have hplace := Tree.placeOf_of_home hgains.home
  have hsince : ∀ {new t'}, GainsOnly new t₁ t' → GainsOnly new t t' := fun hnew =>
    (hgains.mono fun _ => False.elim).trans hnew
  cases h with
  | moved hnew => exact .moved (hplace path ▸ hsince hnew)
  | unwritten he hnew => exact .unwritten he (hsince hnew)
  | brokenOff hn hlatest hnew hentry =>
    rw [hplace] at hnew hentry
    exact .brokenOff hn hlatest (hsince hnew) hentry
  | unmoved hnew hentry hcause =>
    rw [hplace] at hnew hentry
    exact .unmoved (hsince hnew) hentry hcause

theorem replaced_of_replace :
    Replaced t path contents
      ((replace path contents : ExceptT CommitError (StateM Tree) Unit).run t) := by
  unfold replace
  cases Path.parent? path with
  | none => exact replaced_of_write t path contents
  | some dir =>
    have hmake : (Disk.makeDirs dir : StateM Tree _) t = Disk.answer (t.makeDirs dir) := rfl
    have hgains := Tree.makeDirs_gainsOnly t dir
    rcases hmade : t.makeDirs dir with ⟨r | _, t₁⟩
    · rw [hmade] at hmake hgains
      dsimp only
      rw [run_bind_error (attempt_run _ hmake)]
      exact .unwritten (by simp) hgains
    · rw [hmade] at hmake hgains
      dsimp only
      rw [run_bind_ok (attempt_run _ hmake)]
      exact (replaced_of_write t₁ path contents).of_gainsOnly hgains

/-- A file that stands there already ends as if it had been moved into place. -/
theorem replaced_of_file (root : String) (g : GeneratedFile) (t : Tree) :
    ∃ r t' status, Replaced t (Path.join root g.path) (Text.bytes g.contents) (r, t') ∧
      (file root .write g : ExceptT CommitError (StateM Tree) _).run t =
        (r.map fun _ => committed g status, t') := by
  have hlook := (looks_isCurrent (σ := Tree) (Path.join root g.path)
    (Text.bytes g.contents)).run_eq t
  have hreplaced := replaced_of_replace t (Path.join root g.path) (Text.bytes g.contents)
  unfold file
  dsimp only
  rw [run_bind_ok (run_liftM hlook)]
  cases ((isCurrent (Path.join root g.path) (Text.bytes g.contents) : StateM Tree Bool) t).1 with
  | true => exact ⟨.ok (), t, .unchanged, .moved (.refl _ t), rfl⟩
  | false =>
    rcases hrun : (replace (Path.join root g.path) (Text.bytes g.contents) :
      ExceptT CommitError (StateM Tree) Unit).run t with ⟨e | _, t'⟩
    · exact ⟨.error e, t', .written, hrun ▸ hreplaced, run_bind_error hrun⟩
    · exact ⟨.ok (), t', .written, hrun ▸ hreplaced, run_bind_ok hrun⟩

theorem gainsOnly_of_file_ok {root : String} {g : GeneratedFile} {t t' : Tree} {c : CommittedFile}
    (h : (file root .write g : ExceptT CommitError (StateM Tree) _).run t = (.ok c, t')) :
    GainsOnly (· = t.placeOf (Path.join root g.path)) t t' := by
  obtain ⟨r, t₁, status, hreplaced, hrun⟩ := replaced_of_file root g t
  rw [hrun] at h
  cases hreplaced with
  | moved hnew => cases h; exact hnew
  | unwritten => cases h
  | brokenOff => cases h
  | unmoved => cases h

/-- A move into place was what failed. -/
def MoveFailed (e : CommitError) : Prop :=
  ∃ source target reason, e = .notRenamed source target reason

/-- The device broke off the write of the temporary file, of which a beginning is left. -/
def WriteBrokenOff (t : Tree) (path : String) (contents : List UInt8) (e : CommitError) : Prop :=
  ∃ n reason, n < contents.length ∧ e = .notWritten (temporary path) reason ∧
    t.latest = some (.brokenOff n reason) ∧
    t.entry? (t.placeOf (temporary path)) = some (.file (contents.take n))

theorem gainsOnly_of_file_error {root : String} {g : GeneratedFile} {t t' : Tree} {e : CommitError}
    (h : (file root .write g : ExceptT CommitError (StateM Tree) _).run t = (.error e, t')) :
    let path := Path.join root g.path
    let contents := Text.bytes g.contents
    GainsOnly (fun place => (MoveFailed e ∨ WriteBrokenOff t' path contents e) ∧
        place = t.placeOf (temporary path)) t t' ∧
      (MoveFailed e → (∃ reason, e = .notRenamed (temporary path) path reason) ∧
        t'.entry? (t.placeOf (temporary path)) = some (.file contents) ∧
        (path ≠ "" → t'.isDirectory path = true ∨ ∃ m, t'.latest = some m)) := by
  obtain ⟨r, t₁, status, hreplaced, hrun⟩ := replaced_of_file root g t
  rw [hrun] at h
  cases hreplaced with
  | moved hnew => cases h
  | unwritten he hnew =>
    cases h
    refine ⟨hnew.mono fun _ => False.elim, ?_⟩
    rintro ⟨source, target, reason, hfailed⟩
    exact absurd hfailed (he _ _ _)
  | @brokenOff n reason _ hn hlatest hnew hentry =>
    cases h
    refine ⟨hnew.mono fun _ hplace => ⟨.inr ⟨n, reason, hn, rfl, hlatest, ?_⟩, hplace⟩, ?_⟩
    · rw [Tree.placeOf_of_home hnew.home]
      exact hentry
    · rintro ⟨source, target, reason', hfailed⟩
      cases hfailed
  | unmoved hnew hentry hcause =>
    cases h
    exact ⟨hnew.mono fun _ hplace => ⟨.inl ⟨_, _, _, rfl⟩, hplace⟩,
      fun _ => ⟨⟨_, rfl⟩, hentry, hcause⟩⟩

/-! ## All files -/

/-- A run over a list that fails stops at one of its members, behind a run over those before it. -/
theorem mapM_run_error {σ ε α β : Type} {f : α → ExceptT ε (StateM σ) β} {l : List α} {s s' : σ}
    {e : ε} (h : (l.mapM f).run s = (.error e, s')) :
    ∃ front a back bs mid, l = front ++ a :: back ∧ (front.mapM f).run s = (.ok bs, mid) ∧
      (f a).run mid = (.error e, s') := by
  induction l generalizing s with
  | nil => cases h
  | cons a l ih =>
    rw [List.mapM_cons] at h
    rcases ha : (f a).run s with ⟨e' | b, mid⟩
    · rw [run_bind_error ha] at h
      cases h
      exact ⟨[], a, l, [], s, rfl, rfl, ha⟩
    · rw [run_bind_ok ha] at h
      rcases hl : (l.mapM f).run mid with ⟨e' | bs, s₁⟩
      · rw [run_bind_error hl] at h
        cases h
        obtain ⟨front, a', back, bs, mid', rfl, hfront, ha'⟩ := ih hl
        refine ⟨a :: front, a', back, b :: bs, mid', rfl, ?_, ha'⟩
        rw [List.mapM_cons, run_bind_ok ha, run_bind_ok hfront]
        rfl
      · rw [run_bind_ok hl] at h
        cases h

/-- A commit that succeeds brings no files but its own. -/
theorem gainsOnly_of_commit_ok {root : String} {files : List GeneratedFile} {t t' : Tree}
    {report : List CommittedFile}
    (h : (commit root .write files : ExceptT CommitError (StateM Tree) _).run t = (.ok report, t')) :
    GainsOnly (fun place => ∃ f ∈ files, place = t.placeOf (Path.join root f.path)) t t' := by
  unfold commit at h
  induction files generalizing t report with
  | nil =>
    cases h
    exact .refl _ _
  | cons f files ih =>
    rw [List.mapM_cons] at h
    rcases hf : (file root .write f : ExceptT CommitError (StateM Tree) _).run t with ⟨e | c, mid⟩
    · rw [run_bind_error hf] at h
      cases h
    rw [run_bind_ok hf] at h
    rcases hfiles : (files.mapM (file root .write) : ExceptT CommitError (StateM Tree) _).run mid with
      ⟨e | cs, t₁⟩
    · rw [run_bind_error hfiles] at h
      cases h
    rw [run_bind_ok hfiles] at h
    cases h
    have hfirst := gainsOnly_of_file_ok hf
    have hothers := ih hfiles
    simp only [Tree.placeOf_of_home hfirst.home] at hothers
    refine (hfirst.mono ?_).trans (hothers.mono ?_)
    · intro place hplace
      exact ⟨f, List.mem_cons_self, hplace⟩
    · rintro place ⟨g, hg, hplace⟩
      exact ⟨g, List.mem_cons_of_mem _ hg, hplace⟩

end Commit

open Commit in
/-- A commit that fails stops at one of its files, with those before it committed. No other file is
new then but the temporary one of the file it stops at, and that one only if the move failed or the
device broke off the write. After a move that failed it holds what was to be moved, and a directory
stands at the path or the device refused; after a write that was broken off it holds a beginning of
that. As long as the files have no temporary names themselves, a temporary file is new exactly in
these two cases, provided that no file stood there before. On a device that does nothing of its own
accord, only a directory at the path makes for one. -/
theorem failed_commit_leaves_temporary_iff {root : String} {files : List GeneratedFile} {t t' : Tree}
    {e : CommitError}
    (h : (commit root .write files : ExceptT CommitError (StateM Tree) _).run t = (.error e, t')) :
    ∃ front g back report mid, files = front ++ g :: back ∧
      (commit root .write front : ExceptT CommitError (StateM Tree) _).run t = (.ok report, mid) ∧
      let path := Path.join root g.path
      let contents := Text.bytes g.contents
      let beside := t.placeOf (temporary path)
      (∀ place, t'.HasFile place → ¬ t.HasFile place →
        (∃ f ∈ front, place = t.placeOf (Path.join root f.path)) ∨
          (MoveFailed e ∨ WriteBrokenOff t' path contents e) ∧ place = beside) ∧
      (MoveFailed e → (∃ reason, e = .notRenamed (temporary path) path reason) ∧
        t'.entry? beside = some (.file contents) ∧
        (path ≠ "" → t'.isDirectory path = true ∨ ∃ m, t'.latest = some m)) ∧
      ((∀ f ∈ front, ¬ IsTemporary (t.placeOf (Path.join root f.path))) →
        ((∃ place, IsTemporary place ∧ t'.HasFile place ∧ ¬ t.HasFile place) ↔
          (MoveFailed e ∨ WriteBrokenOff t' path contents e) ∧ ¬ t.HasFile beside)) ∧
      ((∀ n, t.device.mishap n = none) → ¬ WriteBrokenOff t' path contents e ∧
        (MoveFailed e → path ≠ "" → t'.isDirectory path = true)) := by
  obtain ⟨front, g, back, report, mid, hfiles, hfront, hg⟩ := mapM_run_error h
  refine ⟨front, g, back, report, mid, hfiles, hfront, ?_⟩
  intro path contents beside
  have hbefore := gainsOnly_of_commit_ok hfront
  obtain ⟨hnew, hleft⟩ := gainsOnly_of_file_error hg
  rw [Tree.placeOf_of_home hbefore.home] at hnew hleft
  have honly : ∀ place, t'.HasFile place → ¬ t.HasFile place →
      (∃ f ∈ front, place = t.placeOf (Path.join root f.path)) ∨
        (MoveFailed e ∨ WriteBrokenOff t' path contents e) ∧ place = beside := by
    intro place hfile hnone
    rcases hnew.files place hfile with hmid | hstuck
    · exact .inl ((hbefore.files place hmid).resolve_left hnone)
    · exact .inr hstuck
  refine ⟨honly, hleft, fun hplain => ⟨?_, ?_⟩, fun hsound => ?_⟩
  · rintro ⟨place, htemporary, hfile, hnone⟩
    rcases honly place hfile hnone with ⟨f, hf, rfl⟩ | ⟨hfailed, rfl⟩
    · exact absurd htemporary (hplain f hf)
    · exact ⟨hfailed, hnone⟩
  · rintro ⟨hfailed, hnone⟩
    refine ⟨beside, isTemporary_placeOf t _, ?_, hnone⟩
    rcases hfailed with hmove | ⟨n, reason, -, -, -, hentry⟩
    · exact ⟨_, (hleft hmove).2.1⟩
    · rw [Tree.placeOf_of_home (hnew.home.trans hbefore.home)] at hentry
      exact ⟨_, hentry⟩
  · -- the device is the one that the commit started with
    have hlatest : t'.latest = none := by
      rw [Tree.latest, hnew.device, hbefore.device]
      exact hsound _
    constructor
    · rintro ⟨n, reason, -, -, hbroken, -⟩
      rw [hlatest] at hbroken
      cases hbroken
    · intro hmove hne
      refine ((hleft hmove).2.2 hne).resolve_right ?_
      rintro ⟨m, hm⟩
      rw [hlatest] at hm
      cases hm

/-- A disk on which a directory has the path of a file. -/
def blocked : Tree :=
  { home := ["work"]
    entries :=
      [(["work"], .directory), (["work", "out"], .directory),
       (["work", "out", "nav.ads"], .directory)] }

/-- A disk whose device has no room for all of the second file. For each file it is asked for the
directory, the temporary file and the move. -/
def cramped : Tree :=
  { home := ["work"]
    entries := [(["work"], .directory), (["work", "out"], .directory)]
    device.mishap := fun n =>
      if n = 4 then some (.brokenOff 2 "No space left on device (os error 28)") else none }

/-- A file that goes elsewhere, and one for that path. -/
def freeAndBlocked : List GeneratedFile :=
  [{ function := "nav", kind := .wrappersBody, path := "nav.adb", contents := "body" },
   { function := "nav", kind := .wrappersDecl, path := "nav.ads", contents := "decl" }]

open Commit in
/-- Neither of the two has a temporary name. -/
theorem not_isTemporary_of_mem_freeAndBlocked (t : Tree) (hhome : t.home = blocked.home)
    {f : GeneratedFile} (hf : f ∈ freeAndBlocked) :
    ¬ IsTemporary (t.placeOf (Path.join "out" f.path)) := by
  have hshort : ∃ name, name.utf8ByteSize < 11 ∧
      (blocked.placeOf (Path.join "out" f.path)).getLast? = some name := by
    simp only [freeAndBlocked, List.mem_cons, List.not_mem_nil, or_false] at hf
    rcases hf with rfl | rfl
    · exact ⟨"nav.adb", by decide, by decide⟩
    · exact ⟨"nav.ads", by decide, by decide⟩
  rw [Tree.placeOf_of_home hhome]
  rintro ⟨name, hname⟩
  obtain ⟨short, hsize, hlast⟩ := hshort
  rw [hname] at hlast
  exact temporary_ne name short hsize (Option.some.inj hlast)

/-- What a commit of the two files comes to. -/
def blockedRun : Except CommitError (List CommittedFile) × Tree :=
  (commit "out" .write freeAndBlocked : ExceptT CommitError (StateM Tree) _).run blocked

theorem blockedRun_fst :
    blockedRun.1 = .error (.notRenamed "out/nav.ads.ivglue-tmp" "out/nav.ads"
      "Is a directory (os error 21)") := by
  decide +kernel

/-- What it comes to where there is no room. -/
def crampedRun : Except CommitError (List CommittedFile) × Tree :=
  (commit "out" .write freeAndBlocked : ExceptT CommitError (StateM Tree) _).run cramped

theorem crampedRun_fst :
    crampedRun.1 = .error (.notWritten "out/nav.ads.ivglue-tmp"
      "No space left on device (os error 28)") := by
  decide +kernel

open Commit in
/-- A directory in the way leaves a temporary file, and where there is no room the new temporary file
is what a write that was broken off has left. -/
theorem failed_commit_leaves_temporary_iff_of_blocked :
    (blockedRun.1 = .error (.notRenamed "out/nav.ads.ivglue-tmp" "out/nav.ads"
        "Is a directory (os error 21)") ∧
      blockedRun.2.isDirectory "out/nav.ads" = true ∧
      ∃ place, IsTemporary place ∧ blockedRun.2.HasFile place ∧ ¬ blocked.HasFile place) ∧
    (crampedRun.1 = .error (.notWritten "out/nav.ads.ivglue-tmp"
        "No space left on device (os error 28)") ∧
      Tree.entry? crampedRun.2 ["work", "out", "nav.ads.ivglue-tmp"] =
        some (.file (Text.bytes "de")) ∧
      ∃ g ∈ freeAndBlocked, WriteBrokenOff crampedRun.2 (Path.join "out" g.path)
        (Text.bytes g.contents) (.notWritten "out/nav.ads.ivglue-tmp"
          "No space left on device (os error 28)")) := by
  constructor
  · have hrun : (commit "out" .write freeAndBlocked : ExceptT CommitError (StateM Tree) _).run
        blocked = (.error (.notRenamed "out/nav.ads.ivglue-tmp" "out/nav.ads"
          "Is a directory (os error 21)"), blockedRun.2) := Prod.ext blockedRun_fst rfl
    obtain ⟨front, g, back, report, mid, hfiles, -, -, hleft, hiff, hsound⟩ :=
      failed_commit_leaves_temporary_iff hrun
    have hfailed : MoveFailed (.notRenamed "out/nav.ads.ivglue-tmp" "out/nav.ads"
        "Is a directory (os error 21)") := ⟨_, _, _, rfl⟩
    obtain ⟨⟨reason, hreason⟩, -, -⟩ := hleft hfailed
    have hpath : Path.join "out" g.path = "out/nav.ads" := by
      injection hreason with _ htarget _
      exact htarget.symm
    rw [hpath] at hiff hsound
    refine ⟨blockedRun_fst, (hsound fun _ => rfl).2 hfailed (by decide),
      (hiff ?_).2 ⟨.inl hfailed, ?_⟩⟩
    · intro f hf
      have hmem : f ∈ freeAndBlocked := by simp [hfiles, hf]
      exact not_isTemporary_of_mem_freeAndBlocked blocked rfl hmem
    · rintro ⟨contents, hentry⟩
      have hnone : blocked.entry? (blocked.placeOf (temporary "out/nav.ads")) = none := by decide
      rw [hnone] at hentry
      cases hentry
  · have hrun : (commit "out" .write freeAndBlocked : ExceptT CommitError (StateM Tree) _).run
        cramped = (.error (.notWritten "out/nav.ads.ivglue-tmp"
          "No space left on device (os error 28)"), crampedRun.2) := Prod.ext crampedRun_fst rfl
    have hentry : Tree.entry? crampedRun.2 ["work", "out", "nav.ads.ivglue-tmp"] =
        some (.file (Text.bytes "de")) := by decide +kernel
    obtain ⟨front, g, back, report, mid, hfiles, -, -, -, hiff, -⟩ :=
      failed_commit_leaves_temporary_iff hrun
    have hnew : ∃ place, IsTemporary place ∧ crampedRun.2.HasFile place ∧
        ¬ cramped.HasFile place := by
      refine ⟨["work", "out", "nav.ads.ivglue-tmp"], ⟨"nav.ads", by decide⟩, ⟨_, hentry⟩, ?_⟩
      rintro ⟨contents, hbefore⟩
      have hnone : cramped.entry? ["work", "out", "nav.ads.ivglue-tmp"] = none := by decide
      rw [hnone] at hbefore
      cases hbefore
    refine ⟨crampedRun_fst, hentry, g, by simp [hfiles], ?_⟩
    have hplain : ∀ f ∈ front, ¬ IsTemporary (cramped.placeOf (Path.join "out" f.path)) := by
      intro f hf
      have hmem : f ∈ freeAndBlocked := by simp [hfiles, hf]
      exact not_isTemporary_of_mem_freeAndBlocked cramped rfl hmem
    obtain ⟨⟨source, target, reason, hmove⟩ | hbroken, -⟩ := (hiff hplain).1 hnew
    · cases hmove
    · exact hbroken

/-- The temporary file of a move that failed stays below the root. -/
theorem failed_commit_leaves_temporary_file :
    blockedRun.1 = .error (.notRenamed "out/nav.ads.ivglue-tmp" "out/nav.ads"
        "Is a directory (os error 21)") ∧
      blocked.entry? ["work", "out", "nav.ads.ivglue-tmp"] = none ∧
      Tree.entry? blockedRun.2 ["work", "out", "nav.ads.ivglue-tmp"] =
        some (.file (Text.bytes "decl")) :=
  ⟨blockedRun_fst, by decide, by decide +kernel⟩

end AdaGlue
