/-
Where a commit can change a disk. A path leads to the place that its steps lead to, whatever stands
on the way, and a request changes what stands at the places of its paths. So a commit of files whose
paths stay inside changes nothing but what stands below its root, apart from directories that it
makes on the way to the root where nothing stood. Names of functions are not kept from leading out.
-/
import AdaGlue.Proofs.Commit.Convergence
import AdaGlue.Proofs.Disk.Looking
import AdaGlue.Proofs.Path
import AdaGlue.Proofs.View.RoundTrip

namespace AdaGlue

namespace Disk

/-! ## Places -/

/-- Where the steps lead from a place. -/
def Location.follow (place : Location) : List String → Location
  | [] => place
  | step :: more => Location.follow (if step = ".." then place.dropLast else place ++ [step]) more

theorem Location.follow_append (place : Location) (front back : List String) :
    Location.follow place (front ++ back) = Location.follow (Location.follow place front) back := by
  induction front generalizing place with
  | nil => rfl
  | cons step front ih => exact ih _

theorem Location.follow_of_inside {steps : List String} (h : ".." ∉ steps) (place : Location) :
    Location.follow place steps = place ++ steps := by
  induction steps generalizing place with
  | nil => simp [Location.follow]
  | cons step steps ih =>
    rw [List.mem_cons, not_or] at h
    rw [Location.follow, if_neg (Ne.symm h.1), ih h.2, List.append_assoc, List.singleton_append]

namespace Tree

/-- The place that a path starts from. -/
def base (t : Tree) (p : String) : Location :=
  if Path.isAbsolute p then [] else t.home

/-- The place that a path stands for. -/
def placeOf (t : Tree) (p : String) : Location :=
  Location.follow (t.base p) (Path.steps p)

def Target.place : Target → Location
  | .found place _ => place
  | .vacant place _ => place

/-- Following names leads to the place that the steps among them lead to, and a place that is said
to be vacant is. -/
theorem place_of_walk {t : Tree} {dir : Location} {names : List String} {x : Target}
    (h : t.walk dir names = .ok x) :
    x.place = Location.follow dir (names.filter Path.isStep) ∧
      ∀ place b, x = .vacant place b → t.entry? place = none := by
  have hstep : ∀ {name : String}, ¬ (name = "" ∨ name = ".") → Path.isStep name = true := by
    intro name hname
    simpa [Path.isStep] using hname
  fun_induction walk t dir names with
  | case1 dir =>
    cases h
    exact ⟨rfl, by simp⟩
  | case2 dir name more hidle ih =>
    have hno : Path.isStep name = false := by simpa [Path.isStep, ← or_iff_not_imp_left] using hidle
    rw [List.filter_cons_of_neg (by simp [hno])]
    exact ih h
  | case3 dir more hidle ih =>
    rw [List.filter_cons_of_pos (hstep hidle)]
    exact ih h
  | case4 => cases h
  | case5 dir name more hidle hup _ place _ ih =>
    rw [List.filter_cons_of_pos (hstep hidle), Location.follow, if_neg hup]
    exact ih h
  | case6 dir name hidle hup _ place contents _ =>
    cases h
    rw [List.filter_cons_of_pos (hstep hidle), Location.follow, if_neg hup]
    exact ⟨rfl, by simp⟩
  | case7 => cases h
  | case8 dir name more hidle hup _ place hnone hall =>
    cases h
    have hidle' : more.filter Path.isStep = [] := by
      rw [List.filter_eq_nil_iff]
      intro n hn
      have hempty : n = "" := by simpa using List.all_eq_true.1 hall n hn
      simp [Path.isStep, hempty]
    rw [List.filter_cons_of_pos (hstep hidle), Location.follow, if_neg hup, hidle']
    refine ⟨rfl, ?_⟩
    rintro place' b ⟨⟩
    exact hnone
  | case9 => cases h

/-- A disk looks for the path at all. -/
structure Fits (p : String) : Prop where
  plain : '\x00' ∉ p.toList
  nonempty : p ≠ ""
  short : p.utf8ByteSize ≤ longestPath

theorem locate_eq_ok_iff {t : Tree} {p : String} {x : Target} :
    t.locate p = .ok x ↔ Fits p ∧ t.walk (t.base p) (Path.components p) = .ok x := by
  unfold locate
  constructor
  · intro h
    split at h
    · cases h
    next hplain =>
    split at h
    · cases h
    next hnonempty =>
    split at h
    · cases h
    next hshort => exact ⟨⟨hplain, hnonempty, Nat.not_lt.1 hshort⟩, h⟩
  · rintro ⟨hfits, h⟩
    rw [if_neg hfits.plain, if_neg hfits.nonempty, if_neg (Nat.not_lt.2 hfits.short)]
    exact h

theorem place_of_locate {t : Tree} {p : String} {x : Target} (h : t.locate p = .ok x) :
    x.place = t.placeOf p ∧ ∀ place b, x = .vacant place b → t.entry? place = none :=
  place_of_walk (locate_eq_ok_iff.1 h).2

/-! ## Entries -/

theorem lookup_filter {l : List (Location × Entry)} {q : Location} {keep : Location × Entry → Bool}
    (h : ∀ e, keep (q, e) = true) : (l.filter keep).lookup q = l.lookup q := by
  induction l with
  | nil => rfl
  | cons x l ih =>
    obtain ⟨place, e⟩ := x
    by_cases hkeep : keep (place, e) = true
    · rw [List.filter_cons_of_pos hkeep, List.lookup_cons, List.lookup_cons, ih]
    · have hne : q ≠ place := fun hq => hkeep (hq ▸ h e)
      rw [List.filter_cons_of_neg hkeep, List.lookup_cons, beq_false_of_ne hne, ih]

section Entries

variable (t : Tree) {place q : Location}

theorem entry?_put_of_ne (e : Entry) (hq : q ≠ place) :
    Tree.entry? (t.put place e) q = t.entry? q := by
  unfold entry? put
  split
  · rfl
  · rw [List.lookup_cons, beq_false_of_ne hq]
    exact lookup_filter fun _ => by simpa using hq

theorem entry?_put_self (e : Entry) (hplace : place ≠ []) :
    Tree.entry? (t.put place e) place = some e := by
  simp [put, entry?, hplace]

theorem entry?_cut (hq : ¬ place <+: q) : Tree.entry? (t.cut place) q = t.entry? q := by
  unfold entry? cut
  split
  · rfl
  · exact lookup_filter fun _ => by simpa [← List.isPrefixOf_iff_prefix] using hq

end Entries

/-! ## Requests -/

section Requests

variable {t t' : Tree} {place : Location} {p q : String}

/-- A change is made, or nothing is changed. It fails where the entries do not allow it or where the
device goes wrong. -/
theorem change_cases (t : Tree) (changed : Except Refusal Tree) :
    (∃ t', changed = .ok t' ∧ t.change changed = (.ok (), t'.next)) ∨
      ∃ r, t.change changed = (.error r, t.next) ∧
        ((∃ r', changed = .error r') ∨ ∃ m, t.mishap = some m) := by
  unfold change
  rcases changed with r | t'
  · exact .inr ⟨r, rfl, .inl ⟨r, rfl⟩⟩
  · rcases hmishap : t.mishap with _ | m
    · exact .inl ⟨t', rfl, rfl⟩
    · exact .inr ⟨.device m.reason, rfl, .inr ⟨m, rfl⟩⟩

theorem snd_orStands (p : String) (x : Except Refusal Unit × Tree) : (orStands p x).2 = x.2 := by
  rcases x with ⟨r | _, t⟩ <;> rfl

/-- A directory is made at the place of its path, where nothing stood. -/
theorem withDir_eq_ok (h : t.withDir p = .ok t') :
    t.entry? (t.placeOf p) = none ∧ t' = t.put (t.placeOf p) .directory := by
  unfold withDir at h
  rcases hlocate : t.locate p with r | x
  · rw [hlocate] at h
    cases h
  rw [hlocate] at h
  obtain ⟨hplace, hvacant⟩ := place_of_locate hlocate
  rw [← hplace]
  cases x with
  | found place e => cases h
  | vacant place b =>
    cases h
    exact ⟨hvacant place b rfl, rfl⟩

/-- A file that is found stands at its place. -/
theorem entry?_of_walk {dir : Location} {names : List String} {contents : List UInt8}
    (h : t.walk dir names = .ok (.found place (.file contents))) :
    t.entry? place = some (.file contents) := by
  fun_induction walk t dir names with
  | case1 => cases h
  | case2 _ _ _ _ ih => exact ih h
  | case3 _ _ _ ih => exact ih h
  | case4 => cases h
  | case5 _ _ _ _ _ _ _ _ ih => exact ih h
  | case6 _ _ _ _ _ _ _ hentry =>
    simp only [Except.ok.injEq, Target.found.injEq, Entry.file.injEq] at h
    rw [← h.1, ← h.2]
    exact hentry
  | case7 => cases h
  | case8 => cases h
  | case9 => cases h

theorem entry?_of_locate {contents : List UInt8}
    (h : t.locate p = .ok (.found place (.file contents))) :
    t.entry? place = some (.file contents) :=
  entry?_of_walk (locate_eq_ok_iff.1 h).2

/-- A file goes to the place of its path, where no directory stands. -/
theorem fileAt_eq_ok (h : t.fileAt p = .ok place) :
    (∃ x, t.locate p = .ok x) ∧ place = t.placeOf p ∧ t.entry? place ≠ some .directory := by
  unfold fileAt at h
  rcases hlocate : t.locate p with r | x
  · rw [hlocate] at h
    cases h
  rw [hlocate] at h
  obtain ⟨hplace, hvacant⟩ := place_of_locate hlocate
  refine ⟨⟨x, rfl⟩, ?_⟩
  rw [← hplace]
  match x, h with
  | .found place (.file _), h =>
    cases h
    have hentry := entry?_of_locate hlocate
    exact ⟨rfl, by simp [hentry]⟩
  | .vacant place false, h =>
    cases h
    have hnone := hvacant place false rfl
    exact ⟨rfl, by simp [hnone]⟩
  | .found _ .directory, h => cases h
  | .vacant _ true, h => cases h

/-- What a write leaves: nothing new, where it is refused; a beginning of the file, where the device
breaks it off; otherwise the file. -/
theorem write_cases (t : Tree) (p : String) (contents : List UInt8) :
    (∃ r, t.write p contents = (.error r, t.next)) ∨
      t.fileAt p = .ok (t.placeOf p) ∧
        ((∃ n reason, n < contents.length ∧ t.mishap = some (.brokenOff n reason) ∧
          t.write p contents = (.error (.device reason),
            (t.put (t.placeOf p) (.file (contents.take n))).next)) ∨
        t.write p contents = (.ok (), (t.put (t.placeOf p) (.file contents)).next)) := by
  unfold write
  rcases hplace : t.fileAt p with r | place
  · exact .inl ⟨r, rfl⟩
  obtain ⟨-, rfl, -⟩ := fileAt_eq_ok hplace
  rcases hmishap : t.mishap with _ | ⟨reason⟩ | ⟨n, reason⟩
  · exact .inr ⟨rfl, .inr rfl⟩
  · exact .inl ⟨.device reason, rfl⟩
  · dsimp only
    by_cases hn : n < contents.length
    · exact .inr ⟨rfl, .inl ⟨n, reason, hn, rfl, if_pos hn⟩⟩
    · exact .inr ⟨rfl, .inr (if_neg hn)⟩

/-- A move takes what stands at one place away and puts a file at the other. -/
theorem moved_eq_ok (h : t.moved p q = .ok t') :
    ∃ contents, t' = (t.cut (t.placeOf p)).put (t.placeOf q) (.file contents) := by
  unfold moved at h
  rcases hsource : t.locate p with r | x
  · rw [hsource] at h
    cases h
  rw [hsource] at h
  obtain ⟨hplace, -⟩ := place_of_locate hsource
  match x, h with
  | .found _ .directory, h => cases h
  | .vacant _ _, h => cases h
  | .found source (.file contents), h =>
    rcases htarget : t.locate q with r | y
    · rw [htarget] at h
      cases h
    rw [htarget] at h
    obtain ⟨hplace', -⟩ := place_of_locate htarget
    rw [← hplace, ← hplace']
    match y, h with
    | .found place (.file _), h => cases h; exact ⟨contents, rfl⟩
    | .vacant place false, h => cases h; exact ⟨contents, rfl⟩
    | .found _ .directory, h => cases h
    | .vacant _ true, h => cases h

end Requests

/-! ## What stays the same -/

/-- From `t` to `t'` nothing has changed but below the root, and directories on the way to it have
been made where nothing stood. -/
structure SameOutside (root : String) (t t' : Tree) : Prop where
  home : t'.home = t.home
  entries : ∀ place, ¬ t.placeOf root <+: place → t'.entry? place = t.entry? place ∨
    t.entry? place = none ∧ t'.entry? place = some .directory ∧
      ∃ steps, steps <+: Path.steps root ∧ place = Location.follow (t.base root) steps

theorem base_of_home {t t' : Tree} (h : t'.home = t.home) (p : String) : t'.base p = t.base p := by
  simp [base, h]

theorem placeOf_of_home {t t' : Tree} (h : t'.home = t.home) (p : String) :
    t'.placeOf p = t.placeOf p := by
  rw [placeOf, base_of_home h, placeOf]

namespace SameOutside

variable {root : String} {t t' t'' : Tree}

theorem refl (root : String) (t : Tree) : SameOutside root t t :=
  ⟨rfl, fun _ _ => .inl rfl⟩

theorem trans (h : SameOutside root t t') (h' : SameOutside root t' t'') :
    SameOutside root t t'' := by
  refine ⟨h'.home.trans h.home, fun place hout => ?_⟩
  have hlater := h'.entries place (by rwa [placeOf_of_home h.home])
  rw [base_of_home h.home] at hlater
  rcases h.entries place hout with hsame | ⟨hnone, hmade, hway⟩
  · rwa [hsame] at hlater
  · -- a directory that has been made stays
    rcases hlater with hsame | ⟨hnone', -⟩
    · exact .inr ⟨hnone, hsame.trans hmade, hway⟩
    · rw [hmade] at hnone'
      cases hnone'

instance : IsPreorder Tree (SameOutside root) where
  refl := refl root
  trans _ _ _ := trans

theorem put {place : Location} (h : t.placeOf root <+: place) (e : Entry) :
    SameOutside root t (t.put place e) :=
  ⟨rfl, fun _ hout => .inl (t.entry?_put_of_ne e fun hq => hout (hq ▸ h))⟩

theorem cut {place : Location} (h : t.placeOf root <+: place) : SameOutside root t (t.cut place) :=
  ⟨rfl, fun _ hout => .inl (t.entry?_cut fun hq => hout (h.trans hq))⟩

/-- Asking a device changes nothing by itself. -/
theorem next (h : SameOutside root t t') : SameOutside root t t'.next :=
  ⟨h.home, h.entries⟩

theorem change {changed : Except Refusal Tree}
    (h : ∀ t', changed = .ok t' → SameOutside root t t') :
    SameOutside root t (t.change changed).2 := by
  rcases t.change_cases changed with ⟨t', hchanged, hmade⟩ | ⟨r, hfailed, -⟩
  · rw [hmade]
    exact (h t' hchanged).next
  · rw [hfailed]
    exact (refl root t).next

end SameOutside

/-! ## Directories -/

/-- The path leads along the way to the root, or on from there without going up. -/
structure LeadsAlong (root p : String) : Prop where
  start : Path.isAbsolute p = Path.isAbsolute root
  steps : Path.steps p <+: Path.steps root ∨
    ∃ more, ".." ∉ more ∧ Path.steps p = Path.steps root ++ more

namespace LeadsAlong

variable {root p q : String}

theorem parent? (h : LeadsAlong root p) (hq : Path.parent? p = some q) : LeadsAlong root q := by
  obtain ⟨hstart, hfirst⟩ := Path.steps_parent? hq
  refine ⟨hstart.trans h.start, ?_⟩
  rcases h.steps with hsteps | ⟨more, hinside, hsteps⟩
  · exact .inl (hfirst.trans hsteps)
  · rw [hsteps] at hfirst
    rcases List.prefix_or_prefix_of_prefix hfirst (List.prefix_append _ more) with hway | ⟨rest, hon⟩
    · exact .inl hway
    · rw [← hon, List.prefix_append_right_inj] at hfirst
      exact .inr ⟨rest, fun hup => hinside (hfirst.subset hup), hon.symm⟩

theorem placeOf (h : LeadsAlong root p) (t : Tree) :
    t.placeOf root <+: t.placeOf p ∨
      ∃ steps, steps <+: Path.steps root ∧ t.placeOf p = Location.follow (t.base root) steps := by
  have hbase : t.base p = t.base root := by simp [base, h.start]
  rcases h.steps with hsteps | ⟨more, hinside, hsteps⟩
  · exact .inr ⟨_, hsteps, by rw [Tree.placeOf, hbase]⟩
  · left
    rw [Tree.placeOf, Tree.placeOf, hbase, hsteps, Location.follow_append,
      Location.follow_of_inside hinside]
    exact List.prefix_append _ _

theorem withDir (h : LeadsAlong root p) {t t' : Tree} (hmade : t.withDir p = .ok t') :
    SameOutside root t t' := by
  obtain ⟨hnone, rfl⟩ := withDir_eq_ok hmade
  have hroot : t.placeOf p ≠ [] := by
    intro hroot
    rw [hroot] at hnone
    cases hnone
  rcases h.placeOf t with hbelow | ⟨steps, hway, hsteps⟩
  · exact .put hbelow .directory
  · refine ⟨rfl, fun q _ => ?_⟩
    by_cases hq : q = t.placeOf p
    · rw [hq]
      exact .inr ⟨hnone, t.entry?_put_self .directory hroot, steps, hway, hsteps⟩
    · exact .inl (t.entry?_put_of_ne .directory hq)

theorem makeDir (h : LeadsAlong root p) (t : Tree) : SameOutside root t (t.makeDir p).2 :=
  .change fun _ => h.withDir

/-- Directories are made one inside the other, each on the way to the last. -/
theorem makeDirs (h : LeadsAlong root p) (t : Tree) : SameOutside root t (t.makeDirs p).2 := by
  fun_induction Tree.makeDirs t p with
  | case1 => exact .refl root _
  | case2 t p _ t' hfirst _ =>
    have hasked := h.makeDir t
    rw [hfirst] at hasked
    exact hasked
  | case3 t p _ t' hfirst above habove t'' hmade ih =>
    have hasked := h.makeDir t
    have hway := ih (h.parent? habove)
    rw [hfirst] at hasked
    rw [hmade] at hway
    rw [snd_orStands]
    exact (hasked.trans hway).trans (h.makeDir t'')
  | case4 t p _ t' hfirst above habove hfailed ih =>
    have hasked := h.makeDir t
    rw [hfirst] at hasked
    exact hasked.trans (ih (h.parent? habove))
  | case5 t p =>
    rw [snd_orStands]
    exact h.makeDir t

end LeadsAlong

/-! ## Files -/

section Inside

variable {root p q : String}

theorem leadsAlong_join (h : Path.StaysInside p) : LeadsAlong root (Path.join root p) :=
  ⟨Path.isAbsolute_join h.1, .inr ⟨Path.steps p, mt Path.up_mem_steps_iff.1 h.2,
    Path.steps_join h.1⟩⟩

/-- A path that stays inside leads to a place below the root. -/
theorem placeOf_join (h : Path.StaysInside p) (t : Tree) :
    t.placeOf (Path.join root p) = t.placeOf root ++ Path.steps p := by
  have hbase : t.base (Path.join root p) = t.base root := by simp [base, Path.isAbsolute_join h.1]
  rw [placeOf, placeOf, hbase, Path.steps_join h.1, Location.follow_append,
    Location.follow_of_inside (mt Path.up_mem_steps_iff.1 h.2)]

variable {t : Tree}

theorem write_sameOutside (hq : t.placeOf root <+: t.placeOf q) (contents : List UInt8) :
    SameOutside root t (t.write q contents).2 := by
  rcases t.write_cases q contents with ⟨r, hrefused⟩ | ⟨-, ⟨n, reason, -, -, hbroken⟩ | hdone⟩
  · rw [hrefused]
    exact (SameOutside.refl root t).next
  · rw [hbroken]
    exact (SameOutside.put hq _).next
  · rw [hdone]
    exact (SameOutside.put hq _).next

theorem rename_sameOutside (hp : t.placeOf root <+: t.placeOf p)
    (hq : t.placeOf root <+: t.placeOf q) : SameOutside root t (t.rename p q).2 := by
  refine .change fun t' hmoved => ?_
  obtain ⟨contents, rfl⟩ := moved_eq_ok hmoved
  have hcut : SameOutside root t (t.cut (t.placeOf p)) := .cut hp
  exact hcut.trans (.put (by rwa [placeOf_of_home hcut.home]) _)

end Inside

end Tree

end Disk

/-! ## Commits -/

open Disk (Tree)
open Disk.Tree (SameOutside LeadsAlong)

section Requests

variable {root p q : String}

theorem moves_makeDirs (h : LeadsAlong root p) :
    Moves (SameOutside root) (Disk.makeDirs p : StateM Tree _) :=
  fun t => h.makeDirs t

theorem moves_write (h : ∀ t : Tree, t.placeOf root <+: t.placeOf p) (contents : List UInt8) :
    Moves (SameOutside root) (Disk.write p contents : StateM Tree _) :=
  fun t => Tree.write_sameOutside (h t) contents

theorem moves_rename (hp : ∀ t : Tree, t.placeOf root <+: t.placeOf p)
    (hq : ∀ t : Tree, t.placeOf root <+: t.placeOf q) :
    Moves (SameOutside root) (Disk.rename p q : StateM Tree _) :=
  fun t => Tree.rename_sameOutside (hp t) (hq t)

theorem moves_attempt {σ ε : Type} {R : σ → σ → Prop} [IsPreorder σ R] (failure : String → ε)
    {request : StateM σ (Except String Unit)} (h : Moves R request) :
    Moves R (Commit.attempt failure request).run :=
  h.bind fun _ => Moves.pure _

end Requests

/-- The name that a file is written under first stays inside, too. -/
theorem temporary_join {p : String} (hp : p ≠ "") (h : Path.StaysInside p) (root : String) :
    Path.StaysInside (Commit.temporary p) ∧
      Commit.temporary (Path.join root p) = Path.join root (Commit.temporary p) := by
  have hinside : Path.StaysInside (Commit.temporary p) :=
    h.append hp (by decide) (by decide)
  refine ⟨hinside, ?_⟩
  have hrel := hinside.1
  unfold Path.join
  rw [h.1, hrel]
  unfold Commit.temporary
  simp only [Bool.false_eq_true, if_false]
  split <;> simp only [String.append_assoc]

theorem placeOf_prefix_join {p : String} (h : Path.StaysInside p) (root : String) (t : Tree) :
    t.placeOf root <+: t.placeOf (Path.join root p) := by
  rw [Tree.placeOf_join h]
  exact List.prefix_append _ _

theorem moves_replace {p : String} (hp : p ≠ "") (h : Path.StaysInside p) (root : String)
    (contents : List UInt8) :
    Moves (SameOutside root)
      (Commit.replace (Path.join root p) contents : ExceptT CommitError (StateM Tree) Unit).run := by
  obtain ⟨htemporary, hbeside⟩ := temporary_join hp h root
  unfold Commit.replace
  rw [hbeside]
  dsimp only
  have hmoved := moves_attempt
    (CommitError.notRenamed (Path.join root (Commit.temporary p)) (Path.join root p))
    (moves_rename (placeOf_prefix_join htemporary root) (placeOf_prefix_join h root))
  have hput := (moves_attempt (CommitError.notWritten (Path.join root (Commit.temporary p)))
    (moves_write (placeOf_prefix_join htemporary root) contents)).bindExcept fun _ => hmoved
  cases hparent : Path.parent? (Path.join root p) with
  | none => exact hput
  | some dir =>
    have hway := (Tree.leadsAlong_join h).parent? hparent
    exact (moves_attempt (CommitError.noDirectory dir) (moves_makeDirs hway)).bindExcept fun _ => hput

/-- One file whose path stays inside changes nothing outside. -/
theorem moves_file {g : GeneratedFile} (hp : g.path ≠ "") (h : Path.StaysInside g.path)
    (root : String) (mode : CommitMode) :
    Moves (SameOutside root)
      (Commit.file root mode g : ExceptT CommitError (StateM Tree) CommittedFile).run := by
  have hcurrent : Looks (liftM (Commit.isCurrent (Path.join root g.path) (Text.bytes g.contents) :
      StateM Tree Bool) : ExceptT CommitError (StateM Tree) Bool).run :=
    (looks_isCurrent _ _).bind fun _ => Looks.pure _
  refine hcurrent.moves.bindExcept fun current => ?_
  cases current with
  | true => exact Moves.pure _
  | false =>
    cases mode with
    | check => exact Moves.pure _
    | write => exact (moves_replace hp h root _).bindExcept fun _ => Moves.pure _

/-- Nor do such files one after the other, up to the first failure. -/
theorem moves_commit {files : List GeneratedFile}
    (h : ∀ g ∈ files, g.path ≠ "" ∧ Path.StaysInside g.path) (root : String) (mode : CommitMode) :
    Moves (SameOutside root)
      (commit root mode files : ExceptT CommitError (StateM Tree) (List CommittedFile)).run :=
  Moves.mapMExcept fun g hg => moves_file (h g hg).1 (h g hg).2 root mode

/-- A file of a run has a path that stays inside exactly if the name of its function does. If all do,
a commit below any root leads each file to a place below the root, and changes nothing outside of it,
whether it succeeds or not. -/
theorem files_stay_below_root_iff {s : Setting} {out : Output} (h : s.generate = .ok out) :
    (∀ g ∈ out.files, ∃ f ∈ s.view.functions, g.function = f.name ∧
      (Path.StaysInside g.path ↔ Path.StaysInside f.name)) ∧
    ((∀ g ∈ out.files, Path.StaysInside g.function) →
      ∀ (root : String) (mode : CommitMode) (t : Tree),
        (∀ g ∈ out.files, t.placeOf root <+: t.placeOf (Path.join root g.path)) ∧
        SameOutside root t
          ((commit root mode out.files : ExceptT CommitError (StateM Tree) _).run t).2) := by
  have howner : ∀ g ∈ out.files, ∃ f ∈ s.view.functions, g.function = f.name ∧
      g.path = g.kind.path f.name := by
    intro g hg
    obtain ⟨f, hf, b, -, hlive, hmem⟩ := Setting.owner_of_mem_files h hg
    obtain ⟨hfun, hpath, -⟩ := s.textOf_files hlive hmem
    exact ⟨f, hf, hfun, hpath⟩
  constructor
  · intro g hg
    obtain ⟨f, hf, hfun, hpath⟩ := howner g hg
    exact ⟨f, hf, hfun, hpath ▸ g.kind.staysInside_path_iff (s.view.name_ne_empty hf)⟩
  · intro hnames root mode t
    have hinside : ∀ g ∈ out.files, g.path ≠ "" ∧ Path.StaysInside g.path := by
      intro g hg
      obtain ⟨f, hf, hfun, hpath⟩ := howner g hg
      have hne := s.view.name_ne_empty hf
      have hname : Path.StaysInside f.name := hfun ▸ hnames g hg
      rw [hpath]
      refine ⟨fun hempty => ?_, (g.kind.staysInside_path_iff hne).2 hname⟩
      have hlast := g.kind.getLast?_path hne hname.1
      simp [hempty] at hlast
    exact ⟨fun g hg => placeOf_prefix_join (hinside g hg).2 root t, moves_commit hinside root mode t⟩

/-- A function whose name has a separator and dots in it. -/
def nested : View where
  functions := [{ name := "nav/..map", runtime := .thread, process := some "p1" }]
  sound := by decide

/-- A disk with a file beside the root. -/
def besideOut : Tree :=
  { home := ["work"], entries := [(["work"], .directory), (["work", "nav"], .file [1])] }

theorem files_stay_below_root_iff_of_nested :
    ∃ out, Setting.generate { view := nested } = .ok out ∧
      (∀ g ∈ out.files, Path.StaysInside g.path) ∧
      Tree.entry? ((commit "out" .write out.files : ExceptT CommitError (StateM Tree) _).run
        besideOut).2 ["work", "nav"] = some (.file [1]) := by
  have hgen := Setting.generate_of_live { view := nested } (by decide)
  obtain ⟨hpaths, hcommit⟩ := files_stay_below_root_iff hgen
  have hname : Path.StaysInside "nav/..map" := by decide
  have hnames : ∀ f ∈ nested.functions, Path.StaysInside f.name := by
    intro f hf
    obtain rfl := List.mem_singleton.1 hf
    exact hname
  refine ⟨_, hgen, fun g hg => ?_, ?_⟩
  · obtain ⟨f, hf, -, hiff⟩ := hpaths g hg
    exact hiff.2 (hnames f hf)
  · have hsame := (hcommit (fun g hg => ?_) "out" .write besideOut).2
    · rcases hsame.entries ["work", "nav"] (by decide) with hentry | ⟨hnone, -⟩
      · exact hentry
      · cases hnone
    · obtain ⟨f, hf, hfun, -⟩ := hpaths g hg
      rw [hfun]
      exact hnames f hf

/-- A text whose functions have names that lead up and to the top. -/
def leadingOut : ViewDocument where
  version := ViewDocument.supportedVersion
  functions :=
    [{ name := "../up", runtime := .thread, process := some "p1" },
     { name := "/top", runtime := .thread, process := some "p1" }]

/-- The functions it holds. -/
def upAndTop : View where
  functions := leadingOut.functions
  sound := by decide

/-- Such a text is accepted, and a commit of its files writes beside the root and at the top. -/
theorem files_lead_out_of_root :
    View.ofText (Text.bytes leadingOut.toJson.compact) = .ok upAndTop ∧
      ∃ out, Setting.generate { view := upAndTop } = .ok out ∧
        (∃ g ∈ out.files, ".." ∈ Path.components g.path) ∧
        (∃ g ∈ out.files, Path.isAbsolute g.path = true) ∧
        besideOut.entry? ["work", "up_wrappers.ads"] = none ∧
        besideOut.entry? ["top_wrappers.ads"] = none ∧
        let t := ((commit "out" .write out.files : ExceptT CommitError (StateM Tree) _).run
          besideOut).2
        t.isFile "up_wrappers.ads" = true ∧ t.isFile "/top_wrappers.ads" = true := by
  have hread : View.ofText (Text.bytes leadingOut.toJson.compact) = .ok upAndTop :=
    View.ofText_eq_ok_iff.2 ⟨leadingOut, leadingOut.ofText_toJson.1, by decide, by decide⟩
  have hgen := Setting.generate_of_live { view := upAndTop } (by decide)
  refine ⟨hread, _, hgen, ?_, ?_, rfl, rfl, ?_⟩
  · decide +kernel
  · decide +kernel
  · decide +kernel

end AdaGlue
