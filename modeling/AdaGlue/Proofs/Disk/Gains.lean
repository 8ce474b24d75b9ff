/-
Files that come to a disk with a request, whatever the device does. Directories bring none, a write
brings at most the one at its path, and a move the one at the path where it ends, while the place it
starts from is free. A way to a file leads through directories up to its last name, so the entries
let a file that has been written beside a path be moved there unless a directory stands in its place.
-/
import AdaGlue.Proofs.Disk.Confinement

namespace AdaGlue.Disk.Tree

/-! ## Ways through directories -/

/-- The names lead from one directory to another, through directories. -/
inductive Leads (t : Tree) : Location → List String → Location → Prop where
  | here (dir : Location) : Leads t dir [] dir
  | stay {dir d : Location} {name : String} {names : List String} : name = "" ∨ name = "." →
    Leads t dir names d → Leads t dir (name :: names) d
  | up {dir d : Location} {names : List String} : Leads t dir.dropLast names d →
    Leads t dir (".." :: names) d
  | down {dir d : Location} {name : String} {names : List String} : ¬ (name = "" ∨ name = ".") →
    name ≠ ".." → name.utf8ByteSize ≤ longestName → t.entry? (dir ++ [name]) = some .directory →
    Leads t (dir ++ [name]) names d → Leads t dir (name :: names) d

section

variable {t t' : Tree} {dir d : Location} {names : List String}

/-- Names that follow are followed from the directory that is reached. -/
theorem Leads.walk_append (h : Leads t dir names d) (more : List String) :
    t.walk dir (names ++ more) = t.walk d more := by
  induction h with
  | here dir => rfl
  | stay hidle _ ih => rw [List.cons_append, walk, if_pos hidle, ih]
  | up _ ih => rw [List.cons_append, walk, if_neg (by decide), if_pos rfl, ih]
  | down hidle hup hshort hentry _ ih =>
    rw [List.cons_append, walk, if_neg hidle, if_neg hup, if_neg (Nat.not_lt.2 hshort)]
    dsimp only
    rw [hentry]
    exact ih

theorem Leads.of_directories (h : Leads t dir names d)
    (hdirs : ∀ place, t.entry? place = some .directory → t'.entry? place = some .directory) :
    Leads t' dir names d := by
  induction h with
  | here dir => exact .here dir
  | stay hidle _ ih => exact .stay hidle ih
  | up _ ih => exact .up ih
  | down hidle hup hshort hentry _ ih => exact .down hidle hup hshort (hdirs _ hentry) ih

/-- The last step is taken from a directory. -/
theorem exists_leads {last : String} {x : Target} (hlast : last ≠ "")
    (h : t.walk dir (names ++ [last]) = .ok x) :
    ∃ d, Leads t dir names d ∧ t.walk d [last] = .ok x := by
  induction names generalizing dir with
  | nil => exact ⟨dir, .here dir, h⟩
  | cons name names ih =>
    rw [List.cons_append, walk] at h
    split at h
    · next hidle =>
      obtain ⟨d, hway, hx⟩ := ih h
      exact ⟨d, .stay hidle hway, hx⟩
    next hidle =>
    split at h
    · next hup =>
      obtain ⟨d, hway, hx⟩ := ih h
      exact ⟨d, hup ▸ .up hway, hx⟩
    next hup =>
    split at h
    · cases h
    next hshort =>
    dsimp only at h
    split at h
    · next hentry =>
      obtain ⟨d, hway, hx⟩ := ih h
      exact ⟨d, .down hidle hup (Nat.not_lt.1 hshort) hentry hway, hx⟩
    · simp at h
    · simp [hlast] at h

/-- One name that is not too long leads from a directory somewhere, and not to a place for a
directory only. -/
theorem exists_walk_singleton (t : Tree) (d : Location) {name : String}
    (h : name.utf8ByteSize ≤ longestName) :
    ∃ x, t.walk d [name] = .ok x ∧ ∀ place, x ≠ .vacant place true := by
  simp only [walk, if_neg (Nat.not_lt.2 h)]
  split
  · exact ⟨_, rfl, by simp⟩
  split
  · exact ⟨_, rfl, by simp⟩
  split
  · exact ⟨_, rfl, by simp⟩
  · exact ⟨_, rfl, by simp⟩
  · exact ⟨_, rfl, by simp⟩

end

/-! ## Files that have come -/

/-- A file stands at the place. -/
def HasFile (t : Tree) (place : Location) : Prop :=
  ∃ contents, t.entry? place = some (.file contents)

/-- From `t` to `t'` files have come to these places at most. -/
structure GainsOnly (new : Location → Prop) (t t' : Tree) : Prop where
  home : t'.home = t.home
  device : t'.device = t.device
  files : ∀ place, t'.HasFile place → t.HasFile place ∨ new place

namespace GainsOnly

variable {new new' : Location → Prop} {t t' t'' : Tree}

theorem refl (new : Location → Prop) (t : Tree) : GainsOnly new t t :=
  ⟨rfl, rfl, fun _ => .inl⟩

theorem mono (h : GainsOnly new t t') (hnew : ∀ place, new place → new' place) :
    GainsOnly new' t t' :=
  ⟨h.home, h.device, fun place hfile => (h.files place hfile).imp_right (hnew place)⟩

/-- Asking a device brings no file by itself. -/
theorem next (h : GainsOnly new t t') : GainsOnly new t t'.next :=
  ⟨h.home, h.device, h.files⟩

theorem trans (h : GainsOnly new t t') (h' : GainsOnly new t' t'') : GainsOnly new t t'' := by
  refine ⟨h'.home.trans h.home, h'.device.trans h.device, fun place hfile => ?_⟩
  rcases h'.files place hfile with hbefore | hnew
  · exact h.files place hbefore
  · exact .inr hnew

end GainsOnly

section

variable {t : Tree} {place q : Location}

theorem hasFile_put_file (contents : List UInt8) (h : (t.put place (.file contents)).HasFile q) :
    q = place ∨ t.HasFile q := by
  by_cases hq : q = place
  · exact .inl hq
  · obtain ⟨c, hc⟩ := h
    rw [entry?_put_of_ne t _ hq] at hc
    exact .inr ⟨c, hc⟩

theorem hasFile_put_directory (h : (t.put place .directory).HasFile q) : t.HasFile q := by
  obtain ⟨c, hc⟩ := h
  by_cases hq : q = place
  · subst hq
    by_cases hroot : q = []
    · simp [hroot, entry?] at hc
    · rw [entry?_put_self t _ hroot] at hc
      cases hc
  · rw [entry?_put_of_ne t _ hq] at hc
    exact ⟨c, hc⟩

/-- A file that is left after a cut does not stand at the place of the cut. -/
theorem hasFile_cut (h : (t.cut place).HasFile q) : q ≠ place ∧ t.HasFile q := by
  obtain ⟨c, hc⟩ := h
  by_cases hq : place <+: q
  · exfalso
    have hnone : (t.cut place).entries.lookup q = none := by
      rw [List.lookup_eq_none_iff]
      intro x hx
      have hkept : place.isPrefixOf x.1 = false := by
        simpa [cut] using (List.mem_filter.1 hx).2
      have hne : q ≠ x.1 := by
        rintro rfl
        rw [List.isPrefixOf_iff_prefix.2 hq] at hkept
        cases hkept
      exact bne_iff_ne.2 hne
    unfold entry? at hc
    split at hc
    · cases hc
    · rw [hnone] at hc
      cases hc
  · rw [entry?_cut t hq] at hc
    exact ⟨fun heq => hq (heq ▸ List.prefix_refl _), c, hc⟩

end

/-! ## Requests -/

variable {t t' : Tree} {place : Location} {p q : String}

/-- A file that has been put where a file goes stands there. -/
theorem entry?_put_of_fileAt (h : t.fileAt p = .ok place) (contents : List UInt8) :
    Tree.entry? (t.put place (.file contents)) place = some (.file contents) := by
  obtain ⟨-, -, hfree⟩ := fileAt_eq_ok h
  refine t.entry?_put_self _ ?_
  rintro rfl
  exact hfree rfl

theorem put_file_gainsOnly (t : Tree) (place : Location) (contents : List UInt8) :
    GainsOnly (· = place) t (t.put place (.file contents)) :=
  ⟨rfl, rfl, fun _ hfile => (hasFile_put_file contents hfile).symm⟩

theorem write_eq_ok {contents : List UInt8} (h : t.write p contents = (.ok (), t')) :
    t.fileAt p = .ok (t.placeOf p) ∧ t' = (t.put (t.placeOf p) (.file contents)).next := by
  rcases t.write_cases p contents with ⟨r, hrefused⟩ | ⟨hplace, ⟨n, reason, -, -, hbroken⟩ | hdone⟩
  · rw [hrefused] at h
    cases h
  · rw [hbroken] at h
    cases h
  · rw [hdone] at h
    cases h
    exact ⟨hplace, rfl⟩

/-- No files come with directories. -/
theorem makeDir_gainsOnly (t : Tree) (p : String) :
    GainsOnly (fun _ => False) t (t.makeDir p).2 := by
  unfold makeDir
  rcases t.change_cases (t.withDir p) with ⟨t', hmade, hdone⟩ | ⟨r, hfailed, -⟩
  · obtain ⟨-, rfl⟩ := withDir_eq_ok hmade
    rw [hdone]
    exact ⟨rfl, rfl, fun _ hfile => .inl (hasFile_put_directory hfile)⟩
  · rw [hfailed]
    exact (GainsOnly.refl _ t).next

theorem makeDirs_gainsOnly (t : Tree) (p : String) :
    GainsOnly (fun _ => False) t (t.makeDirs p).2 := by
  fun_induction makeDirs t p with
  | case1 => exact .refl _ _
  | case2 t p _ t' hfirst _ =>
    have hasked := makeDir_gainsOnly t p
    rw [hfirst] at hasked
    exact hasked
  | case3 t p _ t' hfirst above _ t'' hmade ih =>
    have hasked := makeDir_gainsOnly t p
    rw [hfirst] at hasked
    rw [hmade] at ih
    rw [snd_orStands]
    exact (hasked.trans ih).trans (makeDir_gainsOnly t'' p)
  | case4 t p _ t' hfirst above _ hfailed ih =>
    have hasked := makeDir_gainsOnly t p
    rw [hfirst] at hasked
    exact hasked.trans ih
  | case5 t p =>
    rw [snd_orStands]
    exact makeDir_gainsOnly t p

/-- A move frees the place it starts from, unless it ends there. -/
theorem hasFile_of_rename (h : t.rename p q = (.ok (), t')) :
    t'.home = t.home ∧ t'.device = t.device ∧
      ∀ place, t'.HasFile place → place = t.placeOf q ∨ place ≠ t.placeOf p ∧ t.HasFile place := by
  unfold rename at h
  rcases t.change_cases (t.moved p q) with ⟨t₁, hmoved, hdone⟩ | ⟨r, hfailed, -⟩
  · obtain ⟨contents, rfl⟩ := moved_eq_ok hmoved
    rw [hdone] at h
    cases h
    exact ⟨rfl, rfl, fun place hfile => (hasFile_put_file contents hfile).imp_right hasFile_cut⟩
  · rw [hfailed] at h
    cases h

/-- A move that fails leaves all as it is. -/
theorem rename_eq_error {r : Refusal} (h : t.rename p q = (.error r, t')) :
    t' = t.next ∧ ((∃ r', t.moved p q = .error r') ∨ ∃ m, t.mishap = some m) := by
  unfold rename at h
  rcases t.change_cases (t.moved p q) with ⟨t₁, -, hdone⟩ | ⟨r', hfailed, hcause⟩
  · rw [hdone] at h
    cases h
  · rw [hfailed] at h
    cases h
    exact ⟨rfl, hcause⟩

/-- What went wrong with the change that was asked for last. -/
def latest (t : Tree) : Option Mishap :=
  t.device.mishap (t.asked - 1)

theorem walk_next (t : Tree) (dir : Location) (names : List String) :
    t.next.walk dir names = t.walk dir names := by
  have hentry (place : Location) : t.next.entry? place = t.entry? place := rfl
  induction names generalizing dir with
  | nil => rfl
  | cons name more ih => simp only [walk, hentry, ih]

/-- What a path leads to does not depend on what the device has been asked for. -/
theorem isDirectory_next (t : Tree) (p : String) : t.next.isDirectory p = t.isDirectory p := by
  have hlocate : t.next.locate p = t.locate p := by
    simp only [locate, walk_next]
    rfl
  rw [isDirectory, hlocate, isDirectory]

/-- The path `p` has in place of the last name of `q` one of its own, at least as long. -/
structure Beside (p q : String) : Prop where
  start : Path.isAbsolute q = Path.isAbsolute p
  names : ∃ front a b, Path.components p = front ++ [a] ∧ Path.components q = front ++ [b] ∧
    Path.isStep a = true ∧ a ≠ ".." ∧ b.utf8ByteSize ≤ a.utf8ByteSize
  fits : Fits p → Fits q

/-- Where a file has been written beside a path, it is found, and the path leads somewhere, too. -/
theorem Beside.locate_of_write (h : Beside p q) {contents : List UInt8}
    (hwritten : t.write p contents = (.ok (), t')) :
    t'.locate p = .ok (.found (t.placeOf p) (.file contents)) ∧
      ∃ x, t'.locate q = .ok x ∧ ∀ place, x ≠ .vacant place true := by
  obtain ⟨front, a, b, hp, hq, hstep, hup, hsize⟩ := h.names
  obtain ⟨hgoes, hput⟩ := write_eq_ok hwritten
  obtain ⟨⟨x, hlocate⟩, -, hfree⟩ := fileAt_eq_ok hgoes
  obtain ⟨hfits, hwalk⟩ := locate_eq_ok_iff.1 hlocate
  have hidle : ¬ (a = "" ∨ a = ".") := by simpa [Path.isStep] using hstep
  have hhome : t'.home = t.home := by rw [hput]; rfl
  have hentry : t'.entry? (t.placeOf p) = some (.file contents) := by
    rw [hput]
    exact entry?_put_of_fileAt hgoes contents
  -- a directory is not where the file goes, so it stays
  have hdirs : ∀ dir, t.entry? dir = some .directory → t'.entry? dir = some .directory := by
    intro dir hdir
    have hne : dir ≠ t.placeOf p := by
      rintro rfl
      exact hfree hdir
    rw [hput]
    exact (t.entry?_put_of_ne _ hne).trans hdir
  rw [hp] at hwalk
  obtain ⟨d, hway, hlast⟩ := exists_leads (fun ha => hidle (.inl ha)) hwalk
  have hway' : Leads t' (t.base p) front d := hway.of_directories hdirs
  have hshort : a.utf8ByteSize ≤ longestName := by
    by_contra hlong
    rw [walk, if_neg hidle, if_neg hup, if_pos (Nat.not_le.1 hlong)] at hlast
    cases hlast
  have hplace : t.placeOf p = d ++ [a] := by
    rw [← (place_of_locate hlocate).1, (place_of_walk hlast).1, List.filter_singleton, hstep]
    simp [Location.follow, hup]
  constructor
  · rw [locate_eq_ok_iff, base_of_home hhome, hp, hway'.walk_append, hplace]
    rw [hplace] at hentry
    refine ⟨hfits, ?_⟩
    rw [walk, if_neg hidle, if_neg hup, if_neg (Nat.not_lt.2 hshort)]
    simp [hentry]
  · obtain ⟨y, hy, hfree⟩ := exists_walk_singleton t' d (hsize.trans hshort)
    have hbase : t'.base q = t.base p := by simp [base, h.start, hhome]
    refine ⟨y, locate_eq_ok_iff.2 ⟨h.fits hfits, ?_⟩, hfree⟩
    rw [hbase, hq, hway'.walk_append, hy]

/-- The entries let a file written beside a path be moved there unless a directory stands at it. -/
theorem Beside.isDirectory_of_moved (h : Beside p q) {contents : List UInt8}
    (hwritten : t.write p contents = (.ok (), t')) {r : Refusal}
    (hfailed : t'.moved p q = .error r) : t'.isDirectory q = true := by
  obtain ⟨hsource, x, htarget, hfree⟩ := h.locate_of_write hwritten
  rw [moved, hsource] at hfailed
  simp only [isDirectory, htarget, bind, Except.bind] at hfailed ⊢
  match x, hfree with
  | .found place .directory, _ => rfl
  | .found place (.file _), _ => cases hfailed
  | .vacant place false, _ => cases hfailed
  | .vacant place true, hfree => exact absurd rfl (hfree place)

end AdaGlue.Disk.Tree
