/-
What laid-out text looks like. The edits of a text come to a list of lines, each at a depth, and the
text is a page of these lines, one below the other. Pages that follow each other are one page, so a
file that is written piece by piece can be read as the list of its lines.
-/
import AdaGlue.Layout

namespace AdaGlue

/-- A line and the depth at which it stands. -/
structure Line where
  depth : Nat
  text : String
  deriving DecidableEq, Repr

namespace Line

/-- An empty line has no margin. -/
def written (l : Line) : String :=
  if l.text.isEmpty then "\n" else Buffer.margin l.depth ++ l.text ++ "\n"

end Line

/-- Lines one below the other. -/
def page (lines : List Line) : String :=
  String.join (lines.map (·.written))

@[simp] theorem page_nil : page [] = "" := rfl

@[simp] theorem page_append (front back : List Line) :
    page (front ++ back) = page front ++ page back := by
  simp [page]

theorem page_cons (l : Line) (lines : List Line) : page (l :: lines) = l.written ++ page lines := by
  simp [page]

/-! ## The lines of edits -/

/-- The lines that edits come to from a depth on. -/
def laidOut (depth : Nat) : List Edit → List Line
  | [] => []
  | .line s :: r => ⟨depth, s⟩ :: laidOut depth r
  | .blank :: r => ⟨depth, ""⟩ :: laidOut depth r
  | .indent :: r => laidOut (depth + 1) r
  | .dedent :: r => laidOut (depth - 1) r

/-- The depth behind edits. -/
def depthBehind (depth : Nat) : List Edit → Nat
  | [] => depth
  | .line _ :: r => depthBehind depth r
  | .blank :: r => depthBehind depth r
  | .indent :: r => depthBehind (depth + 1) r
  | .dedent :: r => depthBehind (depth - 1) r

theorem laidOut_append (depth : Nat) (front back : List Edit) :
    laidOut depth (front ++ back) =
      laidOut depth front ++ laidOut (depthBehind depth front) back := by
  induction front generalizing depth with
  | nil => rfl
  | cons e front ih => cases e <;> simp [laidOut, depthBehind, ih]

theorem depthBehind_append (depth : Nat) (front back : List Edit) :
    depthBehind depth (front ++ back) = depthBehind (depthBehind depth front) back := by
  induction front generalizing depth with
  | nil => rfl
  | cons e front ih => cases e <;> simp [depthBehind, ih]

/-- A buffer writes the lines that its edits come to. -/
theorem text_run (b : Buffer) (edits : List Edit) :
    (b.run edits).text = b.text ++ page (laidOut b.depth edits) := by
  induction edits generalizing b with
  | nil => simp [laidOut]
  | cons e edits ih =>
    rw [Buffer.run_cons, ih]
    cases e with
    | line s =>
      by_cases hs : s.isEmpty <;>
        simp [Buffer.apply, Buffer.line, laidOut, page_cons, Line.written, hs, String.append_assoc]
    | blank =>
      simp [Buffer.apply, Buffer.blank, laidOut, page_cons, Line.written, String.append_assoc]
    | indent => rfl
    | dedent => rfl

theorem render_eq_page (edits : List Edit) : render edits = page (laidOut 0 edits) := by
  unfold render
  rw [text_run]
  simp

/-- Pieces that come back to the depth they start at are laid out one by one. -/
theorem laidOut_flatMap {α : Type} {depth : Nat} {piece : α → List Edit} {l : List α}
    (hback : ∀ a ∈ l, depthBehind depth (piece a) = depth) :
    laidOut depth (l.flatMap piece) = l.flatMap (fun a => laidOut depth (piece a)) ∧
      depthBehind depth (l.flatMap piece) = depth := by
  induction l with
  | nil => exact ⟨rfl, rfl⟩
  | cons a l ih =>
    have ha := hback a List.mem_cons_self
    obtain ⟨hlines, hdepth⟩ := ih fun b hb => hback b (List.mem_cons_of_mem _ hb)
    rw [List.flatMap_cons, List.flatMap_cons, laidOut_append, depthBehind_append, ha, hlines,
      hdepth]
    exact ⟨rfl, rfl⟩

/-- Edits that are lines stand at the same depth. -/
theorem laidOut_map_line {α : Type} (depth : Nat) (text : α → String) (l : List α) :
    laidOut depth (l.map fun a => .line (text a)) = l.map (fun a => ⟨depth, text a⟩) ∧
      depthBehind depth (l.map fun a => .line (text a)) = depth := by
  induction l with
  | nil => exact ⟨rfl, rfl⟩
  | cons a l ih =>
    rw [List.map_cons, List.map_cons]
    exact ⟨congrArg _ ih.1, ih.2⟩

/-! ## Edits that keep inside -/

/-- From so many levels in, the edits go back no more levels than there are. -/
def staysWithin (levels : Nat) : List Edit → Bool
  | [] => true
  | .line _ :: r => staysWithin levels r
  | .blank :: r => staysWithin levels r
  | .indent :: r => staysWithin (levels + 1) r
  | .dedent :: r => levels != 0 && staysWithin (levels - 1) r

theorem staysWithin_append (levels : Nat) (front back : List Edit) :
    staysWithin levels (front ++ back) =
      (staysWithin levels front && staysWithin (depthBehind levels front) back) := by
  induction front generalizing levels with
  | nil => rfl
  | cons e front ih => cases e <;> simp [staysWithin, depthBehind, ih, Bool.and_assoc]

theorem staysWithin_flatMap {α : Type} {levels : Nat} {piece : α → List Edit} {l : List α}
    (hback : ∀ a ∈ l, depthBehind levels (piece a) = levels)
    (hwithin : ∀ a ∈ l, staysWithin levels (piece a) = true) :
    staysWithin levels (l.flatMap piece) = true := by
  induction l with
  | nil => rfl
  | cons a l ih =>
    have hrest := ih (fun b hb => hback b (List.mem_cons_of_mem _ hb))
      fun b hb => hwithin b (List.mem_cons_of_mem _ hb)
    rw [List.flatMap_cons, staysWithin_append, hwithin a List.mem_cons_self,
      hback a List.mem_cons_self, hrest]
    rfl

/-- Edits that keep inside a base leave no line further out. -/
theorem le_depth_of_staysWithin {base levels : Nat} {edits : List Edit}
    (h : staysWithin levels edits = true) :
    ∀ l ∈ laidOut (base + levels) edits, base ≤ l.depth := by
  induction edits generalizing levels with
  | nil => simp [laidOut]
  | cons e edits ih =>
    cases e with
    | line s => simpa [laidOut] using ih h
    | blank => simpa [laidOut] using ih h
    | indent =>
      have hrest : staysWithin (levels + 1) edits = true := h
      exact ih hrest
    | dedent =>
      obtain ⟨hpos, hrest⟩ := Bool.and_eq_true_iff.1 h
      have hback : base + levels - 1 = base + (levels - 1) := by
        have : levels ≠ 0 := by simpa using hpos
        omega
      rw [laidOut, hback]
      exact ih hrest

theorem staysWithin_of_le {levels more : Nat} {edits : List Edit} (hle : levels ≤ more)
    (h : staysWithin levels edits = true) : staysWithin more edits = true := by
  induction edits generalizing levels more with
  | nil => rfl
  | cons e edits ih =>
    cases e with
    | line s =>
      have hrest : staysWithin levels edits = true := h
      exact ih hle hrest
    | blank =>
      have hrest : staysWithin levels edits = true := h
      exact ih hle hrest
    | indent =>
      have hrest : staysWithin (levels + 1) edits = true := h
      exact ih (Nat.succ_le_succ hle) hrest
    | dedent =>
      obtain ⟨hpos, hrest⟩ := Bool.and_eq_true_iff.1 h
      have hlevels : levels ≠ 0 := by simpa using hpos
      have hmore : (more != 0) = true := bne_iff_ne.2 (by omega)
      exact Bool.and_eq_true_iff.2 ⟨hmore, ih (by omega) hrest⟩

/-! ## Balanced edits -/

/-- The edits come back to the level at which they start, and go no further back on the way. -/
structure Balanced (edits : List Edit) : Prop where
  within : staysWithin 0 edits = true
  back : ∀ depth, depthBehind depth edits = depth

theorem balanced_lines (texts : List String) : Balanced (texts.map .line) := by
  refine ⟨?_, fun depth => (laidOut_map_line depth id texts).2⟩
  induction texts with
  | nil => rfl
  | cons s texts ih => exact ih

namespace Balanced

theorem within_of_levels {edits : List Edit} (h : Balanced edits) (levels : Nat) :
    staysWithin levels edits = true :=
  staysWithin_of_le (Nat.zero_le levels) h.within

theorem append {front back : List Edit} (hfront : Balanced front) (hback : Balanced back) :
    Balanced (front ++ back) := by
  constructor
  · rw [staysWithin_append, hfront.within, hfront.back, hback.within]
    rfl
  · intro depth
    rw [depthBehind_append, hfront.back, hback.back]

theorem flatMap {α : Type} {piece : α → List Edit} {l : List α}
    (h : ∀ a ∈ l, Balanced (piece a)) : Balanced (l.flatMap piece) where
  within := staysWithin_flatMap (fun a ha => (h a ha).back 0) fun a ha => (h a ha).within
  back := fun depth => (laidOut_flatMap fun a ha => (h a ha).back depth).2

end Balanced

namespace Buffer

theorem depth_run (b : Buffer) (edits : List Edit) :
    (b.run edits).depth = depthBehind b.depth edits := by
  induction edits generalizing b with
  | nil => rfl
  | cons e edits ih =>
    rw [run_cons, ih]
    cases e with
    | line s =>
      have hline : (b.line s).depth = b.depth := by
        unfold line
        split <;> rfl
      rw [apply, hline]
      rfl
    | blank => rfl
    | indent => rfl
    | dedent => rfl

/-- Whenever the edits go back a level, there is one to go back: none is asked for at the margin,
where it would be lost. -/
def DedentsInside (b : Buffer) (edits : List Edit) : Prop :=
  ∀ front back, edits = front ++ .dedent :: back → 0 < (b.run front).depth

theorem dedentsInside_of_staysWithin {b : Buffer} {edits : List Edit}
    (h : staysWithin b.depth edits = true) : b.DedentsInside edits := by
  rintro front back rfl
  rw [staysWithin_append, ← b.depth_run front] at h
  obtain ⟨-, hback⟩ := Bool.and_eq_true_iff.1 h
  obtain ⟨hpos, -⟩ := Bool.and_eq_true_iff.1 hback
  exact Nat.pos_of_ne_zero (bne_iff_ne.1 hpos)

/-- A buffer carries out balanced edits at any depth, and is back at that depth behind them. -/
theorem run_balanced (b : Buffer) {edits : List Edit} (h : Balanced edits) :
    b.DedentsInside edits ∧ (b.run edits).depth = b.depth :=
  ⟨dedentsInside_of_staysWithin (h.within_of_levels b.depth), (b.depth_run edits).trans (h.back _)⟩

end Buffer

/-! ## Parts of a page -/

/-- The text is a page that holds these lines, one right below the other. -/
def Shows (text : String) (lines : List Line) : Prop :=
  ∃ front back, text = page (front ++ lines ++ back)

theorem shows_of_mem {l : Line} {all : List Line} (h : l ∈ all) : Shows (page all) [l] := by
  obtain ⟨front, back, rfl⟩ := List.append_of_mem h
  exact ⟨front, back, by simp⟩

theorem shows_of_infix {lines all : List Line} (h : lines <:+: all) : Shows (page all) lines := by
  obtain ⟨front, back, rfl⟩ := h
  exact ⟨front, back, rfl⟩

/-! ## Lines of a page -/

/-- What is written for a line, without its end. -/
def Line.content (l : Line) : List Char :=
  if l.text.isEmpty then [] else (Buffer.margin l.depth ++ l.text).toList

theorem Line.toList_written (l : Line) : l.written.toList = l.content ++ ['\n'] := by
  unfold written content
  split
  · rfl
  · simp

theorem newline_not_mem_margin (depth : Nat) : '\n' ∉ (Buffer.margin depth).toList := by
  have hstep : '\n' ∉ Buffer.step.toList := by decide
  simp [Buffer.margin, String.toList_join, hstep]

theorem Line.newline_not_mem_content {l : Line} (h : '\n' ∉ l.text.toList) : '\n' ∉ l.content := by
  unfold content
  split
  · simp
  · simp [h, newline_not_mem_margin]

/-- Two texts that are alike have the same first line. -/
theorem first_line_eq {a b r s : List Char} (ha : '\n' ∉ a) (hb : '\n' ∉ b)
    (h : a ++ '\n' :: r = b ++ '\n' :: s) : a = b ∧ r = s := by
  induction a generalizing b with
  | nil =>
    cases b with
    | nil => exact ⟨rfl, (List.cons.inj h).2⟩
    | cons c b => exact (hb (List.mem_cons.2 (.inl (List.cons.inj h).1))).elim
  | cons c a ih =>
    cases b with
    | nil => exact (ha (List.mem_cons.2 (.inl (List.cons.inj h).1.symm))).elim
    | cons d b =>
      obtain ⟨rfl, htail⟩ := List.cons.inj h
      obtain ⟨rfl, rfl⟩ := ih (fun hm => ha (List.mem_cons_of_mem _ hm))
        (fun hm => hb (List.mem_cons_of_mem _ hm)) htail
      exact ⟨rfl, rfl⟩

theorem toList_page (lines : List Line) :
    (page lines).toList = lines.flatMap fun l => l.content ++ ['\n'] := by
  induction lines with
  | nil => rfl
  | cons l lines ih =>
    rw [page_cons, String.toList_append, ih, Line.toList_written, List.flatMap_cons]

/-- Whatever whole lines stand in front of it, a line of a page is one of its lines. -/
theorem exists_content_eq {lines : List Line} (hplain : ∀ l ∈ lines, '\n' ∉ l.text.toList)
    {a front back : List Char} (ha : '\n' ∉ a) (hfront : front = [] ∨ front.getLast? = some '\n')
    (h : lines.flatMap (fun l => l.content ++ ['\n']) = front ++ (a ++ '\n' :: back)) :
    ∃ l ∈ lines, l.content = a := by
  induction lines generalizing front with
  | nil => simp at h
  | cons l lines ih =>
    have hl := Line.newline_not_mem_content (hplain l List.mem_cons_self)
    rw [List.flatMap_cons, List.append_assoc] at h
    rcases hfront with rfl | hlast
    · exact ⟨l, List.mem_cons_self, (first_line_eq hl ha h).1⟩
    · -- the first line of what stands in front is the first line of the page
      have hmem : '\n' ∈ front := List.mem_of_getLast? hlast
      obtain ⟨b, rest, rfl, hb⟩ := List.eq_append_cons_of_mem hmem
      rw [List.append_assoc] at h
      obtain ⟨-, htail⟩ := first_line_eq hl hb h
      have hrest : rest = [] ∨ rest.getLast? = some '\n' := by
        rcases rest with _ | ⟨c, rest⟩
        · exact .inl rfl
        · right; simpa using hlast
      obtain ⟨m, hm, hcontent⟩ := ih (fun m hm => hplain m (List.mem_cons_of_mem _ hm)) hrest htail
      exact ⟨m, List.mem_cons_of_mem _ hm, hcontent⟩

/-- A line that a page shows is written like one of its lines. -/
theorem exists_written_eq_of_shows {lines : List Line} (hplain : ∀ l ∈ lines, '\n' ∉ l.text.toList)
    {l : Line} (hl : '\n' ∉ l.text.toList) (h : Shows (page lines) [l]) :
    ∃ m ∈ lines, m.written = l.written := by
  obtain ⟨front, back, htext⟩ := h
  have hchars := congrArg String.toList htext
  rw [page_append, page_append, String.toList_append, String.toList_append, toList_page, toList_page,
    toList_page, toList_page, List.append_assoc] at hchars
  -- the lines in front end like all lines
  have hfront : (page front).toList = [] ∨ (page front).toList.getLast? = some '\n' := by
    rcases List.eq_nil_or_concat front with rfl | ⟨front, m, rfl⟩
    · exact .inl rfl
    · right; simp [toList_page]
  rw [toList_page] at hfront
  obtain ⟨m, hm, hcontent⟩ := exists_content_eq hplain (Line.newline_not_mem_content hl) hfront
    (by simpa using hchars)
  refine ⟨m, hm, String.toList_inj.1 ?_⟩
  rw [Line.toList_written, Line.toList_written, hcontent]

/-- A line that no line of a page is written like is not on it. -/
theorem not_shows_of_written_ne {lines : List Line} {l : Line} (hl : '\n' ∉ l.text.toList)
    (h : ∀ x ∈ lines, '\n' ∉ x.text.toList ∧ x.written ≠ l.written) : ¬ Shows (page lines) [l] := by
  intro hshows
  obtain ⟨x, hx, hwritten⟩ := exists_written_eq_of_shows (fun x hx => (h x hx).1) hl hshows
  exact (h x hx).2 hwritten

end AdaGlue
