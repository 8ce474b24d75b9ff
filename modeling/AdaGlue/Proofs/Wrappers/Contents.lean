/-
What stands in the wrapper files of a function whose wrappers are written here: the lines of its
preamble, then those of each interface in order, then the synchronous entries together, then the
end. Each step of the generation adds lines to the files that are open and takes none away, so the
files can be read off the steps.
-/
import AdaGlue.Proofs.Generation.FileSet
import AdaGlue.Proofs.Layout

namespace AdaGlue

open Emission (Grows)

/-! ## Steps that add lines -/

namespace Emission

/-- From `e` to `e'` these lines are added to each file, as far as it is open. -/
def Adds (e e' : Emission) (lines : Destination → List Line) : Prop :=
  ∀ k, e'.drafts.get k = (e.drafts.get k).map (· ++ page (lines k))

namespace Adds

variable {e e' e'' : Emission} {lines lines' : Destination → List Line}

theorem of_drafts_eq (h : e'.drafts = e.drafts) : Adds e e' fun _ => [] := by
  intro k
  rw [h]
  cases e.drafts.get k <;> simp

theorem trans (h : Adds e e' lines) (h' : Adds e' e'' lines') :
    Adds e e'' fun k => lines k ++ lines' k := by
  intro k
  rw [h' k, h k]
  cases e.drafts.get k <;> simp [String.append_assoc]

theorem write (e : Emission) (k : Destination) (edits : List Edit) :
    Adds e (e.write k (render edits)) fun l => if l = k then laidOut 0 edits else [] := by
  intro l
  rw [get_write, render_eq_page]
  by_cases hl : l = k
  · simp [hl]
  · cases e.drafts.get l <;> simp [hl]

end Adds

end Emission

open Emission (Adds)

namespace Wrappers

/-- The lines that a fragment adds to a file, where its parts go to these two. -/
def Fragment.linesIn (p : Fragment) (pair : Destination × Destination) (k : Destination) :
    List Line :=
  if k = pair.1 then laidOut 0 p.decl else if k = pair.2 then laidOut 0 p.body else []

theorem placed_ne (x : Placement) : (placed x).1 ≠ (placed x).2 := by
  cases x <;> decide

theorem writeFragment_adds (e : Emission) (x : Placement) (p : Fragment) :
    Adds e (writeFragment e (placed x).1 (placed x).2 p) (p.linesIn (placed x)) := by
  have hboth := (Adds.write e (placed x).1 p.decl).trans (Adds.write _ (placed x).2 p.body)
  intro k
  rw [writeFragment, hboth k]
  unfold Fragment.linesIn
  have hne := placed_ne x
  by_cases hdecl : k = (placed x).1
  · simp [hdecl, hne]
  · simp [hdecl]

theorem synchronous_writeFragment (e : Emission) (decl body : Destination) (p : Fragment) :
    (writeFragment e decl body p).synchronous = e.synchronous := by
  simp [writeFragment]

theorem foldl_writeFragment_adds (l : List Fragment) (e : Emission) :
    Adds e (l.foldl (fun e p => writeFragment e .wrappersDecl .wrappersBody p) e)
        (fun k => l.flatMap (·.linesIn (placed .wrappers) k)) ∧
      (l.foldl (fun e p => writeFragment e .wrappersDecl .wrappersBody p) e).synchronous =
        e.synchronous := by
  induction l generalizing e with
  | nil => exact ⟨.of_drafts_eq rfl, rfl⟩
  | cons p l ih =>
    obtain ⟨hadds, hsync⟩ := ih (writeFragment e .wrappersDecl .wrappersBody p)
    exact ⟨(writeFragment_adds e .wrappers p).trans hadds,
      hsync.trans (synchronous_writeFragment ..)⟩

theorem writePair_of_open {e : Emission} {x : Placement} (hdecl : e.isOpen (placed x).1 = true)
    (hbody : e.isOpen (placed x).2 = true) (name : String) (p : Fragment) :
    e.writePair (placed x).1 (placed x).2 name (render p.decl) (render p.body) =
      writeFragment e (placed x).1 (placed x).2 p := by
  unfold Emission.writePair
  rw [Emission.require_of_open hdecl hbody]
  rfl

/-! ## The wrapper of an interface -/

/-- The procedure that a decision asks for, and the files it goes to. -/
def procedure? (f : FunctionBlock) (i : Interface) (d : Decision) : Option (Fragment × Placement) :=
  match d.route with
  | .skip | .deferToAggregate => none
  | .forwardToVm _ | .forwardToSibling _ _ _ => some (asyncProvided i d.route, .wrappers)
  | _ => some (required f i d, d.placement)

/-- The lines of the wrapper of an interface. -/
def wrapperLines (v : View) (f : FunctionBlock) (i : Interface) (k : Destination) : List Line :=
  match v.decide f i with
  | .ok d =>
    match procedure? f i d with
    | some (p, x) => p.linesIn (placed x) k
    | none => []
  | .error _ => []

/-- The interface is one of the entries that are written together. -/
def isEntry (i : Interface) : Bool :=
  i.isProvided && (i.isSynchronous && i.binding.language != .qgenC)

theorem syncEntries_eq_filter (f : FunctionBlock) :
    syncEntries f = f.interfaces.filter isEntry := by
  unfold syncEntries FunctionBlock.provided
  rw [List.filter_filter]
  exact List.filter_congr fun i _ => Bool.and_comm _ _

theorem decide_eq_ok {v : View} {f : FunctionBlock} {i : Interface} {d : Decision}
    (h : v.decide f i = .ok d) :
    v.route f i = .ok (d.route, d.diagnostics) ∧ d.convention = .of i ∧ d.placement = .of f i := by
  unfold View.decide at h
  rcases hr : v.route f i with x | ⟨r, ds⟩
  · rw [hr] at h; cases h
  · rw [hr] at h; cases h; exact ⟨rfl, rfl, rfl⟩

/-- A route leads to the entries exactly from those interfaces that are one. -/
theorem route_eq_deferToAggregate_iff {v : View} {f : FunctionBlock} {i : Interface} {r : Route}
    {ds : List Diagnostic} (h : v.route f i = .ok (r, ds)) :
    r = .deferToAggregate ↔ isEntry i = true := by
  unfold isEntry Interface.isProvided Interface.isSynchronous
  obtain ⟨-, hrow⟩ := View.routed_of_route h
  cases hrow with
  | skipped hc => simp [hc]
  | deferred hc hd hs => simp [hc, hd, hs]
  | handedOn _ _ hs | fallen _ _ hs | ofUser _ _ hs => simp [hs]
  | foreign _ hd | called _ hd | flushed _ hd | unflushed _ hd | dispatched _ hd => simp [hd]

/-- The files that a decision may ask for are among those that were opened. -/
theorem isOpen_placed {f : FunctionBlock} {i : Interface} (hi : i ∈ f.interfaces) :
    (openFiles f).isOpen (placed (.of f i)).1 = true ∧
      (openFiles f).isOpen (placed (.of f i)).2 = true := by
  unfold Placement.of
  by_cases h : (f.isThread && i.isRequired && i.isAsynchronous) = true
  · simp only [Bool.and_eq_true] at h
    have hasync : hasAsyncPackage f = true := by
      simp only [hasAsyncPackage, FunctionBlock.hasAsyncRequired, FunctionBlock.required,
        Bool.and_eq_true, List.any_eq_true]
      exact ⟨h.1.1, i, List.mem_filter.2 ⟨hi, h.1.2⟩, h.2⟩
    simp [h, openFiles, hasync, placed]
  · rw [if_neg h]
    unfold openFiles
    dsimp only
    split <;> simp [placed]

theorem isOpen_wrappers (f : FunctionBlock) :
    (openFiles f).isOpen .wrappersDecl = true ∧ (openFiles f).isOpen .wrappersBody = true := by
  unfold openFiles
  dsimp only
  split <;> simp

/-- The wrappers of `f` are being written. -/
structure Ready (f : FunctionBlock) (e : Emission) : Prop where
  function : e.function = f
  opened : ∀ k, e.isOpen k = (openFiles f).isOpen k

theorem Ready.of_grows {f : FunctionBlock} {e e' : Emission} (h : Ready f e) (hgrows : Grows e e') :
    Ready f e' :=
  ⟨hgrows.function.trans h.function, fun k => (hgrows.opened k).trans (h.opened k)⟩

theorem ready_begin (v : View) (f : FunctionBlock) : Ready f (begin v f) :=
  Ready.of_grows ⟨function_openFiles f, fun _ => rfl⟩ (begin_grows v f)

section Steps

variable {v : View} {f : FunctionBlock} {e : Emission}

/-- A decision is followed by writing the procedure it asks for, if any, or by noting an entry. -/
theorem follow_eq (e : Emission) (i : Interface) (d : Decision) :
    follow e i d =
      match procedure? e.function i d with
      | some (p, x) => e.writePair (placed x).1 (placed x).2 i.name (render p.decl) (render p.body)
      | none => if d.route = .deferToAggregate then record e i else e := by
  unfold follow procedure?
  cases d.route <;> rfl

theorem procedure?_eq_some {i : Interface} {d : Decision} {p : Fragment} {x : Placement}
    (h : procedure? f i d = some (p, x)) :
    (x = .wrappers ∨ x = d.placement) ∧ d.route ≠ .deferToAggregate := by
  unfold procedure? at h
  cases hr : d.route <;> simp_all

theorem wrapperLines_of_decide {i : Interface} {d : Decision} (hd : v.decide f i = .ok d)
    (k : Destination) :
    wrapperLines v f i k =
      match procedure? f i d with
      | some (p, x) => p.linesIn (placed x) k
      | none => [] := by
  unfold wrapperLines
  rw [hd]

/-- The files that a procedure goes to are open. -/
theorem isOpen_of_procedure? (hready : Ready f e) {i : Interface} (hi : i ∈ f.interfaces)
    {d : Decision} (hplace : d.placement = .of f i) {p : Fragment} {x : Placement}
    (hp : procedure? f i d = some (p, x)) :
    e.isOpen (placed x).1 = true ∧ e.isOpen (placed x).2 = true := by
  rw [hready.opened, hready.opened]
  rcases (procedure?_eq_some hp).1 with rfl | rfl
  · exact isOpen_wrappers f
  · rw [hplace]; exact isOpen_placed hi

/-- What is decided for an interface is written, or noted for the end. -/
theorem follow_adds (hready : Ready f e) {i : Interface} (hi : i ∈ f.interfaces)
    {d : Decision} (hd : v.decide f i = .ok d) :
    Adds e (follow e i d) (wrapperLines v f i) ∧
      (follow e i d).synchronous = (e.synchronous || isEntry i) := by
  obtain ⟨hroute, -, hplace⟩ := decide_eq_ok hd
  have hentry := route_eq_deferToAggregate_iff hroute
  rw [follow_eq, hready.function, funext (wrapperLines_of_decide hd)]
  rcases hp : procedure? f i d with _ | ⟨p, x⟩
  · simp only
    by_cases hdefer : d.route = .deferToAggregate
    · have hyes := hentry.1 hdefer
      have hboth : (i.isProvided && i.isSynchronous) = true := by
        simp only [isEntry, Bool.and_eq_true] at hyes ⊢
        exact ⟨hyes.1, hyes.2.1⟩
      rw [if_pos hdefer, record, if_pos hboth, hyes, Bool.or_true]
      exact ⟨.of_drafts_eq rfl, rfl⟩
    · have hnot : isEntry i = false := Bool.eq_false_iff.2 fun h => hdefer (hentry.2 h)
      rw [if_neg hdefer, hnot, Bool.or_false]
      exact ⟨.of_drafts_eq rfl, rfl⟩
  · simp only
    have hdefer := (procedure?_eq_some hp).2
    have hnot : isEntry i = false := Bool.eq_false_iff.2 fun h => hdefer (hentry.2 h)
    obtain ⟨hdecl, hbody⟩ := isOpen_of_procedure? hready hi hplace hp
    rw [writePair_of_open hdecl hbody, hnot, Bool.or_false]
    exact ⟨writeFragment_adds e x p, synchronous_writeFragment ..⟩

theorem grows_of_emit {i : Interface} {e' : Emission} (h : emit v e i = .ok e') : Grows e e' := by
  obtain ⟨hdead, hlive⟩ := emit_cases v e i
  rcases hc : deadCall? e.function i with _ | x
  · obtain ⟨e'', he'', hgrows⟩ := hlive hc
    rw [h] at he''
    cases he''
    exact hgrows
  · rw [hdead x hc] at h
    cases h

/-- Nothing is written for the interfaces of a function whose wrappers another generator writes. -/
theorem foldlM_emit_of_foreign (hforeign : e.function.language.isForeign = true)
    (l : List Interface) : l.foldlM (emit v) e = .ok e := by
  induction l with
  | nil => rfl
  | cons i l ih =>
    have hskip : emit v e i = .ok e := by rw [emit, if_pos hforeign]
    rw [List.foldlM_cons, hskip]
    exact ih

variable (hforeign : f.language.isForeign = false)

include hforeign

/-- One interface: its warnings are reported, which touches no file, and the decision followed. -/
theorem emit_eq_ok (hready : Ready f e) {i : Interface} {e' : Emission}
    (h : emit v e i = .ok e') :
    ∃ d, v.decide f i = .ok d ∧ Ready f (e.reportAll d.diagnostics) ∧
      e' = follow (e.reportAll d.diagnostics) i d := by
  unfold emit at h
  rw [hready.function, hforeign, if_neg Bool.false_ne_true] at h
  rcases hd : v.decide f i with x | d
  · rw [hd] at h; cases h
  rw [hd] at h
  cases h
  exact ⟨d, rfl, ⟨hready.function, hready.opened⟩, rfl⟩

/-- One interface adds the lines of its wrapper, and is noted if it is an entry. -/
theorem emit_adds (hready : Ready f e) {i : Interface} (hi : i ∈ f.interfaces) {e' : Emission}
    (h : emit v e i = .ok e') :
    Adds e e' (wrapperLines v f i) ∧ e'.synchronous = (e.synchronous || isEntry i) := by
  obtain ⟨d, hd, hreported, rfl⟩ := emit_eq_ok hforeign hready h
  exact follow_adds hreported hi hd

/-- All interfaces add the lines of their wrappers one after the other. -/
theorem foldlM_emit_adds {l : List Interface} (hl : ∀ i ∈ l, i ∈ f.interfaces) (hready : Ready f e)
    {e' : Emission} (h : l.foldlM (emit v) e = .ok e') :
    Adds e e' (fun k => l.flatMap (wrapperLines v f · k)) ∧
      e'.synchronous = (e.synchronous || l.any isEntry) ∧ Ready f e' := by
  induction l generalizing e with
  | nil =>
    cases h
    exact ⟨.of_drafts_eq rfl, by simp, hready⟩
  | cons i l ih =>
    rw [List.foldlM_cons] at h
    rcases hi : emit v e i with x | e₁
    · rw [hi] at h; cases h
    rw [hi] at h
    obtain ⟨hadds, hsync⟩ := emit_adds hforeign hready (hl i List.mem_cons_self) hi
    obtain ⟨hadds', hsync', hready'⟩ := ih (fun j hj => hl j (List.mem_cons_of_mem _ hj))
      (hready.of_grows (grows_of_emit hi)) h
    refine ⟨hadds.trans hadds', ?_, hready'⟩
    rw [hsync', hsync, List.any_cons, Bool.or_assoc]

end Steps

/-! ## The front and the end -/

/-- The lines of the preambles. -/
def frontLines (v : View) (f : FunctionBlock) (k : Destination) : List Line :=
  (preamble v f).linesIn (placed .wrappers) k ++ (asyncPreamble f).linesIn (placed .asyncWrappers) k

theorem frontLines_wrappersDecl (v : View) (f : FunctionBlock) :
    frontLines v f .wrappersDecl = laidOut 0 (preamble v f).decl := by
  simp [frontLines, Fragment.linesIn, placed]

theorem frontLines_wrappersBody (v : View) (f : FunctionBlock) :
    frontLines v f .wrappersBody = laidOut 0 (preamble v f).body := by
  simp [frontLines, Fragment.linesIn, placed]

theorem frontLines_asyncBody (v : View) (f : FunctionBlock) :
    frontLines v f .asyncBody = laidOut 0 (asyncPreamble f).body := by
  simp [frontLines, Fragment.linesIn, placed]

theorem isOpen_async (f : FunctionBlock) :
    (openFiles f).isOpen .asyncDecl = hasAsyncPackage f ∧
      (openFiles f).isOpen .asyncBody = hasAsyncPackage f := by
  unfold openFiles
  dsimp only
  split
  · next h => simp [h]
  · next h => simp [h]

/-- The opened files, with a remark if another generator writes the wrappers. -/
def announced (f : FunctionBlock) : Emission :=
  if f.language.isForeign then (openFiles f).report (foreignFunction f) else openFiles f

theorem announced_eq (f : FunctionBlock) :
    (announced f).drafts = (openFiles f).drafts ∧ (announced f).synchronous = false := by
  have hstart : (openFiles f).synchronous = false := by
    unfold openFiles Emission.openTo
    dsimp only
    repeat' split
    all_goals rfl
  unfold announced
  split
  · exact ⟨rfl, hstart⟩
  · exact ⟨rfl, hstart⟩

/-- The second pair of files is written to only if it is open, which makes no difference. -/
theorem begin_eq (v : View) (f : FunctionBlock) :
    begin v f =
      writeFragment (writeFragment (announced f) .wrappersDecl .wrappersBody (preamble v f))
        .asyncDecl .asyncBody (asyncPreamble f) := by
  obtain ⟨hdecl, hbody⟩ := isOpen_async f
  have hopen : ∀ k,
      (writeFragment (announced f) .wrappersDecl .wrappersBody (preamble v f)).isOpen k =
        (openFiles f).isOpen k := by
    intro k
    have hsame : (announced f).isOpen k = (openFiles f).isOpen k := by
      rw [Emission.isOpen, (announced_eq f).1, Emission.isOpen]
    simpa [writeFragment] using hsame
  unfold begin
  dsimp only
  rw [← announced]
  split
  · rfl
  · next hclosed =>
    rw [hopen, hdecl] at hclosed
    unfold writeFragment at hopen ⊢
    rw [Emission.write_of_closed _ .asyncDecl, Emission.write_of_closed _ .asyncBody]
    · rw [hopen, hbody]; simpa using hclosed
    · rw [hopen, hdecl]; simpa using hclosed

theorem begin_adds (v : View) (f : FunctionBlock) :
    Adds (openFiles f) (begin v f) (frontLines v f) ∧ (begin v f).synchronous = false := by
  obtain ⟨hdrafts, hsync⟩ := announced_eq f
  rw [begin_eq v f]
  constructor
  · exact (Adds.of_drafts_eq hdrafts).trans
      ((writeFragment_adds _ .wrappers _).trans (writeFragment_adds _ .asyncWrappers _))
  · rw [synchronous_writeFragment, synchronous_writeFragment, hsync]

/-- The lines of the entries that are written together. -/
def entryLines (f : FunctionBlock) (k : Destination) : List Line :=
  (aggregate f).flatMap (·.linesIn (placed .wrappers) k)

/-- The lines behind all else. -/
def endLines (f : FunctionBlock) (k : Destination) : List Line :=
  laidOut 0 <|
    match k with
    | .wrappersDecl => endLine (Ada.wrappersPackage f.name)
    | .wrappersBody => bodyEnd f !(syncEntries f).isEmpty
    | .asyncDecl | .asyncBody => endLine (Ada.asyncPackage f.name)
    | .skeletonDecl | .skeletonBody => []

theorem aggregate_of_no_entries {f : FunctionBlock} (h : syncEntries f = []) :
    aggregate f = [] := by
  simp [aggregate, shieldedEntries, plainEntries, h, given]

section Finish

variable {f : FunctionBlock} {e : Emission} (hready : Ready f e)

include hready

/-- Behind the entries stand the ends of the packages. -/
theorem finish_adds_ends :
    ∃ e', finish e = e'.close ∧ e'.function = f ∧ Adds (synthesize e) e' fun k =>
      if k = .wrappersBody then laidOut 0 (bodyEnd f (synthesize e).synchronous)
      else endLines f k := by
  have hfun : (synthesize e).function = f := (synthesize_grows e).function.trans hready.function
  unfold finish
  dsimp only
  rw [hfun]
  refine ⟨_, rfl, by simp [hfun], ?_⟩
  have hends := (((Adds.write (synthesize e) .wrappersBody
    (bodyEnd f (synthesize e).synchronous)).trans
    (Adds.write _ .wrappersDecl (endLine (Ada.wrappersPackage f.name)))).trans
    (Adds.write _ .asyncDecl (endLine (Ada.asyncPackage f.name)))).trans
    (Adds.write _ .asyncBody (endLine (Ada.asyncPackage f.name)))
  intro k
  rw [hends k]
  cases k <;> simp [endLines, laidOut]

variable (hsync : e.synchronous = !(syncEntries f).isEmpty)

include hsync

theorem synthesize_adds :
    Adds e (synthesize e) (entryLines f) ∧ (synthesize e).synchronous = e.synchronous := by
  unfold synthesize entryLines
  rw [hready.function]
  split
  · exact foldl_writeFragment_adds (aggregate f) e
  · next hnone =>
    have hempty : syncEntries f = [] := by simpa [hsync] using hnone
    rw [aggregate_of_no_entries hempty]
    exact ⟨.of_drafts_eq rfl, rfl⟩

/-- The end of the generation adds the entries and the ends of the packages. -/
theorem finish_adds :
    ∃ e', finish e = e'.close ∧ Adds e e' (fun k => entryLines f k ++ endLines f k) ∧
      e'.function = f := by
  obtain ⟨hadds, hsame⟩ := synthesize_adds hready hsync
  obtain ⟨e', hclose, hfun, hends⟩ := finish_adds_ends hready
  refine ⟨e', hclose, ?_, hfun⟩
  intro k
  rw [(hadds.trans hends) k, hsame, hsync]
  cases k <;> simp [endLines]

end Finish

/-! ## Whole files -/

/-- All lines of a wrapper file. -/
def fileLines (v : View) (f : FunctionBlock) (k : Destination) : List Line :=
  frontLines v f k ++ f.interfaces.flatMap (wrapperLines v f · k) ++
    (entryLines f k ++ endLines f k)

theorem get_openFiles {f : FunctionBlock} {k : Destination} (hk : (openFiles f).isOpen k = true) :
    (openFiles f).drafts.get k = some "" := by
  unfold openFiles at hk ⊢
  dsimp only at hk ⊢
  split at hk
  · next h =>
    rw [if_pos h]
    cases k <;> first | rfl | simp at hk
  · next h =>
    rw [if_neg h]
    cases k <;> first | rfl | simp at hk

end Wrappers

namespace Setting

variable (s : Setting) {f : FunctionBlock}

/-- The wrappers of a function without a dead call are those that its interfaces end with. -/
theorem textOf_wrappers_eq_finish (hlive : Backend.wrappers.fault? f = none) :
    ∃ e, f.interfaces.foldlM (Wrappers.emit s.view) (Wrappers.begin s.view f) = .ok e ∧
      s.textOf .wrappers f = Wrappers.finish e := by
  have hrun := (Wrappers.foldlM_emit s.view f.interfaces (Wrappers.begin s.view f)).2
  rw [(Wrappers.ready_begin s.view f).function] at hrun
  obtain ⟨e, he, -⟩ := hrun hlive
  refine ⟨e, he, s.textOf_eq ?_⟩
  rw [generateFunction_wrappers, he]
  rfl

variable (hforeign : f.language.isForeign = false)

include hforeign

/-- For a function without a dead call the wrapper files that are opened hold these lines. -/
theorem textOf_wrappers_eq_close (hlive : Backend.wrappers.fault? f = none) :
    ∃ e : Emission, s.textOf .wrappers f = e.close ∧ e.function = f ∧
      ∀ k, e.drafts.get k =
        ((Wrappers.openFiles f).drafts.get k).map (· ++ page (Wrappers.fileLines s.view f k)) := by
  have hfront := Wrappers.begin_adds s.view f
  obtain ⟨e, he, htext⟩ := s.textOf_wrappers_eq_finish hlive
  obtain ⟨hadds, hsync, hready'⟩ :=
    Wrappers.foldlM_emit_adds hforeign (fun _ hi => hi) (Wrappers.ready_begin s.view f) he
  -- an entry has been noted exactly if there is one
  have hnoted : e.synchronous = !(Wrappers.syncEntries f).isEmpty := by
    rw [hsync, hfront.2, Wrappers.syncEntries_eq_filter, Bool.eq_iff_iff]
    simp
  obtain ⟨e', hclose, hadds', hfun⟩ := Wrappers.finish_adds hready' hnoted
  exact ⟨e', htext.trans hclose, hfun, (hfront.1.trans hadds).trans hadds'⟩

theorem mem_files_textOf_wrappers (hlive : Backend.wrappers.fault? f = none) {k : Destination}
    (hk : (Wrappers.openFiles f).isOpen k = true) :
    ⟨f.name, k, k.path f.name, page (Wrappers.fileLines s.view f k)⟩ ∈
      (s.textOf .wrappers f).files := by
  obtain ⟨e, htext, hfun, hdrafts⟩ := s.textOf_wrappers_eq_close hforeign hlive
  rw [htext]
  refine Emission.mem_files.2 ⟨k, _, ?_, by rw [hfun]⟩
  rw [hdrafts, Wrappers.get_openFiles hk]
  simp

end Setting

/-- Every wrapper file begins with the lines of its preamble, also for a function whose wrappers
another generator writes. -/
theorem Setting.textOf_wrappers_front (s : Setting) {f : FunctionBlock}
    (hlive : Backend.wrappers.fault? f = none) :
    ∃ e : Emission, s.textOf .wrappers f = e.close ∧ e.function = f ∧
      ∀ k, ∃ rest, e.drafts.get k = ((Wrappers.openFiles f).drafts.get k).map
        (· ++ page (Wrappers.frontLines s.view f k ++ rest)) := by
  cases hforeign : f.language.isForeign with
  | false =>
    obtain ⟨e, htext, hfun, hdrafts⟩ := s.textOf_wrappers_eq_close hforeign hlive
    refine ⟨e, htext, hfun, fun k => ⟨f.interfaces.flatMap (Wrappers.wrapperLines s.view f · k) ++
      (Wrappers.entryLines f k ++ Wrappers.endLines f k), ?_⟩⟩
    rw [hdrafts k, Wrappers.fileLines, List.append_assoc]
  | true =>
    obtain ⟨hfront, hnone⟩ := Wrappers.begin_adds s.view f
    have hready := Wrappers.ready_begin s.view f
    obtain ⟨e₀, he₀, htext⟩ := s.textOf_wrappers_eq_finish hlive
    rw [Wrappers.foldlM_emit_of_foreign (by rw [hready.function, hforeign])] at he₀
    cases he₀
    obtain ⟨e, hclose, hfun, hends⟩ := Wrappers.finish_adds_ends hready
    -- no interface has been noted, so no entries are written
    have hsame : Wrappers.synthesize (Wrappers.begin s.view f) = Wrappers.begin s.view f := by
      rw [Wrappers.synthesize, hnone, if_neg Bool.false_ne_true]
    rw [hsame] at hends
    exact ⟨e, htext.trans hclose, hfun, fun k => ⟨_, (hfront.trans hends) k⟩⟩

/-- The text of a function's file of that kind. -/
def Output.text? (out : Output) (function : String) (k : Destination) : Option String :=
  (out.files.find? fun g => (g.function, g.kind) == (function, k)).map (·.contents)

namespace Setting

variable {s : Setting} {out : Output} (h : s.generate = .ok out)

include h

/-- A file of a run is the only one of its function and kind. -/
theorem text?_of_mem_files {g : GeneratedFile} (hg : g ∈ out.files) :
    out.text? g.function g.kind = some g.contents := by
  have hfind := (find?_name_eq_some_iff (s.files_kind_nodup h)).2 ⟨hg, rfl⟩
  unfold Output.text?
  rw [hfind]
  rfl

/-- So is one that a backend writes for a function. -/
theorem text?_of_mem_textOf {f : FunctionBlock} (hf : f ∈ s.view.functions) {b : Backend}
    (hb : b ∈ s.backendsFor f) {g : GeneratedFile} (hg : g ∈ (s.textOf b f).files) :
    out.text? g.function g.kind = some g.contents := by
  obtain ⟨-, rfl⟩ := s.generate_eq_ok_iff.1 h
  refine text?_of_mem_files h ?_
  simp only [Output.concat, outputFor, List.flatMap_map, List.mem_flatMap]
  exact ⟨f, hf, b, hb, hg⟩

/-- Where wrappers are made, a function that no other generator writes has its wrapper files, and
they hold the lines of its wrappers. -/
theorem text?_wrappers (hwanted : s.options.WantsWrappers) {f : FunctionBlock}
    (hf : f ∈ s.view.functions) (hforeign : f.language.isForeign = false) {k : Destination}
    (hk : (Wrappers.openFiles f).isOpen k = true) :
    out.text? f.name k = some (page (Wrappers.fileLines s.view f k)) := by
  have hruns : .wrappers ∈ s.backendsFor f := by
    refine (s.wrappers_mem_backendsFor_iff f).2 ⟨hwanted, fun hc => ?_⟩
    rw [hc.1] at hforeign
    cases hforeign
  have hlive := s.job_live (s.generate_eq_ok_iff.1 h).1 hf hruns
  exact text?_of_mem_textOf h hf hruns (s.mem_files_textOf_wrappers hforeign hlive hk)

/-- Every function that gets wrappers has its wrapper files, and they begin with the lines of their
preambles. -/
theorem text?_wrappers_front {f : FunctionBlock} (hf : f ∈ s.view.functions)
    (hgets : s.GetsWrappers f) {k : Destination} (hk : (Wrappers.openFiles f).isOpen k = true) :
    ∃ rest, out.text? f.name k = some (page (Wrappers.frontLines s.view f k ++ rest)) := by
  have hruns := (s.wrappers_mem_backendsFor_iff f).2 hgets
  have hlive := s.job_live (s.generate_eq_ok_iff.1 h).1 hf hruns
  obtain ⟨e, htext, hfun, hdrafts⟩ := s.textOf_wrappers_front hlive
  obtain ⟨rest, hrest⟩ := hdrafts k
  rw [Wrappers.get_openFiles hk, Option.map_some, String.empty_append] at hrest
  have hmem : ⟨f.name, k, k.path f.name, page (Wrappers.frontLines s.view f k ++ rest)⟩ ∈
      (s.textOf .wrappers f).files := by
    rw [htext]
    exact Emission.mem_files.2 ⟨k, _, hrest, by rw [hfun]⟩
  exact ⟨rest, text?_of_mem_textOf h hf hruns hmem⟩

end Setting

end AdaGlue
