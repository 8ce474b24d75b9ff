/-
What stands in the skeleton files of a function: the lines of its preamble, then those of each
interface in order, then the timers, the instance of a generic and the end. The body is there only
where the user has none yet.
-/
import AdaGlue.Proofs.Wrappers.Contents

namespace AdaGlue

open Emission (Adds)

namespace Skeletons

/-! ## Steps -/

/-- What an interface adds to the declaration. -/
def interfaceDecl (f : FunctionBlock) (i : Interface) : List Edit :=
  match i.direction with
  | .provided => providedDecl f i
  | .required => requiredDecl f i

/-- What it adds to the body. -/
def interfaceBody (i : Interface) : List Edit :=
  match i.direction with
  | .provided => providedStub i
  | .required => []

/-- The lines of two parts of text, one for each skeleton file. -/
def linesIn (decl body : List Edit) : Destination → List Line
  | .skeletonDecl => laidOut 0 decl
  | .skeletonBody => laidOut 0 body
  | _ => []

theorem write_adds (e : Emission) (decl body : List Edit) :
    Adds e ((e.write .skeletonDecl (render decl)).write .skeletonBody (render body))
      (linesIn decl body) := by
  have hboth := (Adds.write e .skeletonDecl decl).trans (Adds.write _ .skeletonBody body)
  intro k
  rw [hboth k]
  cases k <;> simp [linesIn]

theorem emit_adds (e : Emission) (i : Interface) :
    Adds e (emit e i) (linesIn (interfaceDecl e.function i) (interfaceBody i)) := by
  unfold emit interfaceDecl interfaceBody
  cases i.direction with
  | provided => exact write_adds e (providedDecl e.function i) (providedStub i)
  | required =>
    intro k
    rw [(Adds.write e .skeletonDecl (requiredDecl e.function i)) k]
    cases k <;> simp [linesIn, laidOut]

/-- All interfaces add their lines one after the other. -/
theorem foldl_emit_adds (l : List Interface) (e : Emission) :
    Adds e (l.foldl emit e) fun k =>
      l.flatMap fun i => linesIn (interfaceDecl e.function i) (interfaceBody i) k := by
  induction l generalizing e with
  | nil => exact .of_drafts_eq rfl
  | cons i l ih =>
    have hrest := ih (emit e i)
    rw [(emit_grows e i).function] at hrest
    exact (emit_adds e i).trans hrest

/-! ## Whole files -/

/-- The files that are opened, the body unless it has been found. -/
def openFiles (found : Bool) (f : FunctionBlock) : Emission :=
  let e := (Emission.start f .skeletons).openTo .skeletonDecl
  if found then e.report (bodyPreserved f) else e.openTo .skeletonBody

theorem begin_adds (o : Options) (found : Bool) (f : FunctionBlock) :
    Adds (openFiles found f) (begin o found f) (linesIn (declPreamble o f) (bodyPreamble f)) :=
  write_adds (openFiles found f) (declPreamble o f) (bodyPreamble f)

/-- All lines of a skeleton file. -/
def fileLines (o : Options) (f : FunctionBlock) (k : Destination) : List Line :=
  linesIn (declPreamble o f) (bodyPreamble f) k ++
    f.interfaces.flatMap (fun i => linesIn (interfaceDecl f i) (interfaceBody i) k) ++
    linesIn (declEnd o f) (bodyEnd f) k

theorem get_openFiles (found : Bool) (f : FunctionBlock) :
    (openFiles found f).drafts.get .skeletonDecl = some "" ∧
      (openFiles found f).drafts.get .skeletonBody = if found then none else some "" := by
  cases found <;> exact ⟨rfl, rfl⟩

end Skeletons

namespace Setting

/-- The skeleton files that are opened for a function hold these lines. -/
theorem textOf_skeletons_eq_close (s : Setting) (f : FunctionBlock) :
    ∃ e : Emission, s.textOf .skeletons f = e.close ∧ e.function = f ∧
      ∀ k, e.drafts.get k =
        ((Skeletons.openFiles (s.occupied (Skeletons.bodyPath f)) f).drafts.get k).map
          (· ++ page (Skeletons.fileLines s.options f k)) := by
  have hfront := Skeletons.begin_adds s.options (s.occupied (Skeletons.bodyPath f)) f
  have hfun := Skeletons.function_begin s.options (s.occupied (Skeletons.bodyPath f)) f
  have hmid := Skeletons.foldl_emit_adds f.interfaces
    (Skeletons.begin s.options (s.occupied (Skeletons.bodyPath f)) f)
  rw [hfun] at hmid
  have hlast := (Skeletons.foldl_emit_grows f.interfaces
    (Skeletons.begin s.options (s.occupied (Skeletons.bodyPath f)) f)).function.trans hfun
  have hend := Skeletons.write_adds (f.interfaces.foldl Skeletons.emit
    (Skeletons.begin s.options (s.occupied (Skeletons.bodyPath f)) f))
    (Skeletons.declEnd s.options f) (Skeletons.bodyEnd f)
  refine ⟨_, s.textOf_eq ?_, ?_, (hfront.trans hmid).trans hend⟩
  · rw [generateFunction_skeletons, Skeletons.finish]
    simp only [Emission.function_write, hlast]
  · simp only [Emission.function_write, hlast]

variable {s : Setting} {out : Output} (h : s.generate = .ok out)

include h

/-- A function that gets a skeleton has its declaration, and its body unless the user has one, and
they hold the lines of its skeleton. -/
theorem text?_skeletons {f : FunctionBlock} (hf : f ∈ s.view.functions) (hgets : s.GetsSkeleton f) :
    out.text? f.name .skeletonDecl =
        some (page (Skeletons.fileLines s.options f .skeletonDecl)) ∧
      (s.occupied (Skeletons.bodyPath f) = false → out.text? f.name .skeletonBody =
        some (page (Skeletons.fileLines s.options f .skeletonBody))) := by
  obtain ⟨e, htext, hfun, hdrafts⟩ := s.textOf_skeletons_eq_close f
  obtain ⟨hdecl, hbody⟩ := Skeletons.get_openFiles (s.occupied (Skeletons.bodyPath f)) f
  have hone : ∀ k, (Skeletons.openFiles (s.occupied (Skeletons.bodyPath f)) f).drafts.get k =
      some "" → out.text? f.name k = some (page (Skeletons.fileLines s.options f k)) := by
    intro k hk
    have hmem : ⟨f.name, k, k.path f.name, page (Skeletons.fileLines s.options f k)⟩ ∈
        (s.textOf .skeletons f).files := by
      rw [htext]
      refine Emission.mem_files.2 ⟨k, _, ?_, by rw [hfun]⟩
      rw [hdrafts, hk, Option.map_some, String.empty_append]
    exact text?_of_mem_textOf h hf ((s.skeletons_mem_backendsFor_iff f).2 hgets) hmem
  refine ⟨hone _ hdecl, fun hfree => hone _ ?_⟩
  rw [hbody, hfree]
  rfl

end Setting

end AdaGlue
