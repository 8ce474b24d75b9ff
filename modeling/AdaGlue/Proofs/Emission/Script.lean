/-
What an emission comes to, read off the whole list of requests that were made to it. A file is there
if it was opened at all, and holds what was written to it since it was opened first. The diagnostics
are those that were reported, with one more wherever files were asked for that had not been opened
by then.
-/
import AdaGlue.Proofs.Emission
import Mathlib.Data.List.Induction
import Mathlib.Data.List.TakeWhile

namespace AdaGlue

/-- A request to an emission. -/
inductive Request where
  | openTo (k : Destination)
  | write (k : Destination) (buffer : Buffer)
  | require (kinds : List Destination) (interface : String)
  | report (d : Diagnostic)
  | recordSynchronous
  deriving DecidableEq, Repr

namespace Request

/-! ## The history of a list of requests -/

/-- The text that a request has for files of that kind. -/
def textFor? (k : Destination) : Request → Option String
  | .write l buffer => if l = k then some buffer.text else none
  | _ => none

/-- What is written to files of that kind, from the first time that they are opened. -/
def writtenTo (k : Destination) (script : List Request) : String :=
  String.join ((script.dropWhile (· ≠ .openTo k)).filterMap (·.textFor? k))

/-- What is said of `f` on a request, after those of the past. -/
def remarks (f : FunctionBlock) (past : List Request) : Request → List Diagnostic
  | .report d => [d]
  | .require kinds interface =>
    let lacking := kinds.filter fun k => .openTo k ∉ past
    if lacking = [] then []
    else
      [{ code := .missingDestination, stage := .emit, severity := .warning
         function := some f.name, interface := some interface
         message := ", ".intercalate (lacking.map fun k => f.name ++ k.ending) ++
           " not open; interface " ++ Text.quoted interface ++ " skipped" }]
  | _ => []

/-- What is said of `f` on all requests, one after the other. -/
def allRemarks (f : FunctionBlock) (script : List Request) : List Diagnostic :=
  script.zipIdx.flatMap fun x => x.1.remarks f (script.take x.2)

theorem openTo_mem_iff (k : Destination) (script : List Request) :
    .openTo k ∈ script ↔ script.dropWhile (· ≠ .openTo k) ≠ [] := by
  simp [List.dropWhile_eq_nil_iff]

/-- One more request adds its text, provided that the file was opened before. -/
theorem writtenTo_concat (k : Destination) (script : List Request) (r : Request) :
    writtenTo k (script ++ [r]) =
      if .openTo k ∈ script then writtenTo k script ++ (r.textFor? k).getD "" else "" := by
  unfold writtenTo
  rw [List.dropWhile_append]
  by_cases hopen : .openTo k ∈ script
  · have hsome := (openTo_mem_iff k script).1 hopen
    rw [if_neg (by simpa using hsome), if_pos hopen, List.filterMap_append]
    cases h : r.textFor? k <;> simp [h]
  · have hnone : script.dropWhile (· ≠ .openTo k) = [] := by
      by_contra h
      exact hopen ((openTo_mem_iff k script).2 h)
    rw [hnone, if_pos List.isEmpty_nil, if_neg hopen]
    by_cases hr : r = .openTo k
    · simp [hr, textFor?]
    · simp [hr]

theorem allRemarks_concat (f : FunctionBlock) (script : List Request) (r : Request) :
    allRemarks f (script ++ [r]) = allRemarks f script ++ r.remarks f script := by
  unfold allRemarks
  rw [List.zipIdx_append, List.flatMap_append]
  congr 1
  · refine List.flatMap_congr fun x hx => ?_
    have hlt : x.2 < script.length := by
      have := List.snd_lt_of_mem_zipIdx hx
      omega
    rw [List.take_append_of_le_length hlt.le]
  · simp

end Request

namespace Emission

/-! ## Serving requests -/

/-- The emission after a request. -/
def serve (e : Emission) : Request → Emission
  | .openTo k => e.openTo k
  | .write k buffer => e.write k buffer.text
  | .require kinds interface => (e.require kinds interface).2
  | .report d => e.report d
  | .recordSynchronous => e.recordSynchronous

/-- The emission for `f` after these requests. -/
def after (f : FunctionBlock) (b : Backend) (script : List Request) : Emission :=
  script.foldl serve (start f b)

theorem after_concat (f : FunctionBlock) (b : Backend) (script : List Request) (r : Request) :
    after f b (script ++ [r]) = (after f b script).serve r := by
  simp [after]

theorem require_eq (e : Emission) (kinds : List Destination) (interface : String) :
    (e.require kinds interface).2 =
      if e.missing kinds = [] then e else e.report (e.notOpen (e.missing kinds) interface) := by
  unfold require
  split
  · next h => rw [if_pos h]
  · next h => rw [if_neg h]

section Step

variable (e : Emission) (r : Request)

@[simp] theorem function_serve : (e.serve r).function = e.function := by
  cases r with
  | openTo k => exact function_openTo e k
  | write k buffer => exact function_write e k _
  | require kinds interface => exact (Grows.require e kinds interface).function
  | report d => rfl
  | recordSynchronous => rfl

theorem get_openTo (k l : Destination) :
    (e.openTo l).drafts.get k =
      if k = l then some ((e.drafts.get k).getD "") else e.drafts.get k := by
  unfold openTo isOpen
  by_cases hk : k = l
  · subst hk
    cases h : e.drafts.get k <;> simp [h]
  · split <;> simp [hk]

/-- A request opens a file that is not open yet, or adds its text to one that is. -/
theorem get_serve (k : Destination) :
    (e.serve r).drafts.get k =
      if r = .openTo k then some ((e.drafts.get k).getD "")
      else (e.drafts.get k).map (· ++ (r.textFor? k).getD "") := by
  have hsame : e.drafts.get k = (e.drafts.get k).map (· ++ "") := by
    cases e.drafts.get k <;> simp
  cases r with
  | openTo l =>
    rw [serve, get_openTo]
    by_cases hk : k = l
    · simp [hk]
    · rw [if_neg hk, if_neg (by simpa using Ne.symm hk)]
      exact hsame
  | write l buffer =>
    rw [serve, get_write, if_neg (show Request.write l buffer ≠ .openTo k by simp)]
    by_cases hk : k = l
    · simp [Request.textFor?, hk]
    · rw [if_neg hk, Request.textFor?, if_neg (Ne.symm hk)]
      exact hsame
  | require kinds interface =>
    have hdrafts : (e.require kinds interface).2.drafts = e.drafts := by
      rw [require_eq]
      split <;> rfl
    rw [serve, hdrafts, if_neg (by simp)]
    exact hsame
  | report d => exact hsame
  | recordSynchronous => exact hsame

theorem synchronous_serve :
    (e.serve r).synchronous = (e.synchronous || decide (r = .recordSynchronous)) := by
  cases r with
  | openTo k =>
    rw [serve, openTo]
    split <;> simp
  | write k buffer => simp [serve]
  | require kinds interface =>
    rw [serve, require_eq]
    split <;> simp [report]
  | report d => simp [serve, report]
  | recordSynchronous => simp [serve, recordSynchronous]

/-- What is said on a request can be told from those before it, as they say which files are open. -/
theorem diagnostics_serve {past : List Request}
    (hopen : ∀ k, e.isOpen k = decide (.openTo k ∈ past)) :
    (e.serve r).diagnostics = e.diagnostics ++ r.remarks e.function past := by
  cases r with
  | openTo k => simp [serve, Request.remarks]
  | write k buffer => simp [serve, Request.remarks]
  | require kinds interface =>
    have hmissing : e.missing kinds = kinds.filter fun k => .openTo k ∉ past := by
      unfold missing
      simp [hopen]
    rw [serve, require_eq, hmissing, Request.remarks]
    split
    · simp
    · rfl
  | report d => rfl
  | recordSynchronous => simp [serve, recordSynchronous, Request.remarks]

end Step

/-! ## Whole lists of requests -/

section Run

variable (f : FunctionBlock) (b : Backend) (script : List Request)

theorem function_after : (after f b script).function = f := by
  induction script using List.reverseRecOn with
  | nil => rfl
  | append_singleton script r ih => rw [after_concat, function_serve, ih]

theorem get_after (k : Destination) :
    (after f b script).drafts.get k =
      if .openTo k ∈ script then some (Request.writtenTo k script) else none := by
  induction script using List.reverseRecOn with
  | nil => cases k <;> rfl
  | append_singleton script r ih =>
    rw [after_concat, get_serve, ih, Request.writtenTo_concat]
    by_cases hopen : .openTo k ∈ script
    · by_cases hr : r = .openTo k
      · simp [hopen, hr, Request.textFor?]
      · simp [hopen, hr]
    · by_cases hr : r = .openTo k
      · simp [hopen, hr]
      · simp [hopen, hr, Ne.symm hr]

theorem isOpen_after (k : Destination) :
    (after f b script).isOpen k = decide (.openTo k ∈ script) := by
  unfold isOpen
  rw [get_after]
  split <;> simp [*]

theorem diagnostics_after :
    (after f b script).diagnostics = Request.allRemarks f script := by
  induction script using List.reverseRecOn with
  | nil => rfl
  | append_singleton script r ih =>
    rw [after_concat, diagnostics_serve _ r (isOpen_after f b script), ih, function_after,
      Request.allRemarks_concat]

theorem synchronous_after :
    (after f b script).synchronous = decide (.recordSynchronous ∈ script) := by
  induction script using List.reverseRecOn with
  | nil => rfl
  | append_singleton script r ih =>
    rw [after_concat, synchronous_serve, ih]
    simp [eq_comm]

theorem files_after :
    (after f b script).files =
      (Destination.all.filter fun k => .openTo k ∈ script).map fun k =>
        ⟨f.name, k, k.path f.name, Request.writtenTo k script⟩ := by
  rw [files_eq, opened, function_after, funext (isOpen_after f b script)]
  refine List.map_congr_left fun k hk => ?_
  have hopen : .openTo k ∈ script := by simpa using (List.mem_filter.1 hk).2
  rw [get_after, if_pos hopen, Option.getD_some]

/-- Whatever is asked of an emission, in whatever order: it closes with one file for each kind that
was opened, in the order of the kinds, and each file holds what was written to it from its first
opening on. What it says is what was reported and, where files were asked for that had not been
opened by then, which of them. It knows of a synchronous entry if one was recorded. -/
theorem close_after_script :
    (after f b script).close =
        { files := (Destination.all.filter fun k => .openTo k ∈ script).map fun k =>
            ⟨f.name, k, k.path f.name, Request.writtenTo k script⟩
          diagnostics := Request.allRemarks f script } ∧
      ((after f b script).close.files.map (·.kind)).Nodup ∧
      (∀ k, k ∈ (after f b script).close.files.map (·.kind) ↔ .openTo k ∈ script) ∧
      ((after f b script).synchronous = true ↔ .recordSynchronous ∈ script) := by
  have hkinds : (after f b script).close.files.map (·.kind) =
      Destination.all.filter fun k => .openTo k ∈ script := by
    rw [close, files_after, List.map_map]
    exact List.map_id _
  refine ⟨?_, ?_, ?_, ?_⟩
  · rw [close, files_after, diagnostics_after]
  · have hall : Destination.all.Nodup := by decide
    rw [hkinds]
    exact hall.filter _
  · intro k
    rw [hkinds]
    simp [Destination.mem_all]
  · rw [synchronous_after, decide_eq_true_iff]

end Run

end Emission

end AdaGlue
