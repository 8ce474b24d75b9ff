/-
What the generation of a function's text leaves alone. Each of its steps works for the same
function and the same backend, keeps the destinations that are open, and only adds diagnostics,
each of which names the function.
-/
import AdaGlue.Emission
import Mathlib.Data.List.Basic

namespace AdaGlue

theorem Destination.mem_all (k : Destination) : k ∈ Destination.all := by
  cases k <;> decide

namespace Emission

/-! ## Single steps -/

section Steps

variable (e : Emission) (k : Destination) (text : String)

@[simp] theorem function_start (f : FunctionBlock) (b : Backend) : (start f b).function = f := rfl

@[simp] theorem diagnostics_start (f : FunctionBlock) (b : Backend) :
    (start f b).diagnostics = [] := rfl

@[simp] theorem isOpen_start (f : FunctionBlock) (b : Backend) : (start f b).isOpen k = false := by
  cases k <;> rfl

@[simp] theorem isOpen_openTo (l : Destination) :
    (e.openTo k).isOpen l = (decide (l = k) || e.isOpen l) := by
  unfold openTo
  by_cases hl : l = k
  · split
    · next hk => simp [hl, hk]
    · simp [hl, isOpen]
  · split
    · simp [hl]
    · simp [hl, isOpen]

@[simp] theorem function_openTo : (e.openTo k).function = e.function := by
  unfold openTo; split <;> rfl

@[simp] theorem diagnostics_openTo : (e.openTo k).diagnostics = e.diagnostics := by
  unfold openTo; split <;> rfl

@[simp] theorem function_write : (e.write k text).function = e.function := by
  unfold write; split <;> rfl

@[simp] theorem backend_write : (e.write k text).backend = e.backend := by
  unfold write; split <;> rfl

@[simp] theorem diagnostics_write : (e.write k text).diagnostics = e.diagnostics := by
  unfold write; split <;> rfl

@[simp] theorem synchronous_write : (e.write k text).synchronous = e.synchronous := by
  unfold write; split <;> rfl

/-- Writing appends to the text of its destination, if that is open. -/
@[simp] theorem get_write (l : Destination) :
    (e.write k text).drafts.get l =
      if l = k then (e.drafts.get l).map (· ++ text) else e.drafts.get l := by
  unfold write
  rcases hk : e.drafts.get k with _ | sofar
  · by_cases hl : l = k
    · simp [hl, hk]
    · simp [hl]
  · by_cases hl : l = k
    · simp [hl, hk]
    · simp [hl]

@[simp] theorem isOpen_write (l : Destination) : (e.write k text).isOpen l = e.isOpen l := by
  unfold isOpen
  rw [get_write]
  split <;> simp

theorem write_of_closed (h : e.isOpen k = false) : e.write k text = e := by
  have hnone : e.drafts.get k = none := by simpa [isOpen] using h
  unfold write
  rw [hnone]

@[simp] theorem isOpen_report (d : Diagnostic) : (e.report d).isOpen k = e.isOpen k := rfl

@[simp] theorem function_report (d : Diagnostic) : (e.report d).function = e.function := rfl

@[simp] theorem diagnostics_report (d : Diagnostic) :
    (e.report d).diagnostics = e.diagnostics ++ [d] := rfl

/-- A declaration and a body are there if both of their files are open. -/
theorem require_of_open {e : Emission} {decl body : Destination} (hdecl : e.isOpen decl = true)
    (hbody : e.isOpen body = true) (interface : String) :
    e.require [decl, body] interface = (true, e) := by
  have hmissing : e.missing [decl, body] = [] := by simp [missing, hdecl, hbody]
  unfold require
  rw [hmissing]

end Steps

theorem mem_files {e : Emission} {g : GeneratedFile} :
    g ∈ e.files ↔ ∃ k text, e.drafts.get k = some text ∧
      g = ⟨e.function.name, k, k.path e.function.name, text⟩ := by
  simp only [files, List.mem_filterMap, Option.map_eq_some_iff]
  constructor
  · rintro ⟨k, -, text, hk, rfl⟩; exact ⟨k, text, hk, rfl⟩
  · rintro ⟨k, text, hk, rfl⟩; exact ⟨k, Destination.mem_all k, text, hk, rfl⟩

/-- There is a file for each destination that is open. -/
theorem files_eq (e : Emission) :
    e.files = e.opened.map fun k =>
      ⟨e.function.name, k, k.path e.function.name, (e.drafts.get k).getD ""⟩ := by
  unfold files opened isOpen
  rw [← List.filterMap_eq_map', ← List.filterMap_eq_filter, List.filterMap_filterMap]
  refine List.filterMap_congr fun k _ => ?_
  cases hk : e.drafts.get k <;> simp [hk, Option.guard]

/-! ## Growth -/

/-- A later stage of the same generation. -/
structure Grows (e e' : Emission) : Prop where
  function : e'.function = e.function
  backend : e'.backend = e.backend
  opened : ∀ k, e'.isOpen k = e.isOpen k
  diagnostics : ∃ ds, e'.diagnostics = e.diagnostics ++ ds ∧
    ∀ d ∈ ds, d.function = some e.function.name

namespace Grows

variable {e e' e'' : Emission}

theorem refl (e : Emission) : Grows e e :=
  ⟨rfl, rfl, fun _ => rfl, [], by simp, by simp⟩

theorem trans (h : Grows e e') (h' : Grows e' e'') : Grows e e'' := by
  obtain ⟨ds, hds, hat⟩ := h.diagnostics
  obtain ⟨ds', hds', hat'⟩ := h'.diagnostics
  refine ⟨h'.function.trans h.function, h'.backend.trans h.backend,
    fun k => (h'.opened k).trans (h.opened k), ds ++ ds', ?_, ?_⟩
  · rw [hds', hds, List.append_assoc]
  · intro d hd
    rcases List.mem_append.1 hd with hd | hd
    · exact hat d hd
    · rw [← h.function]; exact hat' d hd

theorem write (e : Emission) (k : Destination) (text : String) : Grows e (e.write k text) :=
  ⟨by simp, by simp, by simp, [], by simp, by simp⟩

theorem reportAll (e : Emission) {ds : List Diagnostic}
    (hat : ∀ d ∈ ds, d.function = some e.function.name) : Grows e (e.reportAll ds) :=
  ⟨rfl, rfl, fun _ => rfl, ds, rfl, hat⟩

theorem report (e : Emission) {d : Diagnostic} (hat : d.function = some e.function.name) :
    Grows e (e.report d) :=
  reportAll e (by simpa using hat)

theorem recordSynchronous (e : Emission) : Grows e e.recordSynchronous :=
  ⟨rfl, rfl, fun _ => rfl, [], by simp [Emission.recordSynchronous], by simp⟩

theorem require (e : Emission) (kinds : List Destination) (interface : String) :
    Grows e (e.require kinds interface).2 := by
  unfold Emission.require
  split
  · exact refl e
  · exact report e rfl

theorem writePair (e : Emission) (decl body : Destination) (interface declText bodyText : String) :
    Grows e (e.writePair decl body interface declText bodyText) := by
  have hreq := require e [decl, body] interface
  unfold Emission.writePair
  split
  · next e' h => rw [h] at hreq; exact (hreq.trans (write _ _ _)).trans (write _ _ _)
  · next e' h => rw [h] at hreq; exact hreq

/-- The diagnostics stay with their function. -/
theorem attributed (h : Grows e e')
    (hat : ∀ d ∈ e.diagnostics, d.function = some e.function.name) :
    ∀ d ∈ e'.diagnostics, d.function = some e'.function.name := by
  obtain ⟨ds, hds, hat'⟩ := h.diagnostics
  intro d hd
  rw [h.function]
  rw [hds] at hd
  rcases List.mem_append.1 hd with hd | hd
  · exact hat d hd
  · exact hat' d hd

end Grows

end Emission

end AdaGlue
