/-
How the wrapper procedures stand in their files. Whatever the route, and however many parameters and
callers there are, the edits of a procedure never go back a level that was not entered before, so no
change of the indentation is lost at the margin. The header, the `begin` and the `end` of a procedure
stand at one depth, and all that is declared and done in it stands further in.
-/
import AdaGlue.Proofs.Wrappers.Packages

namespace AdaGlue

namespace Wrappers

/-! ## Procedures in a buffer -/

/-- For the edits, the buffer writes a procedure: title, header, `begin` and `end` at the depth, and
whatever is declared and done in between further in. -/
def WritesProcedure (b : Buffer) (edits : List Edit) (depth : Nat) (title header : List String)
    (name : String) : Prop :=
  ∃ declarations statements : List Line,
    (b.run edits).text = b.text ++ page (linesAt depth (title ++ header) ++ declarations ++
        [⟨depth, "begin"⟩] ++ statements ++ linesAt depth ["end " ++ name ++ ";", ""]) ∧
      ∀ l ∈ declarations ++ statements, depth < l.depth

theorem Procedure.writes (p : Procedure) {b : Buffer} {edits : List Edit} {depth : Nat}
    (hlines : laidOut b.depth edits = p.implemented depth) :
    WritesProcedure b edits depth p.bodyTitle
      (if p.isApart then p.signature ++ ["is"] else endedBy " is" p.signature) p.name := by
  obtain ⟨declarations, doing, hblock, hinside⟩ := p.nested.opens depth
  refine ⟨declarations, doing, ?_, hinside⟩
  rw [text_run, hlines, Procedure.implemented, hblock]
  simp only [List.append_assoc]

/-- One level in from the margin, balanced edits have a level to go back. -/
theorem dedentsInside_indented {edits rest : List Edit} (heq : edits = .indent :: rest)
    (h : Balanced rest) : Buffer.DedentsInside {} edits := by
  have hwithin : staysWithin 1 rest = true := h.within_of_levels 1
  rw [heq]
  exact Buffer.dedentsInside_of_staysWithin hwithin

theorem dedentsInside_asyncProvided (i : Interface) (route : Route) :
    Buffer.DedentsInside {} (asyncProvided i route).decl ∧
      Buffer.DedentsInside {} (asyncProvided i route).body := by
  have hsignature : ∀ ending, Balanced (closeLast ending (asyncSignature i)) := by
    intro ending
    rw [closeLast_eq_map_endedBy]
    exact balanced_lines _
  have htitle : ∀ title, Balanced (titled title i.name) := fun _ => ⟨rfl, fun _ => rfl⟩
  have hbody : (asyncProvided i route).body =
      .indent :: (titled "Asynchronous Provided Interface" i.name ++
        closeLast ")" (asyncSignature i) ++ [.line "is"] ++
        (asyncProvidedProcedure i route).block ++ [.line ("end " ++ i.name ++ ";"), .blank]) := by
    cases hin : i.inputs.head? <;> simp [asyncProvided, asyncProvidedProcedure, hin]
  constructor
  · have hblank : Balanced [.blank] := ⟨rfl, fun _ => rfl⟩
    exact dedentsInside_indented rfl (((htitle _).append (hsignature _)).append hblank)
  · refine dedentsInside_indented hbody ?_
    refine .append (.append (.append ((htitle _).append (hsignature _)) ?_) ?_) ?_
    · exact ⟨rfl, fun _ => rfl⟩
    · exact (block_forwardedCall i route).toBalanced
    · exact ⟨rfl, fun _ => rfl⟩

theorem dedentsInside_required (f : FunctionBlock) (i : Interface) (d : Decision) :
    Buffer.DedentsInside {} (required f i d).decl ∧
      Buffer.DedentsInside {} (required f i d).body := by
  constructor
  · exact dedentsInside_indented rfl ⟨rfl, fun _ => rfl⟩
  · have hhead : Balanced (titled (requiredTitle i) i.name ++
        [.line (requiredSignature i d.convention ++ " is")]) := ⟨rfl, fun _ => rfl⟩
    have hend : Balanced [.line ("end " ++ Ada.vmProcedure i.name ++ ";"), .blank] :=
      ⟨rfl, fun _ => rfl⟩
    exact dedentsInside_indented rfl
      ((hhead.append (block_requiredBody f i d.route).toBalanced).append hend)

theorem balanced_forwardingBody (f : FunctionBlock) (i : Interface) :
    Balanced (forwardingBody f i) :=
  ⟨rfl, fun depth => (forwardingBody_shows f i depth).2⟩

/-- The wrapper procedures are balanced. Those of calls, and of entries that are called without
waiting, are written from the margin on and never go back from it. The body of a call and the
procedure of an entry that is waited for come back to the depth at which they start, whatever that
is. In each procedure the header, `begin` and `end` stand at the same depth, and all that is declared
and done further in. -/
theorem procedures_balanced (f : FunctionBlock) (i : Interface) (b : Buffer) :
    (∀ route,
      Buffer.DedentsInside {} (asyncProvided i route).decl ∧
      Buffer.DedentsInside {} (asyncProvided i route).body ∧
      WritesProcedure {} (asyncProvided i route).body 1
        (titleTexts "Asynchronous Provided Interface" i.name)
        (endedBy ")" (asyncSignature i) ++ ["is"]) i.name) ∧
    (∀ d,
      Buffer.DedentsInside {} (required f i d).decl ∧
      Buffer.DedentsInside {} (required f i d).body ∧
      WritesProcedure {} (required f i d).body 1 (titleTexts (requiredTitle i) i.name)
        [requiredSignature i d.convention ++ " is"] (Ada.vmProcedure i.name)) ∧
    (∀ route,
      b.DedentsInside (requiredBody f i route) ∧
      (b.run (requiredBody f i route)).depth = b.depth) ∧
    (∀ entity, b.DedentsInside (flushOutport f i entity)) ∧
    b.DedentsInside (forwardingBody f i) ∧
    (b.run (forwardingBody f i)).depth = b.depth ∧
    WritesProcedure b (forwardingBody f i) b.depth [] [entrySignature i ++ " is"] i.name := by
  refine ⟨fun route => ?_, fun d => ?_, fun route => ?_, fun entity => ?_, ?_⟩
  · obtain ⟨hdecl, hbody⟩ := dedentsInside_asyncProvided i route
    exact ⟨hdecl, hbody,
      (asyncProvidedProcedure i route).writes (asyncProvided_shows i route).body⟩
  · obtain ⟨hdecl, hbody⟩ := dedentsInside_required f i d
    exact ⟨hdecl, hbody, (requiredProcedure f i d).writes (required_shows f i d).body⟩
  · exact b.run_balanced (block_requiredBody f i route).toBalanced
  · -- the edits of an outport are those of the whole body but the last
    have hbody := (b.run_balanced (block_requiredBody f i (.flushOutport (some entity))).toBalanced).1
    intro front back heq
    refine hbody front (back ++ [.dedent]) ?_
    rw [requiredBody, heq, List.append_assoc, List.cons_append]
  · obtain ⟨hinside, hback⟩ := b.run_balanced (balanced_forwardingBody f i)
    exact ⟨hinside, hback, (entryProcedure f i).writes (forwardingBody_shows f i b.depth).1⟩

end Wrappers

end AdaGlue
