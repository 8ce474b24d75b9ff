/-
The packages that the bodies of wrappers name in their context clauses. The first body of a function
names the wrappers of the functions it waits for and the packages of the entries that another
generator has written; the second body, that of a thread which calls ahead, names neither. So the
package of a callee is named wherever some interface of the function waits for it in Ada, which an
entry that is only handed on does not make sure of. The package of another generator's entry is named
wherever it is called, but not where a thread calls it ahead.
-/
import AdaGlue.Proofs.Wrappers.Linking
import AdaGlue.Proofs.Wrappers.Packages

namespace AdaGlue

/-- The function waits for `c` through an interface behind which no other generator stands. -/
def FunctionBlock.WaitsFor (f : FunctionBlock) (c : String) : Prop :=
  ∃ r ∈ f.interfaces, r.direction = .required ∧ r.synchronism = .synchronous ∧
    (r.binding.language ≠ .qgenAda ∧ r.binding.language ≠ .qgenC) ∧ r.remoteFunction = some c

namespace Wrappers

/-! ## Context clauses -/

/-- The line is a context clause that names one package. -/
def isClause (l : Line) : Bool :=
  l.depth = 0 && "with ".toList.isPrefixOf l.text.toList && l.text.toList.getLast? = some ';'

/-- The context clause for a package. -/
def clause (package : String) : Line :=
  ⟨0, withClause package⟩

theorem isClause_clause (package : String) : isClause (clause package) = true := by
  have hend : (withClause package).toList = ("with " ++ package).toList ++ [';'] := by
    simp [withClause]
  have hlast : (withClause package).toList.getLast? = some ';' := by
    rw [hend, List.getLast?_concat]
  simp only [isClause, clause, hlast]
  simp [withClause]

theorem clause_inj {p q : String} (h : clause p = clause q) : p = q := by
  have htext : "with " ++ p ++ ";" = "with " ++ q ++ ";" := congrArg Line.text h
  rw [String.append_assoc, String.append_assoc, String.append_right_inj] at htext
  exact (String.append_left_inj _).1 htext

theorem filter_isClause_map_clause (packages : List String) :
    (packages.map clause).filter isClause = packages.map clause := by
  rw [List.filter_eq_self]
  intro l hl
  obtain ⟨p, -, rfl⟩ := List.mem_map.1 hl
  exact isClause_clause p

theorem filter_isClause_of_deep {lines : List Line} (h : ∀ l ∈ lines, 1 ≤ l.depth) :
    lines.filter isClause = [] := by
  rw [List.filter_eq_nil_iff]
  intro l hl
  have hdepth : l.depth ≠ 0 := Nat.one_le_iff_ne_zero.1 (h l hl)
  simp [isClause, hdepth]

/-- Lines that have clauses for certain packages have one for each of them and for no other. -/
theorem clause_mem_iff {lines : List Line} {packages : List String}
    (h : lines.filter isClause = packages.map clause) (p : String) :
    clause p ∈ lines ↔ p ∈ packages := by
  have hfilter : clause p ∈ lines ↔ clause p ∈ lines.filter isClause := by
    rw [List.mem_filter, isClause_clause]
    simp
  rw [hfilter, h, List.mem_map]
  constructor
  · rintro ⟨q, hq, heq⟩
    exact clause_inj heq ▸ hq
  · exact fun hp => ⟨p, hp, rfl⟩

/-! ## Lines inside a package -/

theorem Procedure.le_depth (p : Procedure) {depth : Nat} {l : Line}
    (hl : l ∈ p.implemented depth) : depth ≤ l.depth := by
  have hat : ∀ {texts}, l ∈ linesAt depth texts → depth ≤ l.depth := by
    intro texts hl
    obtain ⟨s, -, rfl⟩ := List.mem_map.1 hl
    exact Nat.le_refl depth
  rcases List.mem_append.1 hl with hl | hl
  · rcases List.mem_append.1 hl with hl | hl
    · exact hat hl
    · have hblock : ∀ l ∈ laidOut (depth + 0) p.block, depth ≤ l.depth :=
        le_depth_of_staysWithin p.nested.within
      exact hblock l hl
  · exact hat hl

theorem Content.le_depth (c : Content) (f : FunctionBlock) :
    ∀ l ∈ c.implemented f, 1 ≤ l.depth := by
  have hplain : ∀ (procedures : List Procedure) (depth : Nat), 1 ≤ depth →
      ∀ l ∈ procedures.flatMap (·.implemented depth), 1 ≤ l.depth := by
    intro procedures depth hdepth l hl
    obtain ⟨p, -, hl⟩ := List.mem_flatMap.1 hl
    exact Nat.le_trans hdepth (p.le_depth hl)
  have hobject : ∀ l ∈ objectImplemented f c.inside, 1 ≤ l.depth := by
    unfold objectImplemented
    split
    · simp
    · intro l hl
      simp only [linesAt_cons, linesAt_nil, List.mem_append, List.mem_cons, List.not_mem_nil,
        or_false] at hl
      rcases hl with (rfl | hl) | rfl | rfl
      · exact Nat.le_refl 1
      · exact hplain c.inside 2 (by decide) l hl
      · exact Nat.le_refl 1
      · exact Nat.le_refl 1
  intro l hl
  unfold implemented at hl
  rcases List.mem_append.1 hl with hl | hl
  · rcases List.mem_append.1 hl with hl | hl
    · exact hplain c.above 1 (Nat.le_refl 1) l hl
    · exact hobject l hl
  · exact hplain c.below 1 (Nat.le_refl 1) l hl

/-! ## The clauses of a body -/

/-- The packages that the first body of a function names one by one. -/
def namedPackages (f : FunctionBlock) : List String :=
  (callees f).toList.map Ada.wrappersPackage ++ (foreignEntries f).toList.map Ada.foreignPackage

section Front

variable (v : View) (f : FunctionBlock)

theorem filter_isClause_bodyClauses :
    (laidOut 0 (bodyClauses f)).filter isClause = (namedPackages f).map clause ∧
      depthBehind 0 (bodyClauses f) = 0 := by
  obtain ⟨hcallees, hcallees'⟩ :=
    laidOut_map_line 0 (fun c => withClause (Ada.wrappersPackage c)) (callees f).toList
  have hback : ∀ e ∈ (foreignEntries f).toList, depthBehind 0
      [.line (withClause (Ada.foreignPackage e)), .line (useClause (Ada.foreignPackage e))] = 0 :=
    fun _ _ => rfl
  obtain ⟨hentries, hentries'⟩ := laidOut_flatMap hback
  -- of the two clauses for an entry only the first makes its package known
  have hentry : ∀ e, (laidOut 0 [.line (withClause (Ada.foreignPackage e)),
      .line (useClause (Ada.foreignPackage e))]).filter isClause =
      [clause (Ada.foreignPackage e)] := by
    intro e
    have huse : isClause ⟨0, useClause (Ada.foreignPackage e)⟩ = false := by
      simp [isClause, useClause]
    show [clause (Ada.foreignPackage e), ⟨0, useClause (Ada.foreignPackage e)⟩].filter isClause = _
    rw [List.filter_cons_of_pos (isClause_clause _), List.filter_cons, huse]
    rfl
  have hgiven : ∀ wanted, (laidOut 0 (given wanted [.blank])).filter isClause = [] ∧
      depthBehind 0 (given wanted [.blank]) = 0 := by
    intro wanted
    cases wanted <;> exact ⟨rfl, rfl⟩
  have hnamed : ∀ l : List String, l.map (fun c => ⟨0, withClause (Ada.wrappersPackage c)⟩) =
      (l.map Ada.wrappersPackage).map clause := by simp [clause]
  simp only [bodyClauses, laidOut_append, depthBehind_append, hcallees, hcallees', hentries,
    hentries', List.filter_append, List.filter_flatMap, hentry, hgiven, hnamed,
    filter_isClause_map_clause, List.append_nil, namedPackages, List.map_append, and_true]
  rw [← List.map_eq_flatMap, List.map_map (l := (foreignEntries f).toList)]
  rfl

/-- The procedures that initialise stand inside the package. -/
theorem laidOut_initProcedure :
    (∀ l ∈ laidOut 0 (initProcedure f).body, 1 ≤ l.depth) ∧
      depthBehind 0 (initProcedure f).body = 0 := by
  unfold initProcedure
  split
  · exact ⟨by simp [laidOut], rfl⟩
  · exact ⟨by simp [laidOut], rfl⟩

theorem le_depth_foreignInits :
    ∀ l ∈ laidOut 0 ((foreignInits f).toList.flatMap fun p => foreignInitBody p.1 p.2),
      1 ≤ l.depth := by
  have hone : ∀ entry init, ∀ l ∈ laidOut 0 (foreignInitBody entry init), 1 ≤ l.depth := by
    intro entry init
    simp [foreignInitBody, laidOut]
  have hback : ∀ p ∈ (foreignInits f).toList, depthBehind 0 (foreignInitBody p.1 p.2) = 0 :=
    fun _ _ => rfl
  intro l hl
  rw [(laidOut_flatMap hback).1] at hl
  obtain ⟨p, -, hl⟩ := List.mem_flatMap.1 hl
  exact hone p.1 p.2 l hl

theorem filter_isClause_frontLines :
    (frontLines v f .wrappersBody).filter isClause = (namedPackages f).map clause := by
  obtain ⟨hclauses, hclauses'⟩ := filter_isClause_bodyClauses f
  obtain ⟨hinit, hinit'⟩ := laidOut_initProcedure f
  have hopening : ∀ package, (laidOut 0 [.line ("package body " ++ package ++ " is"), .blank]).filter
      isClause = [] := by
    intro package
    simp [laidOut, isClause]
  rw [frontLines_wrappersBody]
  simp only [preamble, laidOut_append, depthBehind_append, depthBehind, hclauses', hinit',
    List.filter_append, hclauses, hopening, filter_isClause_of_deep hinit,
    filter_isClause_of_deep (le_depth_foreignInits f), List.append_nil]
  -- the fixed lines above name two packages in one clause, which goes over two lines
  rfl

/-- The context clauses of a body stand in its front. -/
theorem filter_isClause_fileLines (x : Placement) :
    (fileLines v f (placed x).2).filter isClause =
      (frontLines v f (placed x).2).filter isClause := by
  have hend : (endLines f (placed x).2).filter isClause = [] := by
    cases x with
    | wrappers =>
      simp only [placed, endLines, bodyEnd, endLine, given]
      split <;> simp [laidOut, isClause]
    | asyncWrappers => simp [placed, endLines, endLine, laidOut, isClause]
  rw [(fileLines_eq v f x).2, List.filter_append, List.filter_append,
    filter_isClause_of_deep ((contentOf v f x).le_depth f), hend, List.append_nil, List.append_nil]

theorem filter_isClause_wrappersBody :
    (fileLines v f .wrappersBody).filter isClause = (namedPackages f).map clause :=
  (filter_isClause_fileLines v f .wrappers).trans (filter_isClause_frontLines v f)

theorem filter_isClause_asyncBody :
    (fileLines v f .asyncBody).filter isClause =
      ["PolyORB_HI_Generated.Activity", "PolyORB_HI.Errors"].map clause := by
  have hopening : isClause ⟨0, "package body " ++ Ada.asyncPackage f.name ++ " is"⟩ = false := by
    simp [isClause]
  refine (filter_isClause_fileLines v f .asyncWrappers).trans ?_
  simp only [placed, frontLines_asyncBody, asyncPreamble, laidOut, List.filter_cons, hopening]
  rfl

end Front

/-! ## Named packages -/

theorem mem_callees_iff {f : FunctionBlock} {c : String} :
    c ∈ (callees f).toList ↔ f.WaitsFor c := by
  unfold callees FunctionBlock.required FunctionBlock.WaitsFor
  simp only [OrderedSet.mem_ofList, List.mem_filterMap, List.mem_filter, Interface.isRequired,
    Interface.isSynchronous, Bool.and_eq_true, decide_eq_true_eq, Bool.not_eq_true',
    isForeign_eq_false_iff, and_assoc]

theorem wrappersPackage_ne_foreignPackage (c e : String) :
    Ada.wrappersPackage c ≠ Ada.foreignPackage e := by
  intro h
  -- the two names end in different letters
  have hback := congrArg (fun s : String => s.toList.reverse) h
  simp [Ada.wrappersPackage, Ada.foreignPackage] at hback

theorem wrappersPackage_mem_namedPackages {f : FunctionBlock} {c : String} :
    Ada.wrappersPackage c ∈ namedPackages f ↔ f.WaitsFor c := by
  rw [namedPackages, List.mem_append, ← mem_callees_iff]
  constructor
  · rintro (h | h)
    · obtain ⟨d, hd, heq⟩ := List.mem_map.1 h
      exact (String.append_left_inj _).1 heq ▸ hd
    · obtain ⟨e, -, heq⟩ := List.mem_map.1 h
      exact absurd heq.symm (wrappersPackage_ne_foreignPackage c e)
  · exact fun h => .inl (List.mem_map_of_mem h)

/-- Each call of an entry of another generator has the entry's package named. -/
theorem foreignPackage_mem_namedPackages {f : FunctionBlock} {i : Interface}
    (hi : i ∈ f.interfaces) (hrequired : i.direction = .required)
    (hbound : i.binding.language = .qgenAda) :
    Ada.foreignPackage i.entryPoint ∈ namedPackages f := by
  have hforeign : i ∈ f.required.filter isForeignAda := by
    simp [FunctionBlock.required, Interface.isRequired, isForeignAda, hi, hrequired, hbound]
  refine List.mem_append_right _ (List.mem_map_of_mem ?_)
  rw [foreignEntries, OrderedSet.mem_ofList]
  exact List.mem_map_of_mem hforeign

/-! ## Calls into the wrappers of others -/

/-- A call goes into another function's wrappers from an interface that waits, or from one that an
artificial function hands on to its last interface with that entry. -/
theorem route_into_callee {v : View} {f : FunctionBlock} {i : Interface} {r : Route}
    {ds : List Diagnostic} (h : v.route f i = .ok (r, ds)) {c e : String} {a : Accessor} :
    (r = .callCallee c e a → i.direction = .required ∧ i.synchronism = .synchronous ∧
      (i.binding.language ≠ .qgenAda ∧ i.binding.language ≠ .qgenC) ∧ i.callee = c) ∧
    (r = .forwardToSibling c e a → i.direction = .provided ∧ i.synchronism = .asynchronous ∧
      ∃ sibling, f.sibling? e = some sibling ∧ sibling.callee = c) := by
  obtain ⟨-, hrow⟩ := View.routed_of_route h
  cases hrow with
  | called hn hd hs =>
    refine ⟨?_, by simp⟩
    rintro ⟨⟩
    exact ⟨hd, hs, hn, rfl⟩
  | handedOn _ hd hs _ hlast =>
    refine ⟨by simp, ?_⟩
    rintro ⟨⟩
    exact ⟨hd, hs, _, (f.sibling?_eq_some_iff i _).2 hlast, rfl⟩
  | _ => simp

theorem sibling?_eq_some {f : FunctionBlock} {e : String} {r : Interface}
    (h : f.sibling? e = some r) : r ∈ f.interfaces ∧ r.direction = .required ∧
      r.synchronism = .synchronous ∧ r.entryPoint = e := by
  have hmem := List.mem_of_getLast? h
  simp only [FunctionBlock.required, Interface.isRequired, Interface.isSynchronous, List.mem_filter,
    Bool.and_eq_true, decide_eq_true_eq, beq_iff_eq] at hmem
  exact ⟨hmem.1.1, hmem.1.2, hmem.2.1, hmem.2.2⟩

/-- The wrapper of such an interface makes the call. -/
theorem call_mem_wrapperLines {v : View} {f : FunctionBlock} {i : Interface} {d : Decision}
    (hd : v.decide f i = .ok d) {c e : String} {a : Accessor}
    (hroute : d.route = .callCallee c e a ∨ d.route = .forwardToSibling c e a) :
    ∃ actuals, ⟨2, calleePath c e a ++ actuals ++ ";"⟩ ∈ wrapperLines v f i .wrappersBody := by
  obtain ⟨hto, -, hplace⟩ := decide_eq_ok hd
  have hinto := route_into_callee hto (c := c) (e := e) (a := a)
  rw [wrapperLines_of_decide hd]
  rcases hroute with hroute | hroute
  · obtain ⟨-, hsync, -⟩ := hinto.1 hroute
    have hwrappers : d.placement = .wrappers := by
      rw [hplace]
      simp [Placement.of, Interface.isAsynchronous, hsync]
    have hbody : (required f i d).linesIn (placed .wrappers) .wrappersBody =
        (requiredProcedure f i d).implemented 1 := (required_shows f i d).body
    simp only [procedure?, hroute, hwrappers, hbody]
    refine ⟨if (Ada.bufferActuals i.inputs i.outputs).isEmpty then "" else
      " (" ++ Ada.bufferActuals i.inputs i.outputs ++ ")",
      List.mem_append_left _ (List.mem_append_right _ ?_)⟩
    simp [requiredProcedure, requiredBody, hroute, statements, laidOut]
  · have hbody : (asyncProvided i d.route).linesIn (placed .wrappers) .wrappersBody =
        (asyncProvidedProcedure i d.route).implemented 1 := (asyncProvided_shows i d.route).body
    simp only [procedure?, hroute] at hbody ⊢
    rw [hbody]
    refine ⟨overlayActuals i.inputs.head?, List.mem_append_left _ (List.mem_append_right _ ?_)⟩
    cases hin : i.inputs.head? <;>
      simp [asyncProvidedProcedure, forwardedCall, overlay, laidOut, hin]

/-! ## Calls of entries of another generator -/

/-- The wrapper of a call that is made by the procedure of another generator. -/
def foreignCall (i : Interface) : List Line :=
  [⟨1, "procedure vm_" ++ i.name ++ Ada.parenthesized (Ada.accessFormals i) ++ " is"⟩,
   ⟨1, "begin"⟩,
   ⟨2, "Execute_" ++ i.entryPoint ++ "_QGenAda" ++ Ada.parenthesized (Ada.accessActuals i) ++ ";"⟩,
   ⟨1, "end vm_" ++ i.name ++ ";"⟩]

section Foreign

variable {v : View} {f : FunctionBlock} {i : Interface} (hrequired : i.direction = .required)
  (hbound : i.binding.language = .qgenAda)

include hrequired hbound

theorem decide_eq_callForeign (hlive : isDeadCall f i = false) :
    v.decide f i = .ok
      { route := .callForeign (Ada.foreignProcedure i.entryPoint), convention := .qgenAda
        placement := .of f i, diagnostics := [] } := by
  have hconv : Convention.of i = .qgenAda := by simp [Convention.of, hbound]
  rw [View.decide_eq_of_routed (.foreign hbound hrequired), if_neg (not_isRefused_of_live hlive),
    hconv]
  rfl

/-- Such a call stands in the body that its function and its kind ask for. -/
theorem foreignCall_infix_wrapperLines (hlive : isDeadCall f i = false) :
    foreignCall i <:+: wrapperLines v f i (placed (.of f i)).2 := by
  rw [wrapperLines_of_decide (decide_eq_callForeign hrequired hbound hlive)]
  simp only [procedure?]
  rw [linesIn_body, if_pos rfl, (required_shows f i _).body]
  refine ⟨linesAt 1 (titleTexts (requiredTitle i) i.name), [⟨1, ""⟩], ?_⟩
  simp [foreignCall, requiredProcedure, Procedure.implemented, requiredBody, statements, laidOut,
    endedBy, requiredSignature, requiredFormals, Ada.vmProcedure, Ada.foreignProcedure,
    ← String.append_assoc]

omit hbound in
/-- A thread's asynchronous calls stand in a body of their own. -/
theorem placed_of_required : (placed (.of f i)).2 =
    if f.runtime = .thread ∧ i.synchronism = .asynchronous then .asyncBody else .wrappersBody := by
  by_cases hahead : f.runtime = .thread ∧ i.synchronism = .asynchronous
  · simp [Placement.of, FunctionBlock.isThread, Interface.isRequired, Interface.isAsynchronous,
      hrequired, hahead, placed]
  · have hplace : Placement.of f i = .wrappers := by
      simpa [Placement.of, FunctionBlock.isThread, Interface.isRequired, Interface.isAsynchronous,
        hrequired] using hahead
    rw [hplace, if_neg hahead]
    rfl

end Foreign

/-- That body names no package of another generator. -/
theorem foreignClause_not_mem_asyncBody (v : View) (f : FunctionBlock) (e : String) :
    clause (Ada.foreignPackage e) ∉ fileLines v f .asyncBody := by
  rw [clause_mem_iff (filter_isClause_asyncBody v f)]
  intro hmem
  -- the names of both packages end in letters of their own
  have hback : (Ada.foreignPackage e).toList.reverse ∈
      ["PolyORB_HI_Generated.Activity", "PolyORB_HI.Errors"].map fun s => s.toList.reverse :=
    List.mem_map_of_mem hmem
  simp [Ada.foreignPackage] at hback

end Wrappers

open Wrappers in
/-- A body that calls into the wrappers of `c` names their package in a context clause exactly if
some interface of the function waits for `c` in Ada. An interface that waits does so itself. One that
an artificial function hands on is known to have the package named only if no other generator stands
behind the interface it is handed on to. -/
theorem callee_package_imported_iff {s : Setting} {out : Output} (h : s.generate = .ok out)
    (hwanted : s.options.WantsWrappers) {f : FunctionBlock} (hf : f ∈ s.view.functions)
    (hlanguage : f.language ≠ .qgenAda ∧ f.language ≠ .qgenC) {i : Interface}
    (hi : i ∈ f.interfaces) {d : Decision} (hd : s.view.decide f i = .ok d) {c e : String}
    {a : Accessor} (hroute : d.route = .callCallee c e a ∨ d.route = .forwardToSibling c e a) :
    let lines := fileLines s.view f .wrappersBody
    out.text? f.name .wrappersBody = some (page lines) ∧
    (∃ actuals, ⟨2, calleePath c e a ++ actuals ++ ";"⟩ ∈ lines) ∧
    (⟨0, "with " ++ c ++ "_Wrappers;"⟩ ∈ lines ↔ f.WaitsFor c) ∧
    (d.route = .callCallee c e a → f.WaitsFor c) ∧
    (d.route = .forwardToSibling c e a →
      ∃ r, f.sibling? e = some r ∧ r.remoteFunction = some c ∧
        (r.binding.language ≠ .qgenAda ∧ r.binding.language ≠ .qgenC → f.WaitsFor c)) := by
  have hforeign := (isForeign_eq_false_iff f.language).2 hlanguage
  obtain ⟨hto, -, -⟩ := decide_eq_ok hd
  obtain ⟨hwaits, hhanded⟩ := route_into_callee hto (c := c) (e := e) (a := a)
  have hremote : ∀ r ∈ f.interfaces, r.direction = .required → r.remoteFunction = some r.callee := by
    intro r hr hrequired
    obtain ⟨c, hc⟩ := Option.isSome_iff_exists.1
      ((s.view.consistent hf).remote r hr (by simp [Interface.isRequired, hrequired]))
    simp [Interface.callee, hc]
  have hclause : (⟨0, "with " ++ c ++ "_Wrappers;"⟩ : Line) = clause (Ada.wrappersPackage c) := by
    simp only [clause, withClause, Ada.wrappersPackage, String.append_assoc]
    rfl
  refine ⟨Setting.text?_wrappers h hwanted hf hforeign (isOpen_wrappers f).2, ?_, ?_, ?_, ?_⟩
  · obtain ⟨actuals, hcall⟩ := call_mem_wrapperLines hd hroute
    exact ⟨actuals, (wrapperLines_infix_fileLines hi .wrappersBody).subset hcall⟩
  · rw [hclause, clause_mem_iff (filter_isClause_wrappersBody s.view f),
      wrappersPackage_mem_namedPackages]
  · intro hcall
    obtain ⟨hrequired, hsync, hbound, rfl⟩ := hwaits hcall
    exact ⟨i, hi, hrequired, hsync, hbound, hremote i hi hrequired⟩
  · intro hforward
    obtain ⟨-, -, r, hsibling, rfl⟩ := hhanded hforward
    obtain ⟨hr, hrequired, hsync, -⟩ := sibling?_eq_some hsibling
    exact ⟨r, hsibling, hremote r hr hrequired,
      fun hbound => ⟨r, hr, hrequired, hsync, hbound, hremote r hr hrequired⟩⟩

/-- An entry that is handed on. -/
def handedOn : Interface :=
  { name := "Run", direction := .provided, remoteEntry := some "Compute" }

/-- The call that it is handed on to. -/
def computing : Interface :=
  { name := "Call", direction := .required, synchronism := .synchronous
    remoteFunction := some "Calc", remoteEntry := some "Compute" }

/-- A thread made by the tools that hands an entry on. -/
def handingOn (name : String) (call : Interface) : FunctionBlock :=
  { name := name, runtime := .thread, process := some "p1", artificial := true
    interfaces := [handedOn, call] }

/-- The same call with another generator behind it. -/
def simulating : Interface :=
  { computing with binding := { language := .qgenAda } }

/-- Two such threads and the function that both call. -/
def threadsAndCalc : View where
  functions :=
    [handingOn "VT_Calc" computing, handingOn "VT_Sim" simulating,
     { name := "Calc", runtime := .passive, callingThreads := ["VT_Calc", "VT_Sim"]
       interfaces :=
         [{ name := "Compute", direction := .provided, synchronism := .synchronous }] }]
  sound := by decide

open Wrappers in
theorem callee_package_imported_iff_of_calc :
    ∃ out, Setting.generate { view := threadsAndCalc } = .ok out ∧
      ∃ body, out.text? "VT_Calc" .wrappersBody = some body ∧
        (∃ actuals, Shows body [⟨2, "Calc_Wrappers.Protected_Calc.Compute" ++ actuals ++ ";"⟩]) ∧
        Shows body [⟨0, "with Calc_Wrappers;"⟩] := by
  have hgen := Setting.generate_of_live { view := threadsAndCalc } (by decide)
  obtain ⟨hbody, ⟨actuals, hcall⟩, hclause, -, hsibling⟩ :=
    callee_package_imported_iff hgen ⟨by decide, rfl, rfl⟩ (f := handingOn "VT_Calc" computing)
      (by simp [threadsAndCalc]) (by decide) (i := handedOn) (by simp [handingOn])
      (d := ⟨.forwardToSibling "Calc" "Compute" .shielded, .native, .wrappers, []⟩) (by rfl)
      (.inr rfl)
  obtain ⟨r, hr, -, hwaits⟩ := hsibling rfl
  obtain rfl : computing = r := Option.some.inj hr
  exact ⟨_, hgen, _, hbody, ⟨actuals, shows_of_mem hcall⟩,
    shows_of_mem (hclause.2 (hwaits (by decide)))⟩

open Wrappers in
/-- With another generator behind the call that an entry is handed on to, the body calls into the
callee's wrappers and does not name their package. -/
theorem callee_package_not_imported :
    ∃ out d, Setting.generate { view := threadsAndCalc } = .ok out ∧
      threadsAndCalc.decide (handingOn "VT_Sim" simulating) handedOn = .ok d ∧
      d.route = .forwardToSibling "Calc" "Compute" .shielded ∧
      ∃ body, out.text? "VT_Sim" .wrappersBody = some body ∧
        Shows body [⟨2, "Calc_Wrappers.Protected_Calc.Compute;"⟩] ∧
        ¬ Shows body [⟨0, "with Calc_Wrappers;"⟩] := by
  have hgen := Setting.generate_of_live { view := threadsAndCalc } (by decide)
  have hbody := Setting.text?_wrappers hgen ⟨by decide, rfl, rfl⟩
    (f := handingOn "VT_Sim" simulating) (by simp [threadsAndCalc]) rfl (isOpen_wrappers _).2
  have hcall : ⟨2, "Calc_Wrappers.Protected_Calc.Compute;"⟩ ∈
      fileLines threadsAndCalc (handingOn "VT_Sim" simulating) .wrappersBody := by decide +kernel
  have hplain : ∀ l ∈ fileLines threadsAndCalc (handingOn "VT_Sim" simulating) .wrappersBody,
      '\n' ∉ l.text.toList ∧ l.written ≠ Line.written ⟨0, "with Calc_Wrappers;"⟩ := by
    decide +kernel
  exact ⟨_, ⟨.forwardToSibling "Calc" "Compute" .shielded, .native, .wrappers, []⟩, hgen, rfl, rfl,
    _, hbody, shows_of_mem hcall, not_shows_of_written_ne (by decide) hplain⟩

open Wrappers in
/-- The body that calls an entry of another generator names the entry's package exactly if it is the
first body of the function. The first body names it in any case. -/
theorem foreign_package_imported_iff {s : Setting} {out : Output} (h : s.generate = .ok out)
    (hwanted : s.options.WantsWrappers) {f : FunctionBlock} (hf : f ∈ s.view.functions)
    (hlanguage : f.language ≠ .qgenAda ∧ f.language ≠ .qgenC) {i : Interface}
    (hi : i ∈ f.interfaces) (hrequired : i.direction = .required)
    (hbound : i.binding.language = .qgenAda) :
    let ahead := f.runtime = .thread ∧ i.synchronism = .asynchronous
    let body := if ahead then Destination.asyncBody else .wrappersBody
    let named := (⟨0, "with " ++ i.entryPoint ++ "_QGenAda_wrapper;"⟩ : Line)
    out.text? f.name body = some (page (fileLines s.view f body)) ∧
    foreignCall i <:+: fileLines s.view f body ∧
    (named ∈ fileLines s.view f body ↔ ¬ ahead) ∧
    out.text? f.name .wrappersBody = some (page (fileLines s.view f .wrappersBody)) ∧
    named ∈ fileLines s.view f .wrappersBody := by
  intro ahead body named
  have hforeign := (isForeign_eq_false_iff f.language).2 hlanguage
  have hlive := Setting.isDeadCall_eq_false h hwanted hf hlanguage hi hrequired (by simp [hbound])
  have hbody : (placed (.of f i)).2 = body := placed_of_required hrequired
  have hnamed : named = clause (Ada.foreignPackage i.entryPoint) := by
    simp only [named, clause, withClause, Ada.foreignPackage, String.append_assoc]
    rfl
  have hfirst : named ∈ fileLines s.view f .wrappersBody := by
    rw [hnamed, clause_mem_iff (filter_isClause_wrappersBody s.view f)]
    exact foreignPackage_mem_namedPackages hi hrequired hbound
  have hopen : (openFiles f).isOpen body = true := by
    by_cases hahead : ahead
    · have hsends : f.SendsAhead := ⟨hahead.1, i, hi, hrequired, hahead.2⟩
      simp [body, hahead, (isOpen_async f).2, hasAsyncPackage_iff, hsends]
    · simp [body, hahead, (isOpen_wrappers f).2]
  refine ⟨Setting.text?_wrappers h hwanted hf hforeign hopen, ?_, ?_,
    Setting.text?_wrappers h hwanted hf hforeign (isOpen_wrappers f).2, hfirst⟩
  · rw [← hbody]
    exact (foreignCall_infix_wrapperLines hrequired hbound hlive).trans
      (wrapperLines_infix_fileLines hi _)
  · by_cases hahead : ahead
    · simpa [body, hahead, hnamed] using foreignClause_not_mem_asyncBody s.view f i.entryPoint
    · simpa [body, hahead] using hfirst

/-- A call that waits for another generator. -/
def estimating : Interface :=
  { name := "Estimate", direction := .required, synchronism := .synchronous
    remoteFunction := some "Plant", remoteEntry := some "Kalman"
    inputs := [{ name := "x", type := "T-Real" }], binding := { language := .qgenAda } }

/-- One that does not wait. -/
def tracing : Interface :=
  { name := "Trace", direction := .required, remoteFunction := some "Plant"
    binding := { language := .qgenAda } }

/-- A thread that makes both. -/
def regulating : FunctionBlock :=
  { name := "Reg", runtime := .thread, process := some "p1", interfaces := [estimating, tracing] }

/-- The thread and the function it calls. -/
def regAndPlant : View where
  functions :=
    [regulating,
     { name := "Plant", runtime := .thread, process := some "p1"
       interfaces :=
         [{ name := "Kalman", direction := .provided, synchronism := .synchronous },
          { name := "Trace", direction := .provided }] }]
  sound := by decide

open Wrappers in
theorem foreign_package_imported_iff_of_reg :
    ∃ out, Setting.generate { view := regAndPlant } = .ok out ∧
      ∃ body, out.text? "Reg" .wrappersBody = some body ∧
        Shows body [⟨1, "procedure vm_Estimate(x : access T_Real) is"⟩, ⟨1, "begin"⟩,
          ⟨2, "Execute_Kalman_QGenAda(x);"⟩, ⟨1, "end vm_Estimate;"⟩] ∧
        Shows body [⟨0, "with Kalman_QGenAda_wrapper;"⟩] := by
  have hgen := Setting.generate_of_live { view := regAndPlant } (by decide)
  obtain ⟨hbody, hcall, hclause, -, -⟩ :=
    foreign_package_imported_iff hgen ⟨by decide, rfl, rfl⟩ (f := regulating)
      (by simp [regAndPlant]) (by decide) (i := estimating) (by simp [regulating]) rfl rfl
  have hwritten : foreignCall estimating =
      [⟨1, "procedure vm_Estimate(x : access T_Real) is"⟩, ⟨1, "begin"⟩,
       ⟨2, "Execute_Kalman_QGenAda(x);"⟩, ⟨1, "end vm_Estimate;"⟩] := by decide +kernel
  rw [hwritten] at hcall
  exact ⟨_, hgen, _, hbody, shows_of_infix hcall, shows_of_mem (hclause.2 (by decide))⟩

open Wrappers in
/-- A thread's asynchronous call of another generator stands in a body that does not name the
entry's package. -/
theorem foreign_package_not_imported :
    ∃ out, Setting.generate { view := regAndPlant } = .ok out ∧
      ∃ body, out.text? "Reg" .asyncBody = some body ∧
        Shows body [⟨1, "procedure vm_Trace is"⟩, ⟨1, "begin"⟩, ⟨2, "Execute_Trace_QGenAda;"⟩,
          ⟨1, "end vm_Trace;"⟩] ∧
        ¬ Shows body [⟨0, "with Trace_QGenAda_wrapper;"⟩] := by
  have hgen := Setting.generate_of_live { view := regAndPlant } (by decide)
  have hbody := Setting.text?_wrappers hgen ⟨by decide, rfl, rfl⟩ (f := regulating)
    (by simp [regAndPlant]) rfl (k := .asyncBody) (by decide)
  have hcall : foreignCall tracing <:+: fileLines regAndPlant regulating .asyncBody :=
    (foreignCall_infix_wrapperLines rfl rfl rfl).trans
      (wrapperLines_infix_fileLines (by simp [regulating]) _)
  have hplain : ∀ l ∈ fileLines regAndPlant regulating .asyncBody,
      '\n' ∉ l.text.toList ∧ l.written ≠ Line.written ⟨0, "with Trace_QGenAda_wrapper;"⟩ := by
    decide +kernel
  exact ⟨_, hgen, _, hbody, shows_of_infix hcall, not_shows_of_written_ne (by decide) hplain⟩

end AdaGlue
