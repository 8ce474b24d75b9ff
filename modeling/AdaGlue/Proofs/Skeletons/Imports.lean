/-
The packages that the declaration of a skeleton names in its context clauses: the basic types where
there are timers or the middleware is in C, the ASN.1 run-time and the modules of the types that are
used, the generic that the function is an instance of, and the package of its context. The modules
are gathered from the parameters of the interfaces and from the context, but their clauses are
written only if some interface has a parameter. So the module of a parameter is always named, and
that of a context parameter wherever there is a parameter besides.
-/
import AdaGlue.Proofs.Skeletons.Packages
import AdaGlue.Proofs.Wrappers.Entries
import AdaGlue.Proofs.Wrappers.Imports

namespace AdaGlue

open Wrappers (clause isClause isClause_clause clause_mem_iff filter_isClause_of_deep)

namespace Skeletons

/-! ## Modules -/

theorem any_hasParameters_iff (f : FunctionBlock) :
    f.interfaces.any (·.hasParameters) = true ↔ ∃ i ∈ f.interfaces, i.parameters ≠ [] := by
  rw [List.any_eq_true]
  refine exists_congr fun i => and_congr_right fun _ => ?_
  cases hin : i.inputs <;> cases hout : i.outputs <;>
    simp [Interface.hasParameters, Interface.parameters, hin, hout]

theorem module_mem_modules {f : FunctionBlock} {i : Interface} (hi : i ∈ f.interfaces)
    {p : Parameter} (hp : p ∈ i.parameters) (hmodule : p.module ≠ "") :
    Ada.identifier p.module ∈ (modules f).toList := by
  rw [modules, OrderedSet.mem_ofList]
  refine List.mem_append_left _ (List.mem_map_of_mem (List.mem_filter.2 ⟨?_, by simpa⟩))
  exact List.mem_flatMap.2 ⟨i, hi, hp⟩

theorem typeModule_mem_modules {f : FunctionBlock} {c : ContextParameter}
    (hc : c ∈ f.contextParameters) (hdata : c.isDirective = false) (hmodule : c.typeModule ≠ "") :
    Ada.identifier c.typeModule ∈ (modules f).toList := by
  rw [modules, OrderedSet.mem_ofList]
  refine List.mem_append_right _ (List.mem_map_of_mem (List.mem_filter.2 ⟨?_, by simpa⟩))
  exact List.mem_filter.2 ⟨hc, by simpa⟩

/-! ## Context clauses -/

/-- The packages that the declaration names. -/
def namedPackages (o : Options) (f : FunctionBlock) : List String :=
  (if !f.timers.isEmpty || o.middlewareInC then ["TASTE_Basictypes"] else []) ++
  (if f.interfaces.any (·.hasParameters) then "AdaASN1RTL" :: (modules f).toList else []) ++
  f.instanceOf.toList ++
  if f.dataContext.isEmpty then [] else ["Context_" ++ f.name]

/-- Edits at the margin whose lines have clauses for these packages. -/
structure Names (edits : List Edit) (packages : List String) : Prop where
  clauses : (laidOut 0 edits).filter isClause = packages.map clause
  back : depthBehind 0 edits = 0

namespace Names

theorem append {front back : List Edit} {packages more : List String} (h : Names front packages)
    (h' : Names back more) : Names (front ++ back) (packages ++ more) := by
  constructor
  · rw [laidOut_append, h.back, List.filter_append, h.clauses, h'.clauses, List.map_append]
  · rw [depthBehind_append, h.back, h'.back]

theorem nil : Names [] [] := ⟨rfl, rfl⟩

theorem clauses_for (package : String) : Names (Skeletons.clauses package) [package] := by
  refine ⟨?_, rfl⟩
  have huse : isClause ⟨0, "use " ++ package ++ ";"⟩ = false := by simp [isClause]
  show [clause package, ⟨0, "use " ++ package ++ ";"⟩, ⟨0, ""⟩].filter isClause = _
  rw [List.filter_cons_of_pos (isClause_clause package), List.filter_cons, huse]
  rfl

theorem flatMap_clauses (packages : List String) :
    Names (packages.flatMap Skeletons.clauses) packages := by
  induction packages with
  | nil => exact nil
  | cons p packages ih => exact (clauses_for p).append ih

theorem ite {wanted : Bool} {edits : List Edit} {packages : List String}
    (h : Names edits packages) :
    Names (if wanted then edits else []) (if wanted then packages else []) := by
  cases wanted
  · exact nil
  · exact h

end Names

theorem le_depth_flatMap {α : Type} {part : α → List Line} {l : List α}
    (h : ∀ a ∈ l, ∀ x ∈ part a, 1 ≤ x.depth) : ∀ x ∈ l.flatMap part, 1 ≤ x.depth := by
  intro x hx
  obtain ⟨a, ha, hx⟩ := List.mem_flatMap.1 hx
  exact h a ha x hx

section Front

variable (o : Options) (f : FunctionBlock)

theorem names_basicTypes :
    Names (basicTypes o f)
      (if !f.timers.isEmpty || o.middlewareInC then ["TASTE_Basictypes"] else []) :=
  .ite ⟨rfl, rfl⟩

theorem names_asn1Clauses :
    Names (asn1Clauses f)
      (if f.interfaces.any (·.hasParameters) then "AdaASN1RTL" :: (modules f).toList else []) :=
  .ite ((Names.clauses_for "AdaASN1RTL").append (.flatMap_clauses _))

theorem names_genericClause : Names (genericClause f) f.instanceOf.toList := by
  unfold genericClause
  cases f.instanceOf with
  | none => exact .nil
  | some generic =>
    refine ⟨?_, rfl⟩
    show [clause generic, ⟨0, ""⟩].filter isClause = _
    rw [List.filter_cons_of_pos (isClause_clause generic)]
    rfl

theorem names_contextClause :
    Names (contextClause f) (if f.dataContext.isEmpty then [] else ["Context_" ++ f.name]) := by
  unfold contextClause
  split
  · exact .nil
  · refine ⟨?_, rfl⟩
    have hcomment : isClause ⟨0, "--  Context Parameters defined in interface view"⟩ = false := rfl
    have hwith : (⟨0, "with Context_" ++ f.name ++ ";"⟩ : Line) = clause ("Context_" ++ f.name) :=
      congrArg (Line.mk 0) (String.toList_inj.1 (by simp [Wrappers.withClause]))
    simp only [laidOut]
    rw [List.filter_cons, hcomment, hwith, if_neg Bool.false_ne_true,
      List.filter_cons_of_pos (isClause_clause _)]
    rfl

/-- The variables for the context stand inside the package. -/
theorem names_variables :
    Names ([.line ("package " ++ f.name ++ " is"), .indent] ++
      f.dataContext.flatMap (contextVariable f) ++ [.dedent, .blank]) [] := by
  have hback : ∀ c ∈ f.dataContext, depthBehind 1 (contextVariable f c) = 1 := fun _ _ => rfl
  obtain ⟨hlines, hdepth⟩ := laidOut_flatMap hback
  have hpackage : isClause ⟨0, "package " ++ f.name ++ " is"⟩ = false := by simp [isClause]
  have hdeep : ∀ l ∈ f.dataContext.flatMap fun c => laidOut 1 (contextVariable f c),
      1 ≤ l.depth :=
    le_depth_flatMap fun c _ => by simp [contextVariable, laidOut]
  constructor
  · simp only [laidOut_append, laidOut, depthBehind, depthBehind_append, hlines, hdepth,
      List.filter_append, List.filter_cons, hpackage, filter_isClause_of_deep hdeep]
    rfl
  · simp only [depthBehind_append, depthBehind, hdepth]

theorem names_declPreamble : Names (declPreamble o f) (namedPackages o f) := by
  have htitle : Names
      [.line "-- This file was generated automatically: DO NOT MODIFY IT !", .blank,
       .line "-- Declaration of the provided and required interfaces", .blank,
       .line "--  pragma style_checks (off);", .line "--  pragma warnings (off);"] [] := ⟨rfl, rfl⟩
  have hall := ((((htitle.append (names_basicTypes o f)).append (names_asn1Clauses f)).append
    (names_genericClause f)).append (names_contextClause f)).append (names_variables f)
  simpa [declPreamble, namedPackages] using hall

/-- Interfaces, timers and instances stand inside the package. -/
theorem le_depth_parts :
    (∀ i, ∀ l ∈ declaration f i, 1 ≤ l.depth) ∧ (∀ l ∈ aboveTimers o f, 1 ≤ l.depth) ∧
      (∀ t, ∀ l ∈ timerDeclaration f t, 1 ≤ l.depth) ∧ ∀ l ∈ instanceLines f, 1 ≤ l.depth := by
  refine ⟨fun i => ?_, ?_, fun t => ?_, ?_⟩
  · unfold declaration interfaceDecl
    cases i.direction with
    | provided => simp [providedDecl, titled, laidOut]
    | required => simp [requiredDecl, titled, laidOut]
  · unfold aboveTimers queueDecl timerTitle
    split <;> split <;> simp [laidOut]
  · simp [timerDeclaration, timerDecl, laidOut]
  · unfold instanceLines instances
    split <;> simp [laidOut]

/-- The context clauses of the declaration stand in its front. -/
theorem filter_isClause_skeletonDecl :
    (fileLines o f .skeletonDecl).filter isClause = (namedPackages o f).map clause := by
  obtain ⟨hinterface, habove, htimer, hinstance⟩ := le_depth_parts o f
  have hinterfaces := le_depth_flatMap fun i (_ : i ∈ f.interfaces) => hinterface i
  have htimers := le_depth_flatMap fun t (_ : t ∈ f.timers) => htimer t
  -- behind the front only the end of the package stands at the margin
  have hend : (endLines f).filter isClause = [] := by simp [endLines, isClause]
  rw [fileLines_skeletonDecl]
  simp only [List.filter_append, (names_declPreamble o f).clauses,
    filter_isClause_of_deep hinterfaces, filter_isClause_of_deep habove,
    filter_isClause_of_deep htimers, filter_isClause_of_deep hinstance, hend, List.append_nil]

end Front

end Skeletons

open Skeletons

/-- The declaration is written whether the user has a body or not. -/
theorem Setting.generateFunction_skeletons_decl (s : Setting) (f : FunctionBlock) :
    ∃ out, s.generateFunction .skeletons f = .ok out ∧
      out.text? f.name .skeletonDecl = some (page (fileLines s.options f .skeletonDecl)) := by
  obtain ⟨e, htext, hfun, hdrafts⟩ := s.textOf_skeletons_eq_close f
  have hout := s.generateFunction_skeletons f
  refine ⟨_, hout, ?_⟩
  rw [← s.textOf_eq hout, htext, ← hfun, Emission.text?_close, hdrafts, hfun,
    (get_openFiles _ f).1]
  simp

/-- The declaration of a skeleton names the module of each parameter. Where some interface has a
parameter it names the module of each context parameter that carries data, too; without one it
names at most the basic types, the generic and the package of the context. -/
theorem asn1_modules_imported {s : Setting} {f : FunctionBlock} (hf : f ∈ s.view.functions)
    (hlanguage : f.language = .ada ∨ f.language = .qgenAda)
    (htext : s.options.concurrencyViewOnly = false) :
    ∃ lines,
      (∃ out, s.generateFunction .skeletons f = .ok out ∧
        out.text? f.name .skeletonDecl = some (page lines)) ∧
      (∀ out, s.generate = .ok out → .skeletons ∈ s.options.backends →
        out.text? f.name .skeletonDecl = some (page lines)) ∧
      (∀ i ∈ f.interfaces, ∀ p ∈ i.parameters, p.module ≠ "" →
        ⟨0, "with " ++ Ada.identifier p.module ++ ";"⟩ ∈ lines) ∧
      ((∃ i ∈ f.interfaces, i.parameters ≠ []) →
        ∀ c ∈ f.contextParameters, c.isDirective = false → c.typeModule ≠ "" →
          ⟨0, "with " ++ Ada.identifier c.typeModule ++ ";"⟩ ∈ lines) ∧
      ((∀ i ∈ f.interfaces, i.parameters = []) →
        ∀ package, ⟨0, "with " ++ package ++ ";"⟩ ∈ lines →
          package = "TASTE_Basictypes" ∨ f.instanceOf = some package ∨
            package = "Context_" ++ f.name) := by
  have hnamed : ∀ package, ⟨0, "with " ++ package ++ ";"⟩ ∈ fileLines s.options f .skeletonDecl ↔
      package ∈ namedPackages s.options f :=
    clause_mem_iff (filter_isClause_skeletonDecl s.options f)
  -- all modules pass through one gate, which a single parameter of any interface opens
  have hmodule : (∃ i ∈ f.interfaces, i.parameters ≠ []) → ∀ m ∈ (modules f).toList,
      ⟨0, "with " ++ m ++ ";"⟩ ∈ fileLines s.options f .skeletonDecl := by
    intro hcarries m hm
    rw [hnamed, namedPackages, (any_hasParameters_iff f).2 hcarries]
    simp [hm]
  refine ⟨fileLines s.options f .skeletonDecl, s.generateFunction_skeletons_decl f, ?_, ?_, ?_, ?_⟩
  · intro out h henabled
    exact (Setting.text?_skeletons h hf ⟨henabled, htext, hlanguage⟩).1
  · intro i hi p hp hne
    exact hmodule ⟨i, hi, List.ne_nil_of_mem hp⟩ _ (module_mem_modules hi hp hne)
  · intro hcarries c hc hdata hne
    exact hmodule hcarries _ (typeModule_mem_modules hc hdata hne)
  · intro hnone package hpackage
    have hplain : f.interfaces.any (·.hasParameters) = false := by
      rw [Bool.eq_false_iff, ne_eq, any_hasParameters_iff]
      rintro ⟨i, hi, hne⟩
      exact hne (hnone i hi)
    rw [hnamed, namedPackages, hplain, if_neg Bool.false_ne_true, List.append_nil] at hpackage
    rcases List.mem_append.1 hpackage with hfront | hcontext
    · rcases List.mem_append.1 hfront with hbasic | hgeneric
      · split at hbasic
        · exact .inl (List.mem_singleton.1 hbasic)
        · cases hbasic
      · exact .inr (.inl (Option.mem_toList.1 hgeneric))
    · split at hcontext
      · cases hcontext
      · exact .inr (.inr (List.mem_singleton.1 hcontext))

/-- A call in with a temperature. -/
def tuning : Interface :=
  { name := "Tune", direction := .provided
    inputs := [{ name := "goal", type := "T-Temp", module := "Heat-Types" }] }

/-- A function whose context is typed in another module. -/
def thermostat (interfaces : List Interface) : FunctionBlock :=
  { name := "Thermo", language := .ada, runtime := .thread, interfaces := interfaces
    contextParameters := [{ name := "gain", typeName := "T-Gain", typeModule := "Loop-Types" }] }

/-- The function by itself. -/
def heating : View where
  functions := [thermostat [tuning]]
  sound := by decide

theorem asn1_modules_imported_of_thermostat :
    ∃ lines,
      (∃ out, Setting.generateFunction { view := heating } .skeletons (thermostat [tuning]) =
          .ok out ∧
        out.text? "Thermo" .skeletonDecl = some (page lines)) ∧
      ⟨0, "with Heat_Types;"⟩ ∈ lines ∧ ⟨0, "with Loop_Types;"⟩ ∈ lines := by
  obtain ⟨lines, hfunction, -, hparameter, hcontext, -⟩ :=
    asn1_modules_imported (s := { view := heating }) (f := thermostat [tuning])
      (by simp [heating]) (.inl rfl) rfl
  refine ⟨lines, hfunction, ?_, ?_⟩
  · have h := hparameter tuning (by simp [thermostat])
      { name := "goal", type := "T-Temp", module := "Heat-Types" } (by decide) (by decide)
    have hmodule : "with " ++ Ada.identifier "Heat-Types" ++ ";" = "with Heat_Types;" := by
      decide +kernel
    rwa [hmodule] at h
  · have h := hcontext ⟨tuning, by simp [thermostat], by decide⟩
      { name := "gain", typeName := "T-Gain", typeModule := "Loop-Types" } (by simp [thermostat])
      (by decide) (by decide)
    have hmodule : "with " ++ Ada.identifier "Loop-Types" ++ ";" = "with Loop_Types;" := by
      decide +kernel
    rwa [hmodule] at h

/-- The function without the call. -/
def idling : View where
  functions := [thermostat []]
  sound := by decide

/-- Without a parameter the module of the context is used and not named. -/
theorem context_module_not_imported :
    ∃ out text, Setting.generate { view := idling } = .ok out ∧
      out.text? "Thermo" .skeletonDecl = some text ∧ ¬ Shows text [⟨0, "with Loop_Types;"⟩] := by
  have hgen := Setting.generate_of_live { view := idling } (by decide)
  have htext := (Setting.text?_skeletons hgen (f := thermostat []) (by simp [idling])
    ⟨by decide, rfl, .inl rfl⟩).1
  have hplain : ∀ l ∈ fileLines {} (thermostat []) .skeletonDecl,
      '\n' ∉ l.text.toList ∧ l.written ≠ Line.written ⟨0, "with Loop_Types;"⟩ := by
    decide +kernel
  exact ⟨_, _, hgen, htext, not_shows_of_written_ne (by decide) hplain⟩

end AdaGlue
