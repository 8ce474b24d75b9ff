/-
The two files of a skeleton package agree. They are written in three turns: the fronts, then the
interfaces one by one, then the timers and the ends. Every provided interface is declared, exported
and given a stub with the same name and parameters, every required one is imported and renamed and
has no stub, and every timer has its declarations and its stub, all in the order of the function. An
instance of a generic is given each required interface and the controls of each timer once.
-/
import AdaGlue.Proofs.Skeletons.Contents
import AdaGlue.Proofs.Wrappers.Linking
import AdaGlue.Proofs.Wrappers.Packages

namespace AdaGlue

namespace Skeletons

/-! ## Parts of a package -/

section Parts

variable (o : Options) (f : FunctionBlock)

/-- What an interface adds to the declaration. -/
def declaration (i : Interface) : List Line :=
  laidOut 0 (interfaceDecl f i)

/-- The stub of a provided interface. -/
def stub (i : Interface) : List Line :=
  laidOut 0 (providedStub i)

/-- What a timer adds to the declaration. -/
def timerDeclaration (timer : String) : List Line :=
  laidOut 1 (timerDecl f timer)

/-- What it adds to the body. -/
def timerBody (timer : String) : List Line :=
  laidOut 1 (timerStub timer)

/-- What stands between the interfaces and the timers. -/
def aboveTimers : List Line :=
  laidOut 1 (queueDecl o f ++ timerTitle f)

/-- The instance of a generic, if the function is one. -/
def instanceLines : List Line :=
  laidOut 1 (instances f)

def endLines : List Line :=
  [⟨0, ""⟩, ⟨0, "end " ++ f.name ++ ";"⟩]

end Parts

/-! ## Files as parts -/

theorem laidOut_declEnd (o : Options) (f : FunctionBlock) :
    laidOut 0 (declEnd o f) =
      aboveTimers o f ++ f.timers.flatMap (timerDeclaration f) ++ instanceLines f ++
        endLines f := by
  have habove : depthBehind (depthBehind 1 (queueDecl o f)) (timerTitle f) = 1 := by
    unfold queueDecl timerTitle
    split <;> split <;> rfl
  have htimer : ∀ t ∈ f.timers, depthBehind 1 (timerDecl f t) = 1 := fun _ _ => rfl
  obtain ⟨htimers, htimers'⟩ := laidOut_flatMap htimer
  have hinstance : depthBehind 1 (instances f) = 1 := by
    unfold instances
    split <;> rfl
  simp only [declEnd, aboveTimers, laidOut_append, laidOut, depthBehind, depthBehind_append, habove,
    htimers, htimers', hinstance, List.nil_append]
  rfl

theorem laidOut_bodyEnd (f : FunctionBlock) :
    laidOut 0 (bodyEnd f) = f.timers.flatMap timerBody ++ endLines f := by
  have htimer : ∀ t ∈ f.timers, depthBehind 1 (timerStub t) = 1 := fun _ _ => rfl
  obtain ⟨htimers, htimers'⟩ := laidOut_flatMap htimer
  simp only [bodyEnd, laidOut_append, laidOut, depthBehind, depthBehind_append, htimers, htimers',
    List.nil_append]
  rfl

/-- Only provided interfaces get to the body. -/
theorem flatMap_interfaceBody (l : List Interface) :
    l.flatMap (fun i => laidOut 0 (interfaceBody i)) = (l.filter (·.isProvided)).flatMap stub := by
  induction l with
  | nil => rfl
  | cons i l ih =>
    rw [List.flatMap_cons, ih]
    cases hd : i.direction with
    | provided => simp [Interface.isProvided, hd, interfaceBody, stub]
    | required => simp [Interface.isProvided, hd, interfaceBody, laidOut]

theorem fileLines_skeletonDecl (o : Options) (f : FunctionBlock) :
    fileLines o f .skeletonDecl =
      laidOut 0 (declPreamble o f) ++ f.interfaces.flatMap (declaration f) ++
        (aboveTimers o f ++ f.timers.flatMap (timerDeclaration f) ++ instanceLines f ++
          endLines f) := by
  rw [← laidOut_declEnd]
  rfl

theorem fileLines_skeletonBody (o : Options) (f : FunctionBlock) :
    fileLines o f .skeletonBody =
      laidOut 0 (bodyPreamble f) ++ f.provided.flatMap stub ++ f.timers.flatMap timerBody ++
        endLines f := by
  rw [List.append_assoc _ _ (endLines f), ← laidOut_bodyEnd, FunctionBlock.provided,
    ← flatMap_interfaceBody]
  rfl

/-! ## What the lines declare -/

/-- The texts of the lines that begin with the word. -/
def textsWith (word : String) (lines : List Line) : List String :=
  (lines.filter fun l => word.toList.isPrefixOf l.text.toList).map (·.text)

/-- The procedures that lines declare, rename or implement, as they do it. -/
def procedureTexts (lines : List Line) : List String :=
  textsWith "procedure " lines

/-- The pragmas, which tie procedures to link symbols. -/
def pragmaTexts (lines : List Line) : List String :=
  textsWith "pragma " lines

/-- The formal parameters of the procedure of an interface. -/
def formals (i : Interface) : String :=
  Ada.parenthesized (Ada.skeletonFormals i)

theorem textsWith_append (word : String) (front back : List Line) :
    textsWith word (front ++ back) = textsWith word front ++ textsWith word back := by
  simp [textsWith]

/-- A comment declares nothing. -/
theorem textsWith_comment {word s : String} (hword : word.toList.head? = some 'p')
    (hs : s.toList.head? = some '-') (depth : Nat) (rest : List Edit) :
    textsWith word (laidOut depth (.line s :: rest)) = textsWith word (laidOut depth rest) := by
  have hother : word.toList.isPrefixOf s.toList = false := by
    obtain ⟨w, hw⟩ := List.head?_eq_some_iff.1 hword
    obtain ⟨r, hr⟩ := List.head?_eq_some_iff.1 hs
    rw [hw, hr]
    rfl
  simp [textsWith, laidOut, hother]

/-- The title above a procedure is a comment. -/
theorem textsWith_titled {word rule : String} (hword : word.toList.head? = some 'p')
    (hrule : rule.toList.head? = some '-') (depth : Nat) (title name : String) (rest : List Edit) :
    textsWith word (laidOut depth (titled rule title name ++ rest)) =
      textsWith word (laidOut depth rest) := by
  have htitle : ("--  " ++ title ++ " \"" ++ name ++ "\"").toList.head? = some '-' := by simp
  simp only [titled, List.cons_append, List.nil_append]
  rw [textsWith_comment hword hrule, textsWith_comment hword htitle, textsWith_comment hword hrule]

theorem head?_procedure : "procedure ".toList.head? = some 'p' := rfl

theorem head?_pragma : "pragma ".toList.head? = some 'p' := rfl

theorem head?_rules : declRule.toList.head? = some '-' ∧ bodyRule.toList.head? = some '-' ∧
    requiredRule.toList.head? = some '-' := ⟨rfl, rfl, rfl⟩

section Texts

variable (f : FunctionBlock) {i : Interface}

theorem texts_declaration_of_provided (h : i.direction = .provided) :
    procedureTexts (declaration f i) = ["procedure " ++ i.name ++ formals i ++ ";"] ∧
      pragmaTexts (declaration f i) =
        ["pragma Export(C, " ++ i.name ++ ", \"" ++ f.name ++ "_PI_" ++ i.name ++ "\");"] := by
  unfold procedureTexts pragmaTexts declaration interfaceDecl providedDecl
  simp only [h, laidOut, List.cons_append, List.nil_append]
  rw [textsWith_titled head?_procedure head?_rules.1, textsWith_titled head?_pragma head?_rules.1]
  constructor
  · simp [textsWith, laidOut, signature, formals]
  · simp [textsWith, laidOut, signature, Ada.providedSymbol, String.append_assoc]

theorem texts_declaration_of_required (h : i.direction = .required) :
    procedureTexts (declaration f i) =
        ["procedure " ++ i.name ++ formals i ++ ";",
         "procedure " ++ ("RI_" ++ i.name) ++ formals i ++ " renames " ++ i.name ++ ";"] ∧
      pragmaTexts (declaration f i) =
        ["pragma Import(C, " ++ i.name ++ ", \"" ++ f.name ++ "_RI_" ++ i.name ++ "\");"] := by
  unfold procedureTexts pragmaTexts declaration interfaceDecl requiredDecl
  simp only [h, laidOut, List.cons_append, List.nil_append]
  rw [textsWith_titled head?_procedure head?_rules.2.2,
    textsWith_titled head?_pragma head?_rules.2.2]
  constructor
  · simp [textsWith, laidOut, signature, formals, Ada.requiredRelay]
  · simp [textsWith, laidOut, signature, Ada.requiredSymbol, String.append_assoc]

theorem procedureTexts_stub (i : Interface) :
    procedureTexts (stub i) = ["procedure " ++ i.name ++ formals i ++ " is"] := by
  unfold procedureTexts stub providedStub
  simp only [laidOut, List.cons_append, List.nil_append]
  rw [textsWith_titled head?_procedure head?_rules.2.1]
  simp [textsWith, laidOut, signature, formals]

theorem procedureTexts_timerDeclaration (t : String) :
    procedureTexts (timerDeclaration f t) =
      ["procedure " ++ t ++ ";",
       "procedure Set_" ++ t ++ "(val: access asn1SccT_UInt32);",
       "procedure Reset_" ++ t ++ ";"] := by
  simp [procedureTexts, textsWith, timerDeclaration, timerDecl, laidOut]

theorem procedureTexts_timerBody (t : String) :
    procedureTexts (timerBody t) = ["procedure " ++ t ++ " is"] := by
  simp [procedureTexts, textsWith, timerBody, timerStub, laidOut]

/-- Above the timers only the middleware's own procedure is declared. -/
theorem procedureTexts_aboveTimers (o : Options) :
    procedureTexts (aboveTimers o f) =
      if o.middlewareInC then ["procedure Check_Queue(res: access asn1SccT_Boolean);"] else [] := by
  have htitle : ∀ depth, textsWith "procedure " (laidOut depth (timerTitle f)) = [] := by
    intro depth
    unfold timerTitle
    split
    · rfl
    · have hcomment : "--                  Timers management                 --".toList.head? =
          some '-' := rfl
      rw [textsWith_comment head?_procedure head?_rules.2.1,
        textsWith_comment head?_procedure hcomment,
        textsWith_comment head?_procedure head?_rules.2.1]
      rfl
  have hqueue : textsWith "procedure " (laidOut 1 (queueDecl o f)) =
      if o.middlewareInC then ["procedure Check_Queue(res: access asn1SccT_Boolean);"] else [] := by
    unfold queueDecl
    cases o.middlewareInC with
    | false => rfl
    | true => simp [textsWith, laidOut]
  unfold procedureTexts aboveTimers
  rw [laidOut_append, textsWith_append, htitle, hqueue, List.append_nil]

end Texts

/-! ## The instance of a generic -/

/-- Both controls of a timer, with their names in the generic and in the function. -/
def controls (timer : String) : List (String × String) :=
  [("Set_" ++ timer, "Set_" ++ timer), ("Reset_" ++ timer, "Reset_" ++ timer)]

/-- What an instance is given, one by one. -/
def bindings (f : FunctionBlock) : List (String × String) :=
  f.required.map (fun i => ("RI_" ++ i.name, i.name)) ++ f.timers.flatMap controls

def bindingText (b : String × String) : String :=
  b.1 ++ " => " ++ b.2

theorem intercalate_controls (timer : String) :
    ", ".intercalate ((controls timer).map bindingText) =
      "Set_" ++ timer ++ " => Set_" ++ timer ++ ", Reset_" ++ timer ++ " => Reset_" ++ timer := by
  refine String.toList_inj.1 ?_
  simp [controls, bindingText]

/-- The controls of a timer are given in one text, and yet count one by one. -/
theorem intercalate_actuals (f : FunctionBlock) :
    ", ".intercalate (actuals f) = ", ".intercalate ((bindings f).map bindingText) := by
  have hflat : (bindings f).map bindingText =
      (f.required.map (fun i => [bindingText ("RI_" ++ i.name, i.name)]) ++
        f.timers.map fun t => (controls t).map bindingText).flatten := by
    rw [bindings, List.map_append, List.map_flatMap, List.map_map, List.flatten_append,
      ← List.flatMap_def, ← List.flatMap_def, List.map_eq_flatMap]
    rfl
  have hsome : ∀ x ∈ f.required.map (fun i => [bindingText ("RI_" ++ i.name, i.name)]) ++
      f.timers.map (fun t => (controls t).map bindingText), x ≠ [] := by
    intro x hx
    rcases List.mem_append.1 hx with hx | hx
    · obtain ⟨i, -, rfl⟩ := List.mem_map.1 hx
      simp
    · obtain ⟨t, -, rfl⟩ := List.mem_map.1 hx
      simp [controls]
  have htimers : (", ".intercalate ∘ fun t => (controls t).map bindingText) = fun t =>
      "Set_" ++ t ++ " => Set_" ++ t ++ ", Reset_" ++ t ++ " => Reset_" ++ t :=
    funext intercalate_controls
  rw [hflat, intercalate_flatten hsome, List.map_append, List.map_map, List.map_map, htimers]
  rfl

theorem instanceLines_eq {f : FunctionBlock} {generic : String} (h : f.instanceOf = some generic) :
    instanceLines f =
      [⟨1, "package " ++ f.name ++ "_Instance is new " ++ generic ++
        Ada.parenthesized (", ".intercalate ((bindings f).map bindingText)) ++ ";"⟩] := by
  rw [← intercalate_actuals, instanceLines, instances, h]
  rfl

theorem get_of_isOpen_openFiles {found : Bool} {f : FunctionBlock} {k : Destination}
    (h : (openFiles found f).isOpen k = true) : (openFiles found f).drafts.get k = some "" := by
  cases found <;> cases k <;> first | rfl | cases h

end Skeletons

open Skeletons

/-- Where the user has no body yet, both skeleton files are written, whatever the function. -/
theorem Setting.generateFunction_skeletons_files (s : Setting) {f : FunctionBlock}
    (hfree : s.occupied (bodyPath f) = false) :
    ∃ out, s.generateFunction .skeletons f = .ok out ∧
      out.files =
        [Wrappers.fileWith f .skeletonDecl (fileLines s.options f .skeletonDecl),
         Wrappers.fileWith f .skeletonBody (fileLines s.options f .skeletonBody)] := by
  obtain ⟨e, htext, hfun, hdrafts⟩ := s.textOf_skeletons_eq_close f
  have hout := s.generateFunction_skeletons f
  have hfiles := Emission.files_eq_of_get hdrafts fun k hk => get_of_isOpen_openFiles hk
  refine ⟨_, hout, ?_⟩
  rw [← s.textOf_eq hout, htext]
  show e.files = _
  rw [hfiles, hfun, hfree]
  rfl

open Wrappers (fileWith) in
/-- Where the user has no body yet, the skeleton of a function is a pair of files that agree. The
declaration has a part for each interface and each timer, the body a stub for each provided
interface and each timer, all in the order of the function. A provided interface is declared,
exported and implemented with one name and one list of parameters; a required one is imported, has
one second name with the same parameters and is not implemented. An instance of a generic is given
each required interface and then both controls of each timer. -/
theorem skeleton_files_conform (s : Setting) (f : FunctionBlock)
    (hfree : s.occupied (bodyPath f) = false) :
    ∃ out, s.generateFunction .skeletons f = .ok out ∧
      out.files =
        [fileWith f .skeletonDecl (laidOut 0 (declPreamble s.options f) ++
           f.interfaces.flatMap (declaration f) ++
           (aboveTimers s.options f ++ f.timers.flatMap (timerDeclaration f) ++ instanceLines f ++
             endLines f)),
         fileWith f .skeletonBody (laidOut 0 (bodyPreamble f) ++ f.provided.flatMap stub ++
           f.timers.flatMap timerBody ++ [⟨0, ""⟩, ⟨0, "end " ++ f.name ++ ";"⟩])] ∧
      (∀ i ∈ f.provided,
        procedureTexts (declaration f i) = ["procedure " ++ i.name ++ formals i ++ ";"] ∧
        pragmaTexts (declaration f i) =
          ["pragma Export(C, " ++ i.name ++ ", \"" ++ f.name ++ "_PI_" ++ i.name ++ "\");"] ∧
        procedureTexts (stub i) = ["procedure " ++ i.name ++ formals i ++ " is"]) ∧
      (∀ i ∈ f.required,
        procedureTexts (declaration f i) =
          ["procedure " ++ i.name ++ formals i ++ ";",
           "procedure " ++ ("RI_" ++ i.name) ++ formals i ++ " renames " ++ i.name ++ ";"] ∧
        pragmaTexts (declaration f i) =
          ["pragma Import(C, " ++ i.name ++ ", \"" ++ f.name ++ "_RI_" ++ i.name ++ "\");"]) ∧
      (∀ t ∈ f.timers,
        procedureTexts (timerDeclaration f t) =
          ["procedure " ++ t ++ ";",
           "procedure Set_" ++ t ++ "(val: access asn1SccT_UInt32);",
           "procedure Reset_" ++ t ++ ";"] ∧
        procedureTexts (timerBody t) = ["procedure " ++ t ++ " is"]) ∧
      procedureTexts (aboveTimers s.options f) =
        (if s.options.middlewareInC then ["procedure Check_Queue(res: access asn1SccT_Boolean);"]
         else []) ∧
      ∀ generic, f.instanceOf = some generic →
        instanceLines f =
          [⟨1, "package " ++ f.name ++ "_Instance is new " ++ generic ++
            Ada.parenthesized (", ".intercalate ((bindings f).map bindingText)) ++ ";"⟩] := by
  obtain ⟨out, hout, hfiles⟩ := s.generateFunction_skeletons_files hfree
  rw [fileLines_skeletonDecl, fileLines_skeletonBody] at hfiles
  refine ⟨out, hout, hfiles, ?_, ?_, ?_, procedureTexts_aboveTimers f s.options,
    fun generic hgeneric => instanceLines_eq hgeneric⟩
  · intro i hi
    have hprovided : i.direction = .provided := by
      simpa [Interface.isProvided] using (List.mem_filter.1 hi).2
    obtain ⟨hdeclared, hexported⟩ := texts_declaration_of_provided f hprovided
    exact ⟨hdeclared, hexported, procedureTexts_stub i⟩
  · intro i hi
    have hrequired : i.direction = .required := by
      simpa [Interface.isRequired] using (List.mem_filter.1 hi).2
    exact texts_declaration_of_required f hrequired
  · intro t _
    exact ⟨procedureTexts_timerDeclaration f t, procedureTexts_timerBody t⟩

/-- An entry with parameters both ways. -/
def mixing : Interface :=
  { name := "Mix", direction := .provided, inputs := [{ name := "dose", type := "T-Real" }]
    outputs := [{ name := "done", type := "T-Bool" }] }

/-- A call with a parameter. -/
def pouring : Interface :=
  { name := "Pour", direction := .required, remoteFunction := some "Tank"
    inputs := [{ name := "dose", type := "T-Real" }] }

/-- An instance of a generic with both, and a timer that is listed twice. -/
def mixer : FunctionBlock :=
  { name := "Mixer", language := .ada, runtime := .thread, instanceOf := some "Generic_Mixer"
    interfaces := [pouring, mixing], timers := ["Tick", "Tick"] }

/-- The function and the one it calls. -/
def mixerAndTank : View where
  functions := [mixer, { name := "Tank", runtime := .thread }]
  sound := by decide

theorem skeleton_files_conform_of_mixer :
    ∃ out, Setting.generateFunction { view := mixerAndTank } .skeletons mixer = .ok out ∧
      out.files.map (fun g => (g.kind, g.path)) =
        [(.skeletonDecl, "Mixer/Mixer.ads"), (.skeletonBody, "Mixer/Mixer.adb")] ∧
      (procedureTexts (declaration mixer mixing) =
          ["procedure Mix(dose: access Asn1SccT_Real; done: access Asn1SccT_Bool);"] ∧
        procedureTexts (stub mixing) =
          ["procedure Mix(dose: access Asn1SccT_Real; done: access Asn1SccT_Bool) is"]) ∧
      procedureTexts (declaration mixer pouring) =
        ["procedure Pour(dose: access Asn1SccT_Real);",
         "procedure RI_Pour(dose: access Asn1SccT_Real) renames Pour;"] ∧
      instanceLines mixer =
        [⟨1, "package Mixer_Instance is new Generic_Mixer(RI_Pour => Pour, " ++
          "Set_Tick => Set_Tick, Reset_Tick => Reset_Tick, " ++
          "Set_Tick => Set_Tick, Reset_Tick => Reset_Tick);"⟩] := by
  obtain ⟨out, hout, hfiles, hprovided, hrequired, -, -, hinstance⟩ :=
    skeleton_files_conform { view := mixerAndTank } mixer rfl
  obtain ⟨hdeclared, -, hstub⟩ := hprovided mixing (by decide)
  obtain ⟨himported, -⟩ := hrequired pouring (by decide)
  refine ⟨out, hout, ?_, ⟨?_, ?_⟩, ?_, ?_⟩
  · rw [hfiles]
    decide +kernel
  · exact hdeclared.trans (by decide +kernel)
  · exact hstub.trans (by decide +kernel)
  · exact himported.trans (by decide +kernel)
  · exact (hinstance _ rfl).trans (by decide +kernel)

end AdaGlue
