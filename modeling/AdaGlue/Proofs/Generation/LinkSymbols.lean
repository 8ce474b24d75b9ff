/-
The symbols that a run exports to C: for each call that has a wrapper, for each provided interface
that has a skeleton, and for each initialisation of another generator's code. A symbol joins names
by underscores and keeps no record of where they were joined, so two of them are the same also where
the name of one function goes on with an underscore and what the interface of another begins with.
Names that keep apart exclude it.
-/
import AdaGlue.Proofs.Skeletons.Contents
import AdaGlue.Proofs.Wrappers.Linking
import AdaGlue.Proofs.Wrappers.Packages

namespace AdaGlue

/-! ## Joined names -/

/-- `name` begins with `front` and an underscore. -/
def GoesOn (name front : String) : Prop :=
  (front ++ "_").toList <+: name.toList

instance (name front : String) : Decidable (GoesOn name front) :=
  inferInstanceAs (Decidable (_ <+: _))

theorem goesOn_iff {name front : String} : GoesOn name front ↔ ∃ z, name = front ++ "_" ++ z := by
  constructor
  · rintro ⟨z, hz⟩
    refine ⟨String.ofList z, String.toList_injective ?_⟩
    simpa using hz.symm
  · rintro ⟨z, rfl⟩
    exact ⟨z.toList, by simp⟩

/-- The mark in the middle of one list stands where it does in the other, or before or behind it. -/
theorem parts_of_append_cons_eq {α : Type} {m : α} {a b c d : List α}
    (h : a ++ m :: b = c ++ m :: d) :
    (a = c ∧ b = d) ∨ (∃ z, c = a ++ m :: z ∧ b = z ++ m :: d) ∨
      ∃ z, a = c ++ m :: z ∧ d = z ++ m :: b := by
  rcases List.append_eq_append_iff.1 h with ⟨_ | ⟨x, z⟩, hc, hb⟩ | ⟨_ | ⟨x, z⟩, ha, hd⟩
  · exact .inl ⟨by simpa using hc.symm, by simpa using hb⟩
  · obtain ⟨rfl, rfl⟩ := List.cons.inj hb
    exact .inr (.inl ⟨z, hc, rfl⟩)
  · exact .inl ⟨by simpa using ha, by simpa using hd.symm⟩
  · obtain ⟨rfl, rfl⟩ := List.cons.inj hd
    exact .inr (.inr ⟨z, ha, rfl⟩)

/-- Two joined names are the same if their parts are, or if one front goes on with what the back of
the other begins with. -/
theorem joined_eq_iff {a b c d : String} :
    a ++ "_" ++ b = c ++ "_" ++ d ↔ (a = c ∧ b = d) ∨
      (∃ z, c = a ++ "_" ++ z ∧ b = z ++ "_" ++ d) ∨ ∃ z, a = c ++ "_" ++ z ∧ d = z ++ "_" ++ b := by
  constructor
  · intro h
    have hlist : a.toList ++ '_' :: b.toList = c.toList ++ '_' :: d.toList := by
      simpa using congrArg String.toList h
    have hname : ∀ {x y : String} {z : List Char}, x.toList = y.toList ++ '_' :: z →
        x = y ++ "_" ++ String.ofList z := by
      intro x y z hx
      apply String.toList_injective
      simpa using hx
    have hrest : ∀ {x y : String} {z : List Char}, x.toList = z ++ '_' :: y.toList →
        x = String.ofList z ++ "_" ++ y := by
      intro x y z hx
      apply String.toList_injective
      simpa using hx
    rcases parts_of_append_cons_eq hlist with ⟨hac, hbd⟩ | ⟨z, hc, hb⟩ | ⟨z, ha, hd⟩
    · exact .inl ⟨String.toList_injective hac, String.toList_injective hbd⟩
    · exact .inr (.inl ⟨.ofList z, hname hc, hrest hb⟩)
    · exact .inr (.inr ⟨.ofList z, hname ha, hrest hd⟩)
  · rintro (⟨rfl, rfl⟩ | ⟨z, rfl, rfl⟩ | ⟨z, rfl, rfl⟩) <;> simp [String.append_assoc]

/-! ## Exported procedures -/

/-- A procedure that generated text exports to C. -/
inductive Export where
  /-- The wrapper through which the function calls a required interface. -/
  | call (f : FunctionBlock) (i : Interface)
  /-- The user's procedure behind a provided interface. -/
  | entry (f : FunctionBlock) (i : Interface)
  /-- The procedure, among the function's wrappers, that initialises an entry of another
  generator. -/
  | init (f : FunctionBlock) (entry init : String)
  deriving DecidableEq, Repr

namespace Export

/-- The symbol that it is exported under. -/
def symbol : Export → String
  | .call f i => Ada.exportSymbol f.name i.name i.isAsynchronous
  | .entry f i => Ada.providedSymbol f.name i.name
  | .init _ e _ => "vm_QGen_Init_" ++ e

/-- The file that declares it. -/
def file : Export → String × Destination
  | .call f i => (f.name, (Wrappers.placed (.of f i)).1)
  | .entry f _ => (f.name, .skeletonDecl)
  | .init f _ _ => (f.name, .wrappersDecl)

/-- The line there that exports it. -/
def line (x : Export) : Line :=
  match x with
  | .call _ i => ⟨1, "pragma Export (C, vm_" ++ i.name ++ ", \"" ++ x.symbol ++ "\");"⟩
  | .entry _ i => ⟨1, "pragma Export(C, " ++ i.name ++ ", \"" ++ x.symbol ++ "\");"⟩
  | .init _ e _ => ⟨1, "pragma Export (C, QGen_Init_" ++ e ++ ", \"" ++ x.symbol ++ "\");"⟩

/-- What stands in the symbol before the last underscore that is not part of a name. -/
def front : Export → String
  | .call f i => (if i.isAsynchronous then "vm_async_" else "vm_") ++ f.name
  | .entry f _ => f.name ++ "_PI"
  | .init _ _ _ => "vm_QGen_Init"

/-- What stands behind it. -/
def back : Export → String
  | .call _ i => i.name
  | .entry _ i => i.name
  | .init _ e _ => e

/-- It initialises code of another generator. -/
def initialises : Export → Bool
  | .init _ _ _ => true
  | _ => false

theorem symbol_eq (x : Export) : x.symbol = x.front ++ "_" ++ x.back := by
  cases x with
  | call f i =>
    cases hasync : i.isAsynchronous <;>
      simp [symbol, front, back, Ada.exportSymbol, hasync, String.append_assoc]
  | entry f i => simp [symbol, front, back, Ada.providedSymbol, String.append_assoc]
  | init f e x => simp [symbol, front, back]

end Export

/-- What a run exports. -/
def Setting.Exports (s : Setting) : Export → Prop
  | .call f i => f ∈ s.view.functions ∧ s.options.WantsWrappers ∧
      (f.language ≠ .qgenAda ∧ f.language ≠ .qgenC) ∧ i ∈ f.interfaces ∧
      i.direction = .required ∧ i.binding.language ≠ .qgenC
  | .entry f i => f ∈ s.view.functions ∧ s.GetsSkeleton f ∧ i ∈ f.interfaces ∧
      i.direction = .provided
  | .init f entry init => f ∈ s.view.functions ∧ s.GetsWrappers f ∧
      ∃ i ∈ f.interfaces, i.direction = .required ∧ i.binding.language = .qgenAda ∧
        i.entryPoint = entry ∧ i.binding.init = some init

/-! ## Names that keep apart -/

/-- The words that symbols begin with. -/
def reservedFronts : List String :=
  ["vm", "async", "QGen"]

/-- No function bears the name of a reserved word or goes on from one, and none goes on from the
name of another. -/
structure View.NamesApart (v : View) : Prop where
  reserved : ∀ f ∈ v.functions, ∀ w ∈ reservedFronts, f.name ≠ w ∧ ¬ GoesOn f.name w
  apart : ∀ f ∈ v.functions, ∀ g ∈ v.functions, ¬ GoesOn f.name g.name

namespace View.NamesApart

variable {v : View} (h : v.NamesApart) {f g : FunctionBlock} (hf : f ∈ v.functions)
  {a b : String}

include h hf

theorem ne_reserved {w : String} (hw : w ∈ reservedFronts) :
    f.name ++ "_" ++ a ≠ w ++ "_" ++ b := by
  intro heq
  obtain ⟨hne, hon⟩ := h.reserved f hf w hw
  rcases joined_eq_iff.1 heq with ⟨hname, -⟩ | ⟨z, hz, -⟩ | ⟨z, hz, -⟩
  · exact hne hname
  · -- a reserved word has no underscore in it
    have hplain : ∀ w ∈ reservedFronts, '_' ∉ w.toList := by decide
    exact hplain w hw (by simp [hz])
  · exact hon (goesOn_iff.2 ⟨z, hz⟩)

theorem eq_of_joined_eq (hg : g ∈ v.functions) (heq : f.name ++ "_" ++ a = g.name ++ "_" ++ b) :
    f = g ∧ a = b := by
  rcases joined_eq_iff.1 heq with ⟨hname, hrest⟩ | ⟨z, hz, -⟩ | ⟨z, hz, -⟩
  · exact ⟨List.inj_on_of_nodup_map v.names_nodup hf hg hname, hrest⟩
  · exact (h.apart g hg f hf (goesOn_iff.2 ⟨z, hz⟩)).elim
  · exact (h.apart f hf g hg (goesOn_iff.2 ⟨z, hz⟩)).elim

end View.NamesApart

namespace Export

/-- Calls and initialisations come behind the same word. -/
theorem symbol_call (f : FunctionBlock) (i : Interface) :
    (call f i).symbol = "vm" ++ "_" ++
      ((if i.isAsynchronous then "async_" else "") ++ (f.name ++ "_" ++ i.name)) := by
  simp [symbol, Ada.exportSymbol, String.append_assoc]

theorem symbol_init (f : FunctionBlock) (e x : String) :
    (init f e x).symbol = "vm" ++ "_" ++ ("QGen" ++ "_" ++ ("Init_" ++ e)) := by
  simp [symbol, ← String.append_assoc]

theorem symbol_entry (f : FunctionBlock) (i : Interface) :
    (entry f i).symbol = f.name ++ "_" ++ ("PI_" ++ i.name) := by
  have hmark : "_PI_" = "_" ++ "PI_" := rfl
  simp only [symbol, Ada.providedSymbol, hmark, String.append_assoc]

end Export

theorem View.interface_ext (v : View) {f : FunctionBlock} (hf : f ∈ v.functions) {i j : Interface}
    (hi : i ∈ f.interfaces) (hj : j ∈ f.interfaces) (hname : i.name = j.name) : i = j :=
  List.inj_on_of_nodup_map (v.consistent hf).distinct hi hj hname

namespace View.NamesApart

variable {v : View} (h : v.NamesApart) {f g : FunctionBlock} {i j : Interface}
  (hf : f ∈ v.functions)

include h hf

theorem symbol_call_inj (hg : g ∈ v.functions) (hi : i ∈ f.interfaces) (hj : j ∈ g.interfaces)
    (heq : (Export.call f i).symbol = (Export.call g j).symbol) : Export.call f i = .call g j := by
  rw [Export.symbol_call, Export.symbol_call, String.append_right_inj] at heq
  have hsame : f.name ++ "_" ++ i.name = g.name ++ "_" ++ j.name := by
    have hahead : ∀ n, "async_" ++ n = "async" ++ "_" ++ n := by simp
    cases hi : i.isAsynchronous <;> cases hj : j.isAsynchronous <;>
      simp only [hi, hj, if_true, if_false, Bool.false_eq_true, String.empty_append, hahead] at heq
    · exact heq
    · exact (h.ne_reserved hf (by decide) heq).elim
    · exact (h.ne_reserved hg (by decide) heq.symm).elim
    · exact (String.append_right_inj _).1 heq
  obtain ⟨rfl, hname⟩ := h.eq_of_joined_eq hf hg hsame
  rw [v.interface_ext hf hi hj hname]

theorem symbol_entry_inj (hg : g ∈ v.functions) (hi : i ∈ f.interfaces) (hj : j ∈ g.interfaces)
    (heq : (Export.entry f i).symbol = (Export.entry g j).symbol) :
    Export.entry f i = .entry g j := by
  rw [Export.symbol_entry, Export.symbol_entry] at heq
  obtain ⟨rfl, hback⟩ := h.eq_of_joined_eq hf hg heq
  rw [v.interface_ext hf hi hj ((String.append_right_inj _).1 hback)]

theorem symbol_call_ne_init {e x : String} :
    (Export.call f i).symbol ≠ (Export.init g e x).symbol := by
  rw [Export.symbol_call, Export.symbol_init, Ne, String.append_right_inj]
  cases i.isAsynchronous with
  | false =>
    rw [if_neg Bool.false_ne_true, String.empty_append]
    exact h.ne_reserved hf (by decide)
  | true =>
    intro heq
    have hhead := congrArg (fun n : String => n.toList.head?) heq
    simp at hhead

theorem symbol_entry_ne_call : (Export.entry f i).symbol ≠ (Export.call g j).symbol := by
  rw [Export.symbol_entry, Export.symbol_call]
  exact h.ne_reserved hf (by decide)

theorem symbol_entry_ne_init {e x : String} :
    (Export.entry f i).symbol ≠ (Export.init g e x).symbol := by
  rw [Export.symbol_entry, Export.symbol_init]
  exact h.ne_reserved hf (by decide)

end View.NamesApart

/-- Among names that keep apart, two procedures have one symbol only if both initialise the same
entry. -/
theorem Setting.Exports.symbol_inj {s : Setting} (hapart : s.view.NamesApart) {x y : Export}
    (hx : s.Exports x) (hy : s.Exports y) (h : x.symbol = y.symbol) :
    x = y ∨ ∃ f g e a b, x = .init f e a ∧ y = .init g e b := by
  cases x with
  | call f i =>
    obtain ⟨hf, -, -, hi, -⟩ := hx
    cases y with
    | call g j => exact .inl (hapart.symbol_call_inj hf hy.1 hi hy.2.2.2.1 h)
    | entry g j => exact (hapart.symbol_entry_ne_call hy.1 h.symm).elim
    | init g e b => exact (hapart.symbol_call_ne_init hf h).elim
  | entry f i =>
    obtain ⟨hf, -, hi, -⟩ := hx
    cases y with
    | call g j => exact (hapart.symbol_entry_ne_call hf h).elim
    | entry g j => exact .inl (hapart.symbol_entry_inj hf hy.1 hi hy.2.2.1 h)
    | init g e b => exact (hapart.symbol_entry_ne_init hf h).elim
  | init f e a =>
    cases y with
    | call g j => exact (hapart.symbol_call_ne_init hy.1 h.symm).elim
    | entry g j => exact (hapart.symbol_entry_ne_init hy.1 h.symm).elim
    | init g e' b =>
      obtain rfl : e = e' := (String.append_right_inj _).1 h
      exact .inr ⟨f, g, e, a, b, rfl, rfl⟩

/-! ## Exporting lines -/

namespace Wrappers

/-- A required interface that Ada text can be given for has a wrapper of its own. -/
theorem procedure?_of_required {v : View} {f : FunctionBlock} {i : Interface} {d : Decision}
    (hd : v.decide f i = .ok d) (hrequired : i.direction = .required)
    (hbound : i.binding.language ≠ .qgenC) :
    procedure? f i d = some (required f i d, .of f i) := by
  obtain ⟨-, hrow, -, hplace⟩ := View.decide_eq_ok_iff.1 hd
  obtain ⟨r, convention, placement, ds⟩ := d
  subst hplace
  cases hrow with
  | skipped hc => exact absurd hc hbound
  | deferred _ hp | handedOn _ hp | fallen _ hp | ofUser _ hp =>
    rw [hp] at hrequired
    cases hrequired
  | _ => rfl

theorem call_line_mem_wrapperLines {v : View} {f : FunctionBlock} {i : Interface} {d : Decision}
    (hd : v.decide f i = .ok d) (hrequired : i.direction = .required)
    (hbound : i.binding.language ≠ .qgenC) :
    (Export.call f i).line ∈ wrapperLines v f i (placed (.of f i)).1 := by
  rw [wrapperLines_of_decide hd, procedure?_of_required hd hrequired hbound]
  dsimp only
  rw [linesIn_decl, if_pos rfl, (required_shows f i d).decl]
  simp [Procedure.declared, requiredProcedure, Export.line, Export.symbol, Ada.vmProcedure,
    ← String.append_assoc]

/-- The initialisations of other generators' code are declared at the end of the front, one for each
pair of an entry and a procedure that initialises it. -/
theorem foreignInits_suffix_frontLines (v : View) (f : FunctionBlock) :
    (foreignInits f).toList.flatMap (fun p => laidOut 0 (foreignInitDecl p.1)) <:+
      frontLines v f .wrappersDecl := by
  have hback : ∀ p ∈ (foreignInits f).toList, depthBehind 0 (foreignInitDecl p.1) = 0 :=
    fun _ _ => rfl
  have hclauses : depthBehind 0 ((declClauses v f).toList.map Edit.line) = 0 :=
    (laidOut_map_line 0 id _).2
  have hinitial : depthBehind 0 (initProcedure f).decl = 0 := by
    unfold initProcedure
    split <;> rfl
  rw [frontLines_wrappersDecl, preamble]
  dsimp only
  rw [laidOut_append]
  -- all that stands above leaves off at the margin
  simp only [depthBehind_append, depthBehind, hclauses, hinitial]
  rw [(laidOut_flatMap hback).1]
  exact List.suffix_append _ _

theorem init_line_mem_frontLines (v : View) {f : FunctionBlock} {i : Interface}
    (hi : i ∈ f.interfaces) (hrequired : i.direction = .required)
    (hbound : i.binding.language = .qgenAda) {init : String} (hinit : i.binding.init = some init) :
    (Export.init f i.entryPoint init).line ∈ frontLines v f .wrappersDecl := by
  have hmem : (i.entryPoint, init) ∈ (foreignInits f).toList := by
    rw [foreignInits, OrderedSet.mem_ofList, List.mem_filterMap]
    refine ⟨i, ?_, by rw [hinit]; rfl⟩
    simp [FunctionBlock.required, Interface.isRequired, isForeignAda, hi, hrequired, hbound]
  refine (foreignInits_suffix_frontLines v f).subset (List.mem_flatMap.2 ⟨_, hmem, ?_⟩)
  have hmark : ", \"vm_QGen_Init_" = ", \"" ++ "vm_QGen_Init_" := rfl
  simp only [foreignInitDecl, laidOut, Export.line, Export.symbol, hmark, String.append_assoc]
  exact List.mem_cons_of_mem _ List.mem_cons_self

end Wrappers

theorem Skeletons.entry_line_mem_fileLines (o : Options) {f : FunctionBlock} {i : Interface}
    (hi : i ∈ f.interfaces) (hprovided : i.direction = .provided) :
    (Export.entry f i).line ∈ fileLines o f .skeletonDecl := by
  refine List.mem_append_left _ (List.mem_append_right _ (List.mem_flatMap.2 ⟨i, hi, ?_⟩))
  simp [linesIn, interfaceDecl, hprovided, providedDecl, titled, laidOut, Export.line,
    Export.symbol]

/-- What a run exports stands in the file that declares it. -/
theorem Setting.Exports.shown {s : Setting} {out : Output} (h : s.generate = .ok out) {x : Export}
    (hx : s.Exports x) :
    ∃ text, out.text? x.file.1 x.file.2 = some text ∧ Shows text [x.line] := by
  cases x with
  | call f i =>
    obtain ⟨hf, hwanted, hlanguage, hi, hrequired, hbound⟩ := hx
    have hforeign := (isForeign_eq_false_iff f.language).2 hlanguage
    have hlive : deadCall? f i = none := by
      simp [deadCall?, Setting.isDeadCall_eq_false h hwanted hf hlanguage hi hrequired hbound]
    obtain ⟨d, hd, -⟩ := (decide_cases s.view hforeign i).2 hlive
    have hline := Wrappers.call_line_mem_wrapperLines hd hrequired hbound
    exact ⟨_, Setting.text?_wrappers h hwanted hf hforeign (Wrappers.isOpen_placed hi).1,
      shows_of_mem ((Wrappers.wrapperLines_infix_fileLines hi _).subset hline)⟩
  | entry f i =>
    obtain ⟨hf, hgets, hi, hprovided⟩ := hx
    exact ⟨_, (Setting.text?_skeletons h hf hgets).1,
      shows_of_mem (Skeletons.entry_line_mem_fileLines s.options hi hprovided)⟩
  | init f e x =>
    obtain ⟨hf, hgets, i, hi, hrequired, hbound, rfl, hinit⟩ := hx
    obtain ⟨rest, htext⟩ := Setting.text?_wrappers_front h hf hgets (Wrappers.isOpen_wrappers f).1
    exact ⟨_, htext, shows_of_mem (List.mem_append_left _
      (Wrappers.init_line_mem_frontLines s.view hi hrequired hbound hinit))⟩

/-- What a run exports is declared under its symbol. The symbols for two interfaces, or for an
interface and an initialisation, are the same exactly if their parts are, or if the front of one goes
on with what the back of the other begins with; those of initialisations differ for different
entries. With names that keep apart, no two interfaces and no interface and an initialisation share
a symbol. -/
theorem exported_symbols_eq_iff {s : Setting} {out : Output} (h : s.generate = .ok out)
    {x y : Export} (hx : s.Exports x) (hy : s.Exports y) :
    (∃ text, out.text? x.file.1 x.file.2 = some text ∧ Shows text [x.line]) ∧
    ((x.initialises && y.initialises) = false →
      (x.symbol = y.symbol ↔ (x.front = y.front ∧ x.back = y.back) ∨
        (∃ z, y.front = x.front ++ "_" ++ z ∧ x.back = z ++ "_" ++ y.back) ∨
        ∃ z, x.front = y.front ++ "_" ++ z ∧ y.back = z ++ "_" ++ x.back)) ∧
    (x.initialises = true → y.initialises = true → x.symbol = y.symbol → x.back = y.back) ∧
    (s.view.NamesApart → x.symbol = y.symbol →
      x = y ∨ ∃ f g e a b, x = .init f e a ∧ y = .init g e b) := by
  refine ⟨hx.shown h, fun _ => ?_, ?_, fun hapart heq => hx.symbol_inj hapart hy heq⟩
  · rw [x.symbol_eq, y.symbol_eq, joined_eq_iff]
  · cases x <;> cases y <;> simp [Export.initialises, Export.symbol, Export.back]

/-- A call that waits for a store. -/
def loading (name : String) : Interface :=
  { name := name, direction := .required, synchronism := .synchronous
    remoteFunction := some "Store" }

/-- A thread that makes the call. -/
def loader (name call : String) : FunctionBlock :=
  { name := name, runtime := .thread, process := some "p1", language := .ada
    interfaces := [loading call, { name := "Start", direction := .provided }] }

theorem exports_loader {v : View} {name call : String} (hf : loader name call ∈ v.functions) :
    Setting.Exports { view := v } (.call (loader name call) (loading call)) := by
  have hwanted : ({} : Options).WantsWrappers := ⟨by decide, rfl, rfl⟩
  exact ⟨hf, hwanted, ⟨by simp [loader], by simp [loader]⟩, by simp [loader], rfl,
    by simp [loading]⟩

/-- Two of them whose names keep apart. -/
def navAndMap : View where
  functions := [loader "Nav" "Map_Load", loader "Map" "Load"]
  sound := by decide

theorem exported_symbols_eq_iff_of_nav :
    navAndMap.NamesApart ∧
      ∃ out, Setting.generate { view := navAndMap } = .ok out ∧
        (∃ text, out.text? "Nav" .wrappersDecl = some text ∧
          Shows text [⟨1, "pragma Export (C, vm_Map_Load, \"vm_Nav_Map_Load\");"⟩]) ∧
        (Export.call (loader "Nav" "Map_Load") (loading "Map_Load")).symbol ≠
          (Export.call (loader "Map" "Load") (loading "Load")).symbol := by
  have hapart : navAndMap.NamesApart := ⟨by decide, by decide⟩
  have hgen := Setting.generate_of_live { view := navAndMap } (by decide)
  have hx : loader "Nav" "Map_Load" ∈ navAndMap.functions := by simp [navAndMap]
  have hy : loader "Map" "Load" ∈ navAndMap.functions := by simp [navAndMap]
  obtain ⟨htext, -, -, hinj⟩ := exported_symbols_eq_iff hgen (exports_loader hx) (exports_loader hy)
  refine ⟨hapart, _, hgen, htext, fun heq => ?_⟩
  rcases hinj hapart heq with hsame | ⟨f, g, e, a, b, hinit, -⟩
  · exact absurd hsame (by decide)
  · cases hinit

/-- Two of them whose names do not: one goes on from the other. -/
def navAndNavMap : View where
  functions := [loader "Nav" "Map_Load", loader "Nav_Map" "Load"]
  sound := by decide

/-- A call of one entry of another generator, with the procedure that initialises it. -/
def kalmanCall (name init : String) : Interface :=
  { name := name, direction := .required, synchronism := .synchronous
    remoteFunction := some "Filter", remoteEntry := some "Kalman"
    binding := { language := .qgenAda, init := some init } }

/-- A thread that calls it through two interfaces, which name different ones. -/
def kalmanCaller : FunctionBlock :=
  { name := "Reg", runtime := .thread, process := some "p1", language := .ada
    interfaces := [kalmanCall "Predict" "Init_A", kalmanCall "Correct" "Init_B"] }

def kalmanAlone : View where
  functions := [kalmanCaller]
  sound := by decide

open Wrappers in
/-- Two functions that export different calls under one symbol, and one function that exports two
initialisations of an entry under one symbol. -/
theorem exported_symbols_clash :
    (∃ out, Setting.generate { view := navAndNavMap } = .ok out ∧
      (∃ text, out.text? "Nav" .wrappersDecl = some text ∧
        Shows text [⟨1, "pragma Export (C, vm_Map_Load, \"vm_Nav_Map_Load\");"⟩]) ∧
      ∃ text, out.text? "Nav_Map" .wrappersDecl = some text ∧
        Shows text [⟨1, "pragma Export (C, vm_Load, \"vm_Nav_Map_Load\");"⟩]) ∧
    ∃ out, Setting.generate { view := kalmanAlone } = .ok out ∧
      ∃ text, out.text? "Reg" .wrappersDecl = some text ∧
        Shows text
          [⟨1, "procedure QGen_Init_Kalman;"⟩,
           ⟨1, "pragma Export (C, QGen_Init_Kalman, \"vm_QGen_Init_Kalman\");"⟩,
           ⟨1, ""⟩,
           ⟨1, "procedure QGen_Init_Kalman;"⟩,
           ⟨1, "pragma Export (C, QGen_Init_Kalman, \"vm_QGen_Init_Kalman\");"⟩,
           ⟨1, ""⟩] := by
  constructor
  · have hgen := Setting.generate_of_live { view := navAndNavMap } (by decide)
    have hx : loader "Nav" "Map_Load" ∈ navAndNavMap.functions := by simp [navAndNavMap]
    have hy : loader "Nav_Map" "Load" ∈ navAndNavMap.functions := by simp [navAndNavMap]
    exact ⟨_, hgen, (exports_loader hx).shown hgen, (exports_loader hy).shown hgen⟩
  · have hgen := Setting.generate_of_live { view := kalmanAlone } (by decide)
    have hreg : kalmanCaller ∈ kalmanAlone.functions := by simp [kalmanAlone]
    have hinits := (foreignInits_suffix_frontLines kalmanAlone kalmanCaller).isInfix
    refine ⟨_, hgen, _, Setting.text?_wrappers hgen ⟨by decide, rfl, rfl⟩ hreg rfl
      (isOpen_wrappers kalmanCaller).1, shows_of_infix ?_⟩
    exact hinits.trans ((List.prefix_append _ _).trans (List.prefix_append _ _)).isInfix

end AdaGlue
