/-
The two files of a wrapper package agree. Both come from one list of procedures: the declaration
states the signature of each, and the body repeats it above the statements, in the same order and,
for the entries that exclude each other, inside the same protected object. Every interface has at
most one procedure in the packages of its function. One that calls, or that is called without
waiting, has exactly one, unless code in C of another generator stands behind it.
-/
import AdaGlue.Proofs.Wrappers.Blocks

namespace AdaGlue.Wrappers

/-! ## Procedures -/

/-- Texts one below the other at one depth. -/
def linesAt (depth : Nat) (texts : List String) : List Line :=
  texts.map (⟨depth, ·⟩)

/-- The texts with an ending behind the last one. -/
def endedBy (ending : String) : List String → List String
  | [] => []
  | [s] => [s ++ ending]
  | s :: r => s :: endedBy ending r

/-- The comment above a procedure. -/
def titleTexts (title name : String) : List String :=
  [rule, "--  " ++ title ++ " \"" ++ name ++ "\"", rule]

def IsComment (s : String) : Prop :=
  ∃ t, s = "--" ++ t

/-- The lines are the signature of a procedure of that name: the first one says so, and the others
go on with its formal parameters. -/
def IsSignature (name : String) (lines : List String) : Prop :=
  ∃ formals more, lines = ("procedure " ++ name ++ formals) :: more ∧
    ∀ s ∈ more, ∃ t, s = "   " ++ t

theorem isComment_of_mem_titleTexts {title name s : String} (h : s ∈ titleTexts title name) :
    IsComment s := by
  have hrule : IsComment rule := ⟨"----------------------------------------------------", rfl⟩
  simp only [titleTexts, List.mem_cons, List.not_mem_nil, or_false] at h
  rcases h with rfl | rfl | rfl
  · exact hrule
  · exact ⟨"  " ++ title ++ " \"" ++ name ++ "\"", by simp only [← String.append_assoc]; rfl⟩
  · exact hrule

theorem isSignature_singleton (name formals : String) :
    IsSignature name ["procedure " ++ name ++ formals] :=
  ⟨formals, [], rfl, by simp⟩

/-- An ending behind the last line leaves the first one that of the same procedure. -/
theorem IsSignature.endedBy {name : String} {lines : List String} (h : IsSignature name lines)
    (ending : String) : IsSignature name (endedBy ending lines) := by
  obtain ⟨formals, more, rfl, hmore⟩ := h
  cases more with
  | nil =>
    refine ⟨formals ++ ending, [], ?_, by simp⟩
    simp only [Wrappers.endedBy, String.append_assoc]
  | cons s r =>
    refine ⟨formals, Wrappers.endedBy ending (s :: r), rfl, ?_⟩
    clear formals
    induction r generalizing s with
    | nil =>
      obtain ⟨t, rfl⟩ := hmore s List.mem_cons_self
      simp [Wrappers.endedBy, String.append_assoc]
    | cons u r ih =>
      intro x hx
      rcases List.mem_cons.1 hx with rfl | hx
      · exact hmore x List.mem_cons_self
      · exact ih u (fun y hy => hmore y (List.mem_cons_of_mem _ hy)) x hx

/-- A procedure of a package, as far as its two files have to agree on it. Nothing in it but its
signature declares another procedure at the depth where it stands. -/
structure Procedure where
  /-- The interface that it stands for. -/
  interface : Interface
  name : String
  /-- The signature, line by line. -/
  signature : List String
  headed : IsSignature name signature
  /-- What stands above the declaration. -/
  declTitle : List String := []
  /-- What stands above the body. -/
  bodyTitle : List String := []
  commented : ∀ s ∈ declTitle ++ bodyTitle, IsComment s
  /-- What the declaration goes on with. -/
  remarks : List String := []
  remarked : ∀ s ∈ remarks, s = "" ∨ ∃ t, s = "pragma " ++ t
  /-- The word `is` has a line of its own in the body. -/
  isApart : Bool := false
  /-- What stands between the signature and the end of the body. -/
  block : List Edit
  nested : Block block

namespace Procedure

/-- The procedure as it is declared. -/
def declared (depth : Nat) (p : Procedure) : List Line :=
  linesAt depth (p.declTitle ++ endedBy ";" p.signature ++ p.remarks)

/-- The procedure with its body. -/
def implemented (depth : Nat) (p : Procedure) : List Line :=
  linesAt depth (p.bodyTitle ++
    if p.isApart then p.signature ++ ["is"] else endedBy " is" p.signature) ++
  laidOut depth p.block ++
  linesAt depth ["end " ++ p.name ++ ";", ""]

end Procedure

/-- The procedures of a package. Those inside its protected object stand between the others. -/
structure Content where
  above : List Procedure := []
  inside : List Procedure := []
  below : List Procedure := []

namespace Content

/-- All procedures, in the order of both files. -/
def procedures (c : Content) : List Procedure :=
  c.above ++ c.inside ++ c.below

/-- The interfaces that its procedures stand for. -/
def interfaces (c : Content) : List Interface :=
  c.procedures.map (·.interface)

/-- The protected object as it is declared; without procedures there is none. -/
def objectDeclared (f : FunctionBlock) (inside : List Procedure) : List Line :=
  if inside.isEmpty then []
  else
    linesAt 1 (titleTexts "Protected access to" f.name ++
      ["protected Protected_" ++ f.name ++ " is"]) ++
    inside.flatMap (·.declared 2) ++
    linesAt 1 ["end Protected_" ++ f.name ++ ";", ""]

/-- The protected object with the bodies. -/
def objectImplemented (f : FunctionBlock) (inside : List Procedure) : List Line :=
  if inside.isEmpty then []
  else
    linesAt 1 ["protected body Protected_" ++ f.name ++ " is"] ++
    inside.flatMap (·.implemented 2) ++
    linesAt 1 ["end Protected_" ++ f.name ++ ";", ""]

/-- What the declaration of the package of `f` holds. -/
def declared (f : FunctionBlock) (c : Content) : List Line :=
  c.above.flatMap (·.declared 1) ++ objectDeclared f c.inside ++ c.below.flatMap (·.declared 1)

/-- What the body of the package of `f` holds. -/
def implemented (f : FunctionBlock) (c : Content) : List Line :=
  c.above.flatMap (·.implemented 1) ++ objectImplemented f c.inside ++
    c.below.flatMap (·.implemented 1)

end Content

/-! ## Headers -/

/-- The text begins the declaration or the body of a procedure. -/
def beginsProcedure (s : String) : Bool :=
  "procedure ".toList.isPrefixOf s.toList

/-- The texts of the lines at the depth that do. -/
def headersAt (depth : Nat) (lines : List Line) : List String :=
  (lines.filter fun l => decide (l.depth = depth) && beginsProcedure l.text).map (·.text)

theorem headersAt_append (depth : Nat) (front back : List Line) :
    headersAt depth (front ++ back) = headersAt depth front ++ headersAt depth back := by
  simp [headersAt]

theorem headersAt_linesAt (depth : Nat) (texts : List String) :
    headersAt depth (linesAt depth texts) = texts.filter beginsProcedure := by
  induction texts with
  | nil => rfl
  | cons s texts ih =>
    rw [List.filter_cons, ← ih]
    cases hs : beginsProcedure s <;> simp [headersAt, linesAt, hs]

/-- What stands further in has no header at the depth. -/
theorem headersAt_of_deeper {depth : Nat} {lines : List Line} (h : ∀ l ∈ lines, depth < l.depth) :
    headersAt depth lines = [] := by
  have hnone : (lines.filter fun l => decide (l.depth = depth) && beginsProcedure l.text) = [] := by
    rw [List.filter_eq_nil_iff]
    intro l hl
    have hne := Nat.ne_of_gt (h l hl)
    simp [hne]
  rw [headersAt, hnone, List.map_nil]

theorem IsSignature.filter_beginsProcedure {name : String} {lines : List String}
    (h : IsSignature name lines) : lines.filter beginsProcedure = lines.take 1 := by
  obtain ⟨formals, more, rfl, hmore⟩ := h
  have hrest : more.filter beginsProcedure = [] := by
    rw [List.filter_eq_nil_iff]
    intro s hs
    obtain ⟨t, rfl⟩ := hmore s hs
    simp [beginsProcedure]
  rw [List.filter_cons_of_pos (by simp [beginsProcedure]), hrest]
  rfl

theorem filter_beginsProcedure_of_isComment {texts : List String} (h : ∀ s ∈ texts, IsComment s) :
    texts.filter beginsProcedure = [] := by
  rw [List.filter_eq_nil_iff]
  intro s hs
  obtain ⟨t, rfl⟩ := h s hs
  simp [beginsProcedure]

namespace Procedure

variable (p : Procedure) (depth : Nat)

/-- A procedure is declared under one header. -/
theorem headersAt_declared :
    headersAt depth (p.declared depth) = (endedBy ";" p.signature).take 1 := by
  have htitle := filter_beginsProcedure_of_isComment fun s hs =>
    p.commented s (List.mem_append_left _ hs)
  have hremarks : p.remarks.filter beginsProcedure = [] := by
    rw [List.filter_eq_nil_iff]
    intro s hs
    rcases p.remarked s hs with rfl | ⟨t, rfl⟩ <;> simp [beginsProcedure]
  rw [declared, headersAt_linesAt, List.filter_append, List.filter_append, htitle, hremarks,
    (p.headed.endedBy ";").filter_beginsProcedure, List.nil_append, List.append_nil]

/-- So is its body; whatever it declares for itself stands further in. -/
theorem headersAt_implemented :
    headersAt depth (p.implemented depth) =
      (if p.isApart then p.signature else endedBy " is" p.signature).take 1 := by
  have htitle := filter_beginsProcedure_of_isComment fun s hs =>
    p.commented s (List.mem_append_right _ hs)
  obtain ⟨declarations, doing, hblock, hinside⟩ := p.nested.opens depth
  have hbegin : headersAt depth [⟨depth, "begin"⟩] = [] := headersAt_linesAt depth ["begin"]
  have hend : ["end " ++ p.name ++ ";", ""].filter beginsProcedure = [] := by
    simp [beginsProcedure]
  have hheader : (if p.isApart then p.signature ++ ["is"] else endedBy " is" p.signature).filter
      beginsProcedure = (if p.isApart then p.signature else endedBy " is" p.signature).take 1 := by
    split
    · rw [List.filter_append, p.headed.filter_beginsProcedure]
      simp [beginsProcedure]
    · exact (p.headed.endedBy " is").filter_beginsProcedure
  rw [implemented, hblock]
  simp only [headersAt_append, headersAt_linesAt, List.filter_append, htitle, hheader, hbegin, hend,
    headersAt_of_deeper fun l hl => hinside l (List.mem_append_left _ hl),
    headersAt_of_deeper fun l hl => hinside l (List.mem_append_right _ hl), List.nil_append,
    List.append_nil]

end Procedure

/-! ## The procedures of a function -/

theorem isSignature_asyncSignature (i : Interface) : IsSignature i.name (asyncSignature i) := by
  unfold asyncSignature
  cases i.inputs.head? with
  | none => exact isSignature_singleton _ _
  | some p =>
    refine ⟨_, _, congrArg (· :: _) (String.append_assoc ..), fun s hs => ?_⟩
    obtain rfl := List.mem_singleton.1 hs
    exact ⟨p.name ++ "Buffer : PolyORB_HI_Generated.Types." ++ Ada.identifier p.type ++
      "_Buffer_Impl", by simp only [String.append_assoc]⟩

/-- The procedure of an interface that is called without waiting. -/
def asyncProvidedProcedure (i : Interface) (route : Route) : Procedure where
  interface := i
  name := i.name
  signature := endedBy ")" (asyncSignature i)
  headed := (isSignature_asyncSignature i).endedBy ")"
  declTitle := titleTexts "Provided Interface" i.name
  bodyTitle := titleTexts "Asynchronous Provided Interface" i.name
  commented := fun _ hs =>
    (List.mem_append.1 hs).elim isComment_of_mem_titleTexts isComment_of_mem_titleTexts
  remarks := [""]
  remarked := by simp
  isApart := true
  block :=
    [.indent] ++ (i.inputs.head?.map overlay).getD [] ++ forwardedCall i route ++ [.dedent]
  nested := block_forwardedCall i route

/-- The procedure of an interface that calls. -/
def requiredProcedure (f : FunctionBlock) (i : Interface) (d : Decision) : Procedure where
  interface := i
  name := Ada.vmProcedure i.name
  signature := [requiredSignature i d.convention]
  headed := isSignature_singleton _ _
  declTitle := titleTexts (requiredTitle i) i.name
  bodyTitle := titleTexts (requiredTitle i) i.name
  commented := fun _ hs =>
    (List.mem_append.1 hs).elim isComment_of_mem_titleTexts isComment_of_mem_titleTexts
  remarks :=
    ["pragma Export (C, " ++ Ada.vmProcedure i.name ++ ", \"" ++
       Ada.exportSymbol f.name i.name i.isAsynchronous ++ "\");",
     ""]
  remarked := by
    intro s hs
    simp only [List.mem_cons, List.not_mem_nil, or_false] at hs
    rcases hs with rfl | rfl
    · right
      exact ⟨"Export (C, " ++ Ada.vmProcedure i.name ++ ", \"" ++
        Ada.exportSymbol f.name i.name i.isAsynchronous ++ "\");",
        by simp only [← String.append_assoc]; rfl⟩
    · exact .inl rfl
  block := requiredBody f i d.route
  nested := block_requiredBody f i d.route

/-- The procedure of an entry inside the protected object. -/
def entryProcedure (f : FunctionBlock) (i : Interface) : Procedure where
  interface := i
  name := i.name
  signature := [entrySignature i]
  headed := isSignature_singleton _ _
  commented := by simp
  remarked := by simp
  block :=
    let name := "C_" ++ i.name
    [.indent,
     .line ("procedure " ++ name ++ Ada.parenthesized (Ada.bufferFormals i) ++ ";"),
     .line ("pragma Import (C, " ++ name ++ ", \"" ++ Ada.userSymbol f.name i.name ++ "\");"),
     .dedent,
     .line "begin",
     .indent,
     .line (name ++ Ada.parenthesized (Ada.bufferActuals i.inputs i.outputs) ++ ";"),
     .dedent]
  nested := @block_declared [.line _, .line _] [.line _] ⟨rfl, fun _ => rfl⟩ ⟨rfl, fun _ => rfl⟩

/-- The procedure of an entry outside it, with a title of its own. -/
def plainEntryProcedure (f : FunctionBlock) (i : Interface) : Procedure :=
  { entryProcedure f i with
    declTitle := titleTexts "Unprotected Provided Interface" i.name
    commented := fun _ hs => (List.mem_append.1 hs).elim isComment_of_mem_titleTexts
      (by simp [entryProcedure])
    remarks := [""]
    remarked := by simp }

/-- The procedure that a decision asks for, and the pair of files it goes to. -/
def wrapper? (f : FunctionBlock) (i : Interface) (d : Decision) : Option (Procedure × Placement) :=
  match d.route with
  | .skip | .deferToAggregate => none
  | .forwardToVm _ | .forwardToSibling _ _ _ => some (asyncProvidedProcedure i d.route, .wrappers)
  | _ => some (requiredProcedure f i d, d.placement)

/-- The procedure of `i` in a pair of files, if it has one there. -/
def wrapperIn? (v : View) (f : FunctionBlock) (x : Placement) (i : Interface) : Option Procedure :=
  (v.decide f i).toOption.bind fun d =>
    (wrapper? f i d).bind fun w => if w.2 = x then some w.1 else none

/-- The entries that stand inside the protected object: a thread has none. -/
def guardedEntries (f : FunctionBlock) : List Interface :=
  if f.isPassive then shieldedEntries f else []

/-- The procedures of a function's package. -/
def contentOf (v : View) (f : FunctionBlock) : Placement → Content
  | .wrappers =>
    { above := f.interfaces.filterMap (wrapperIn? v f .wrappers)
      inside := (guardedEntries f).map (entryProcedure f)
      below := (plainEntries f).map (plainEntryProcedure f) }
  | .asyncWrappers =>
    { above := f.interfaces.filterMap (wrapperIn? v f .asyncWrappers) }

/-! ## Fragments as procedures -/

theorem closeLast_eq_map_endedBy (ending : String) (l : List String) :
    closeLast ending l = (endedBy ending l).map .line := by
  induction l with
  | nil => rfl
  | cons s l ih =>
    cases l with
    | nil => rfl
    | cons t r => exact congrArg (Edit.line s :: ·) ih

theorem endedBy_endedBy (a b : String) (l : List String) :
    endedBy b (endedBy a l) = endedBy (a ++ b) l := by
  induction l with
  | nil => rfl
  | cons s l ih =>
    cases l with
    | nil => simp only [endedBy, String.append_assoc]
    | cons t r =>
      cases r with
      | nil => exact congrArg (s :: ·) ih
      | cons u r => exact congrArg (s :: ·) ih

@[simp] theorem laidOut_lines (depth : Nat) (texts : List String) :
    laidOut depth (texts.map .line) = linesAt depth texts :=
  (laidOut_map_line depth id texts).1

@[simp] theorem depthBehind_lines (depth : Nat) (texts : List String) :
    depthBehind depth (texts.map .line) = depth :=
  (laidOut_map_line depth id texts).2

@[simp] theorem linesAt_nil (depth : Nat) : linesAt depth [] = [] := rfl

@[simp] theorem linesAt_cons (depth : Nat) (s : String) (r : List String) :
    linesAt depth (s :: r) = ⟨depth, s⟩ :: linesAt depth r := rfl

@[simp] theorem linesAt_append (depth : Nat) (a b : List String) :
    linesAt depth (a ++ b) = linesAt depth a ++ linesAt depth b :=
  List.map_append

theorem titled_eq_map_titleTexts (title name : String) :
    titled title name = (titleTexts title name).map .line := rfl

/-- The fragment is laid out as the procedure, one level inside its package. -/
structure Fragment.Shows (x : Fragment) (p : Procedure) : Prop where
  decl : laidOut 0 x.decl = p.declared 1
  body : laidOut 0 x.body = p.implemented 1

theorem depthBehind_forwardedCall (depth : Nat) (i : Interface) (route : Route) :
    depthBehind (depth + 1) (forwardedCall i route) = depth + 1 := by
  unfold forwardedCall userImport
  cases route with
  | forwardToVm symbol => cases i.inputs.head? <;> rfl
  | _ => rfl

theorem depthBehind_overlay (depth : Nat) (p : Parameter) : depthBehind depth (overlay p) = depth :=
  rfl

theorem asyncProvided_shows (i : Interface) (route : Route) :
    (asyncProvided i route).Shows (asyncProvidedProcedure i route) := by
  constructor
  · simp [asyncProvided, asyncProvidedProcedure, Procedure.declared, titled_eq_map_titleTexts,
      closeLast_eq_map_endedBy, endedBy_endedBy, laidOut_append, laidOut]
  · cases hin : i.inputs.head? <;>
      simp [asyncProvided, asyncProvidedProcedure, Procedure.implemented, titled_eq_map_titleTexts,
        closeLast_eq_map_endedBy, laidOut_append, laidOut, depthBehind_overlay,
        depthBehind_forwardedCall, hin]

theorem required_shows (f : FunctionBlock) (i : Interface) (d : Decision) :
    (required f i d).Shows (requiredProcedure f i d) := by
  constructor
  · simp [required, requiredProcedure, Procedure.declared, titled_eq_map_titleTexts, endedBy,
      laidOut_append, laidOut]
  · simp [required, requiredProcedure, Procedure.implemented, titled_eq_map_titleTexts, endedBy,
      laidOut_append, laidOut, (block_requiredBody f i d.route).back]

theorem forwardingBody_shows (f : FunctionBlock) (i : Interface) (depth : Nat) :
    laidOut depth (forwardingBody f i) = (entryProcedure f i).implemented depth ∧
      depthBehind depth (forwardingBody f i) = depth := by
  constructor
  · simp [forwardingBody, entryProcedure, Procedure.implemented, endedBy, laidOut]
  · rfl

theorem plainProcedure_shows (f : FunctionBlock) (i : Interface) :
    (plainProcedure f i).Shows (plainEntryProcedure f i) := by
  constructor
  · simp [plainProcedure, plainEntryProcedure, entryProcedure, Procedure.declared,
      titled_eq_map_titleTexts, endedBy, laidOut_append, laidOut]
  · exact (forwardingBody_shows f i 1).1

theorem protectedObject_shows (f : FunctionBlock) {entries : List Interface} (hne : entries ≠ []) :
    laidOut 0 (protectedObject f entries).decl =
        Content.objectDeclared f (entries.map (entryProcedure f)) ∧
      laidOut 0 (protectedObject f entries).body =
        Content.objectImplemented f (entries.map (entryProcedure f)) := by
  have hsome : (entries.map (entryProcedure f)).isEmpty = false := by simpa using hne
  constructor
  · obtain ⟨hlines, hdepth⟩ := laidOut_map_line 2 (fun i => entrySignature i ++ ";") entries
    have hdeclared : (entries.map (entryProcedure f)).flatMap (·.declared 2) =
        entries.map fun i => ⟨2, entrySignature i ++ ";"⟩ := by
      rw [List.flatMap_map]
      exact List.map_eq_flatMap.symm
    simp [protectedObject, Content.objectDeclared, hsome, titled_eq_map_titleTexts, laidOut_append,
      laidOut, hlines, hdepth, hdeclared, Ada.protectedObject, ← String.append_assoc]
  · have hbody : ∀ i ∈ entries, depthBehind 2 (forwardingBody f i) = 2 :=
      fun i _ => (forwardingBody_shows f i 2).2
    obtain ⟨hlines, hdepth⟩ := laidOut_flatMap hbody
    simp only [(forwardingBody_shows f _ 2).1] at hlines
    simp [protectedObject, Content.objectImplemented, hsome, laidOut_append, laidOut, hlines,
      hdepth, List.flatMap_map, Ada.protectedObject, ← String.append_assoc]

/-! ## Files as contents -/

theorem linesIn_decl (p : Fragment) (x y : Placement) :
    p.linesIn (placed y) (placed x).1 = if y = x then laidOut 0 p.decl else [] := by
  cases x <;> cases y <;> simp [Fragment.linesIn, placed]

theorem linesIn_body (p : Fragment) (x y : Placement) :
    p.linesIn (placed y) (placed x).2 = if y = x then laidOut 0 p.body else [] := by
  cases x <;> cases y <;> simp [Fragment.linesIn, placed]

/-- A decision asks for a fragment exactly if it asks for a procedure, which the fragment shows. -/
theorem procedure?_wrapper? (f : FunctionBlock) (i : Interface) (d : Decision) :
    (procedure? f i d = none ∧ wrapper? f i d = none) ∨
      ∃ x p y, procedure? f i d = some (x, y) ∧ wrapper? f i d = some (p, y) ∧ x.Shows p := by
  unfold procedure? wrapper?
  cases d.route with
  | skip => exact .inl ⟨rfl, rfl⟩
  | deferToAggregate => exact .inl ⟨rfl, rfl⟩
  | forwardToVm symbol => exact .inr ⟨_, _, _, rfl, rfl, asyncProvided_shows i _⟩
  | forwardToSibling callee entry accessor =>
    exact .inr ⟨_, _, _, rfl, rfl, asyncProvided_shows i _⟩
  | _ => exact .inr ⟨_, _, _, rfl, rfl, required_shows f i d⟩

theorem wrapperLines_eq (v : View) (f : FunctionBlock) (x : Placement) (i : Interface) :
    wrapperLines v f i (placed x).1 = ((wrapperIn? v f x i).map (·.declared 1)).getD [] ∧
      wrapperLines v f i (placed x).2 = ((wrapperIn? v f x i).map (·.implemented 1)).getD [] := by
  unfold wrapperLines wrapperIn?
  rcases v.decide f i with e | d
  · exact ⟨rfl, rfl⟩
  · rcases procedure?_wrapper? f i d with ⟨hx, hp⟩ | ⟨q, p, y, hx, hp, hshows⟩
    · simp [hx, hp, Except.toOption]
    · simp only [hx, hp, Except.toOption, Option.bind_some, linesIn_decl, linesIn_body]
      split
      · exact ⟨hshows.decl, hshows.body⟩
      · exact ⟨rfl, rfl⟩

theorem flatMap_filterMap {α β γ : Type} (g : α → Option β) (h : β → List γ) (l : List α) :
    (l.filterMap g).flatMap h = l.flatMap fun a => ((g a).map h).getD [] := by
  induction l with
  | nil => rfl
  | cons a l ih =>
    rw [List.flatMap_cons, ← ih]
    cases ha : g a with
    | none => rw [List.filterMap_cons_none ha]; rfl
    | some b => rw [List.filterMap_cons_some ha]; rfl

/-- The entries of a function are declared, and have their bodies, as its content says. -/
theorem entryLines_eq (f : FunctionBlock) :
    entryLines f .wrappersDecl =
        Content.objectDeclared f ((guardedEntries f).map (entryProcedure f)) ++
          ((plainEntries f).map (plainEntryProcedure f)).flatMap (·.declared 1) ∧
      entryLines f .wrappersBody =
        Content.objectImplemented f ((guardedEntries f).map (entryProcedure f)) ++
          ((plainEntries f).map (plainEntryProcedure f)).flatMap (·.implemented 1) := by
  have hdecl : ∀ p : Fragment, p.linesIn (placed .wrappers) .wrappersDecl = laidOut 0 p.decl :=
    fun p => linesIn_decl p .wrappers .wrappers
  have hbody : ∀ p : Fragment, p.linesIn (placed .wrappers) .wrappersBody = laidOut 0 p.body :=
    fun p => linesIn_body p .wrappers .wrappers
  have hplain := fun i => plainProcedure_shows f i
  unfold entryLines aggregate guardedEntries
  simp only [List.flatMap_append, List.flatMap_map, hdecl, hbody, (hplain _).decl, (hplain _).body]
  by_cases hpassive : f.isPassive = true
  swap
  · simp [hpassive, given, Content.objectDeclared, Content.objectImplemented]
  by_cases hnone : shieldedEntries f = []
  · simp [hnone, given, Content.objectDeclared, Content.objectImplemented]
  · obtain ⟨hobject, hobject'⟩ := protectedObject_shows f hnone
    simp [hpassive, hnone, given, hobject, hobject']

theorem entryLines_async (f : FunctionBlock) :
    entryLines f .asyncDecl = [] ∧ entryLines f .asyncBody = [] := by
  simp [entryLines, Fragment.linesIn, placed]

/-- Both files of a package are its front, its procedures and its end. -/
theorem fileLines_eq (v : View) (f : FunctionBlock) (x : Placement) :
    fileLines v f (placed x).1 =
        frontLines v f (placed x).1 ++ (contentOf v f x).declared f ++ endLines f (placed x).1 ∧
      fileLines v f (placed x).2 =
        frontLines v f (placed x).2 ++ (contentOf v f x).implemented f ++
          endLines f (placed x).2 := by
  have hdecl := fun i => (wrapperLines_eq v f x i).1
  have hbody := fun i => (wrapperLines_eq v f x i).2
  unfold fileLines
  simp only [hdecl, hbody, ← flatMap_filterMap]
  cases x with
  | wrappers =>
    obtain ⟨hentries, hentries'⟩ := entryLines_eq f
    simp only [placed, hentries, hentries', contentOf, Content.declared, Content.implemented,
      List.append_assoc, and_self]
  | asyncWrappers =>
    obtain ⟨hentries, hentries'⟩ := entryLines_async f
    simp [placed, hentries, hentries', contentOf, Content.declared, Content.implemented,
      Content.objectDeclared, Content.objectImplemented]

/-! ## Interfaces with a procedure -/

/-- The interface has a procedure that is written when its turn comes. -/
def hasWrapper (i : Interface) : Bool :=
  i.binding.language != .qgenC && (i.isRequired || i.isAsynchronous)

/-- The name of the procedure of an interface. -/
def procedureName (i : Interface) : String :=
  if i.isRequired then Ada.vmProcedure i.name else i.name

/-- Which decisions ask for a procedure, and where it goes. -/
theorem wrapper?_of_decide {v : View} {f : FunctionBlock} {i : Interface} {d : Decision}
    (h : v.decide f i = .ok d) :
    (hasWrapper i = false ∧ wrapper? f i d = none) ∨
      hasWrapper i = true ∧ ∃ p, wrapper? f i d = some (p, .of f i) ∧ p.interface = i ∧
        p.name = procedureName i := by
  obtain ⟨-, hrow, -, hplace⟩ := View.decide_eq_ok_iff.1 h
  obtain ⟨r, convention, placement, ds⟩ := d
  subst hplace
  have hprovided : i.direction = .provided → Placement.of f i = .wrappers := by
    intro hd
    simp [Placement.of, Interface.isRequired, hd]
  unfold hasWrapper procedureName Interface.isRequired Interface.isAsynchronous
  cases hrow with
  | skipped hc => exact .inl ⟨by simp [hc], rfl⟩
  | deferred _ hd hs => exact .inl ⟨by simp [hd, hs], rfl⟩
  | handedOn hc hd hs | fallen hc hd hs | ofUser hc hd hs =>
    rw [hprovided hd]
    exact .inr ⟨by simp [hc, hs], _, rfl, rfl, by simp [hd, asyncProvidedProcedure]⟩
  | foreign hq hd =>
    exact .inr ⟨by simp [hq, hd], _, rfl, rfl, by simp [hd, requiredProcedure]⟩
  | called hn hd | flushed hn hd | unflushed hn hd | dispatched hn hd =>
    exact .inr ⟨by simp [hn.2, hd], _, rfl, rfl, by simp [hd, requiredProcedure]⟩

/-- Unless it is a dead call, an interface has its procedure in the pair of files it is placed in,
or none at all. -/
theorem wrapperIn?_of_live {v : View} {f : FunctionBlock} (hforeign : f.language.isForeign = false)
    {i : Interface} (hlive : deadCall? f i = none) (x : Placement) :
    (wrapperIn? v f x i).map (·.interface) =
        (if hasWrapper i && decide (Placement.of f i = x) then some i else none) ∧
      ∀ p, wrapperIn? v f x i = some p → p.name = procedureName p.interface := by
  obtain ⟨d, hd, -⟩ := (decide_cases v hforeign i).2 hlive
  unfold wrapperIn?
  rw [hd]
  rcases wrapper?_of_decide hd with ⟨hno, hnone⟩ | ⟨hyes, p, hsome, hp, hname⟩
  · simp [Except.toOption, hnone, hno]
  · simp only [Except.toOption, Option.bind_some, hsome, hyes, Bool.true_and, decide_eq_true_eq]
    split
    · simp [hp, hname]
    · simp

theorem hasWrapper_iff {i : Interface} :
    hasWrapper i = true ↔ i.binding.language ≠ .qgenC ∧
      (i.direction = .required ∨ i.synchronism = .asynchronous) := by
  simp [hasWrapper, Interface.isRequired, Interface.isAsynchronous]

theorem placement_eq_asyncWrappers_iff {f : FunctionBlock} {i : Interface} :
    Placement.of f i = .asyncWrappers ↔
      f.runtime = .thread ∧ i.direction = .required ∧ i.synchronism = .asynchronous := by
  simp [Placement.of, FunctionBlock.isThread, Interface.isRequired, Interface.isAsynchronous,
    and_assoc]

theorem placement_eq_wrappers_iff {f : FunctionBlock} {i : Interface} :
    Placement.of f i = .wrappers ↔
      ¬ (f.runtime = .thread ∧ i.direction = .required ∧ i.synchronism = .asynchronous) := by
  rw [← placement_eq_asyncWrappers_iff]
  cases Placement.of f i <;> simp

/-- An entry has no procedure before all others have theirs. -/
theorem hasWrapper_of_isEntry {i : Interface} (h : isEntry i = true) : hasWrapper i = false := by
  simp only [isEntry, Interface.isProvided, Interface.isSynchronous, Bool.and_eq_true,
    decide_eq_true_eq] at h
  simp [hasWrapper, Interface.isRequired, Interface.isAsynchronous, h.1, h.2.1]

theorem isEntry_iff {i : Interface} :
    isEntry i = true ↔ i.binding.language ≠ .qgenC ∧ i.direction = .provided ∧
      i.synchronism = .synchronous := by
  simp only [isEntry, Interface.isProvided, Interface.isSynchronous, Bool.and_eq_true,
    decide_eq_true_eq, bne_iff_ne]
  tauto

theorem mem_guardedEntries {f : FunctionBlock} {i : Interface} :
    i ∈ guardedEntries f ↔ i ∈ f.interfaces ∧ isEntry i = true ∧ i.protection = .shielded ∧
      f.runtime = .passive := by
  unfold guardedEntries shieldedEntries FunctionBlock.isPassive
  rw [syncEntries_eq_filter]
  by_cases hpassive : f.runtime = .passive
  · simp [hpassive, and_comm]
  · simp [hpassive]

theorem mem_plainEntries {f : FunctionBlock} {i : Interface} :
    i ∈ plainEntries f ↔ i ∈ f.interfaces ∧ isEntry i = true ∧ i.protection = .unshielded := by
  unfold plainEntries
  rw [syncEntries_eq_filter]
  cases hx : i.protection <;> simp [hx]

theorem guardedEntries_eq_filter (f : FunctionBlock) :
    guardedEntries f = f.interfaces.filter fun i => i.binding.language ≠ .qgenC ∧
      i.direction = .provided ∧ i.synchronism = .synchronous ∧ i.protection = .shielded ∧
      f.runtime = .passive := by
  unfold guardedEntries shieldedEntries FunctionBlock.isPassive
  rw [syncEntries_eq_filter, List.filter_filter]
  by_cases hpassive : f.runtime = .passive
  · simp only [hpassive, decide_true, if_true]
    refine List.filter_congr fun i _ => ?_
    rw [Bool.eq_iff_iff, Bool.and_eq_true, isEntry_iff, decide_eq_true_eq, decide_eq_true_eq]
    tauto
  · simp [hpassive]

theorem plainEntries_eq_filter (f : FunctionBlock) :
    plainEntries f = f.interfaces.filter fun i => i.binding.language ≠ .qgenC ∧
      i.direction = .provided ∧ i.synchronism = .synchronous ∧ i.protection = .unshielded := by
  have hother : ∀ x : Protection, x ≠ .shielded ↔ x = .unshielded := by
    intro x
    cases x <;> simp
  unfold plainEntries
  rw [syncEntries_eq_filter, List.filter_filter]
  refine List.filter_congr fun i _ => ?_
  rw [Bool.eq_iff_iff, Bool.and_eq_true, isEntry_iff, decide_eq_true_eq, decide_eq_true_eq, hother]
  tauto

section Interfaces

variable (v : View) {f : FunctionBlock} (hforeign : f.language.isForeign = false)
  (hlive : ∀ i ∈ f.interfaces, deadCall? f i = none)

include hforeign hlive

theorem map_interface_filterMap_wrapperIn? (x : Placement) :
    (f.interfaces.filterMap (wrapperIn? v f x)).map (·.interface) =
      f.interfaces.filter fun i => hasWrapper i && decide (Placement.of f i = x) := by
  rw [List.map_filterMap, ← List.filterMap_eq_filter]
  refine List.filterMap_congr fun i hi => ?_
  rw [(wrapperIn?_of_live hforeign (hlive i hi) x).1]
  rfl

/-- The procedures of both packages stand for interfaces of the function, in their order. -/
theorem interfaces_contentOf :
    (contentOf v f .wrappers).above.map (·.interface) = (f.interfaces.filter fun i =>
      i.binding.language ≠ .qgenC ∧ (i.direction = .required ∨ i.synchronism = .asynchronous) ∧
        ¬ (f.runtime = .thread ∧ i.direction = .required ∧ i.synchronism = .asynchronous)) ∧
    (contentOf v f .wrappers).inside.map (·.interface) = (f.interfaces.filter fun i =>
      i.binding.language ≠ .qgenC ∧ i.direction = .provided ∧ i.synchronism = .synchronous ∧
        i.protection = .shielded ∧ f.runtime = .passive) ∧
    (contentOf v f .wrappers).below.map (·.interface) = (f.interfaces.filter fun i =>
      i.binding.language ≠ .qgenC ∧ i.direction = .provided ∧ i.synchronism = .synchronous ∧
        i.protection = .unshielded) ∧
    (contentOf v f .asyncWrappers).interfaces = f.interfaces.filter fun i =>
      i.binding.language ≠ .qgenC ∧
        f.runtime = .thread ∧ i.direction = .required ∧ i.synchronism = .asynchronous := by
  have hwritten := map_interface_filterMap_wrapperIn? v hforeign hlive
  have hinside : (guardedEntries f).map ((·.interface) ∘ entryProcedure f) = guardedEntries f :=
    List.map_id _
  have hbelow : (plainEntries f).map ((·.interface) ∘ plainEntryProcedure f) = plainEntries f :=
    List.map_id _
  refine ⟨(hwritten .wrappers).trans ?_, ?_, ?_, ?_⟩
  · refine List.filter_congr fun i _ => ?_
    rw [Bool.eq_iff_iff, Bool.and_eq_true, hasWrapper_iff, decide_eq_true_eq, decide_eq_true_eq,
      placement_eq_wrappers_iff, and_assoc]
  · rw [contentOf, List.map_map, hinside, guardedEntries_eq_filter]
  · rw [contentOf, List.map_map, hbelow, plainEntries_eq_filter]
  · rw [Content.interfaces, Content.procedures, contentOf, List.append_nil, List.append_nil,
      hwritten]
    refine List.filter_congr fun i _ => ?_
    rw [Bool.eq_iff_iff, Bool.and_eq_true, hasWrapper_iff, decide_eq_true_eq, decide_eq_true_eq,
      placement_eq_asyncWrappers_iff]
    tauto

/-- No interface has two procedures. -/
theorem nodup_interfaces_contentOf (hdistinct : f.interfaces.Nodup) :
    ((contentOf v f .wrappers).interfaces ++ (contentOf v f .asyncWrappers).interfaces).Nodup := by
  obtain ⟨habove, hinside, hbelow, hahead⟩ := interfaces_contentOf v hforeign hlive
  have hwrappers : (contentOf v f .wrappers).interfaces =
      (contentOf v f .wrappers).above.map (·.interface) ++
        (contentOf v f .wrappers).inside.map (·.interface) ++
        (contentOf v f .wrappers).below.map (·.interface) := by
    simp [Content.interfaces, Content.procedures]
  rw [hwrappers, habove, hinside, hbelow, hahead]
  -- the four kinds exclude each other
  refine List.nodup_append.2 ⟨List.nodup_append.2 ⟨List.nodup_append.2
    ⟨hdistinct.filter _, hdistinct.filter _, ?_⟩, hdistinct.filter _, ?_⟩,
    hdistinct.filter _, ?_⟩
  · rintro i hi _ hj rfl
    simp only [List.mem_filter, decide_eq_true_eq] at hi hj
    obtain ⟨-, -, hprovided, hsync, -⟩ := hj
    simp [hprovided, hsync] at hi
  · rintro i hi _ hj rfl
    simp only [List.mem_append, List.mem_filter, decide_eq_true_eq] at hi hj
    obtain ⟨-, -, hprovided, hsync, hopen⟩ := hj
    simp [hprovided, hsync, hopen] at hi
  · rintro i hi _ hj rfl
    simp only [List.mem_append, List.mem_filter, decide_eq_true_eq] at hi hj
    obtain ⟨-, -, hthread, hrequired, hasync⟩ := hj
    simp [hthread, hrequired, hasync] at hi

/-- Every procedure bears the name of its interface. -/
theorem name_of_mem_contentOf {x : Placement} {p : Procedure}
    (hp : p ∈ (contentOf v f x).procedures) : p.name = procedureName p.interface := by
  have habove : ∀ {x}, p ∈ f.interfaces.filterMap (wrapperIn? v f x) →
      p.name = procedureName p.interface := by
    intro x hp
    obtain ⟨i, hi, hp⟩ := List.mem_filterMap.1 hp
    exact (wrapperIn?_of_live hforeign (hlive i hi) x).2 p hp
  have hentry : ∀ i ∈ syncEntries f, procedureName i = i.name := by
    intro i hi
    rw [syncEntries_eq_filter, List.mem_filter] at hi
    simp only [isEntry, Interface.isProvided, Bool.and_eq_true, decide_eq_true_eq] at hi
    simp [procedureName, Interface.isRequired, hi.2.1]
  cases x with
  | wrappers =>
    simp only [Content.procedures, contentOf, List.mem_append, List.mem_map] at hp
    rcases hp with (hp | ⟨i, hi, rfl⟩) | ⟨i, hi, rfl⟩
    · exact habove hp
    · unfold guardedEntries at hi
      split at hi
      · exact (hentry i (List.mem_of_mem_filter hi)).symm
      · cases hi
    · exact (hentry i (List.mem_of_mem_filter hi)).symm
  | asyncWrappers =>
    simp only [Content.procedures, contentOf, List.append_nil] at hp
    exact habove hp

end Interfaces

/-- The packages of a function: a thread that calls ahead has two. -/
def packagesOf (f : FunctionBlock) : List Placement :=
  .wrappers :: if f.SendsAhead then [.asyncWrappers] else []

/-- A file of `f` with these lines. -/
def fileWith (f : FunctionBlock) (k : Destination) (lines : List Line) : GeneratedFile :=
  ⟨f.name, k, k.path f.name, page lines⟩

theorem opened_openFiles (v : View) (f : FunctionBlock) :
    (openFiles f).opened = (packagesOf f).flatMap fun x => [(placed x).1, (placed x).2] := by
  rw [← (begin_grows v f).opened_eq, opened_begin v f]
  unfold packagesOf
  split <;> rfl

end AdaGlue.Wrappers

namespace AdaGlue

theorem Emission.files_eq_of_get {e e' : Emission} {lines : Destination → List Line}
    (h : ∀ k, e'.drafts.get k = (e.drafts.get k).map (· ++ page (lines k)))
    (hempty : ∀ k, e.isOpen k = true → e.drafts.get k = some "") :
    e'.files = e.opened.map fun k => Wrappers.fileWith e'.function k (lines k) := by
  have hopened : e'.opened = e.opened := by
    refine List.filter_congr fun k _ => ?_
    unfold isOpen
    rw [h, Option.isSome_map]
  rw [files_eq, hopened]
  refine List.map_congr_left fun k hk => ?_
  have hopen : e.isOpen k = true := (List.mem_filter.1 hk).2
  rw [h, hempty k hopen]
  simp [Wrappers.fileWith]

namespace Setting

open Wrappers

variable (s : Setting) {f : FunctionBlock}

/-- The wrapper files of a function hold the same procedures in pairs. -/
theorem files_textOf_wrappers_eq (hforeign : f.language.isForeign = false)
    (hlive : Backend.wrappers.fault? f = none) :
    (s.textOf .wrappers f).files = (packagesOf f).flatMap fun x =>
      [fileWith f (placed x).1 (frontLines s.view f (placed x).1 ++
         (contentOf s.view f x).declared f ++ endLines f (placed x).1),
       fileWith f (placed x).2 (frontLines s.view f (placed x).2 ++
         (contentOf s.view f x).implemented f ++ endLines f (placed x).2)] := by
  obtain ⟨e, htext, hfun, hdrafts⟩ := s.textOf_wrappers_eq_close hforeign hlive
  have hfiles := Emission.files_eq_of_get hdrafts fun k hk => get_openFiles hk
  have hclose : (s.textOf .wrappers f).files = e.files := congrArg Output.files htext
  rw [hclose, hfiles, hfun, opened_openFiles s.view f, List.map_flatMap]
  refine List.flatMap_congr fun x _ => ?_
  obtain ⟨hdecl, hbody⟩ := fileLines_eq s.view f x
  rw [List.map_cons, List.map_cons, List.map_nil, hdecl, hbody]

/-- A function whose wrappers are made has no dead call. -/
theorem live_of_generateFunction {out : Output} (h : s.generateFunction .wrappers f = .ok out) :
    Backend.wrappers.fault? f = none ∧ s.textOf .wrappers f = out := by
  refine ⟨?_, s.textOf_eq h⟩
  rcases hx : Backend.wrappers.fault? f with _ | x
  · rfl
  · rw [s.generateFunction_of_fault hx] at h
    cases h

end Setting

open Wrappers in
/-- The wrapper packages of a function come in pairs of files, one more where a thread calls ahead.
Both files of a pair hold the same procedures in the same order, each with one signature and under
no other header, and the body puts into the protected object those that the declaration puts there.
No interface of the function has two procedures. Each one that calls or does not wait has one,
unless code in C of another generator stands behind it, in the second package exactly where a thread
calls ahead through it. Behind these stand the entries that are waited for: inside the protected
object of a passive function those that exclude each other, and then the others. -/
theorem declarations_and_bodies_conform {s : Setting} {f : FunctionBlock}
    (hf : f ∈ s.view.functions) (hlanguage : f.language ≠ .qgenAda ∧ f.language ≠ .qgenC)
    {out : Output} (h : s.generateFunction .wrappers f = .ok out) :
    let content := contentOf s.view f
    (out.files = (packagesOf f).flatMap fun x =>
      [fileWith f (placed x).1 (frontLines s.view f (placed x).1 ++
         (content x).declared f ++ endLines f (placed x).1),
       fileWith f (placed x).2 (frontLines s.view f (placed x).2 ++
         (content x).implemented f ++ endLines f (placed x).2)]) ∧
    (∀ x, ∀ p ∈ (content x).procedures,
      p.name = (if p.interface.isRequired then "vm_" ++ p.interface.name else p.interface.name) ∧
      ∀ depth, headersAt depth (p.declared depth) = (endedBy ";" p.signature).take 1 ∧
        headersAt depth (p.implemented depth) =
          (if p.isApart then p.signature else endedBy " is" p.signature).take 1) ∧
    ((content .wrappers).interfaces ++ (content .asyncWrappers).interfaces).Nodup ∧
    (content .wrappers).above.map (·.interface) = (f.interfaces.filter fun i =>
      i.binding.language ≠ .qgenC ∧ (i.direction = .required ∨ i.synchronism = .asynchronous) ∧
        ¬ (f.runtime = .thread ∧ i.direction = .required ∧ i.synchronism = .asynchronous)) ∧
    (content .wrappers).inside.map (·.interface) = (f.interfaces.filter fun i =>
      i.binding.language ≠ .qgenC ∧ i.direction = .provided ∧ i.synchronism = .synchronous ∧
        i.protection = .shielded ∧ f.runtime = .passive) ∧
    (content .wrappers).below.map (·.interface) = (f.interfaces.filter fun i =>
      i.binding.language ≠ .qgenC ∧ i.direction = .provided ∧ i.synchronism = .synchronous ∧
        i.protection = .unshielded) ∧
    (content .asyncWrappers).interfaces = f.interfaces.filter fun i =>
      i.binding.language ≠ .qgenC ∧
        f.runtime = .thread ∧ i.direction = .required ∧ i.synchronism = .asynchronous := by
  have hforeign := (isForeign_eq_false_iff f.language).2 hlanguage
  obtain ⟨hfault, rfl⟩ := s.live_of_generateFunction h
  have hlive : ∀ i ∈ f.interfaces, deadCall? f i = none := List.findSome?_eq_none_iff.1 hfault
  obtain ⟨habove, hinside, hbelow, hahead⟩ := interfaces_contentOf s.view hforeign hlive
  have hdistinct : f.interfaces.Nodup := (s.view.consistent hf).distinct.of_map
  refine ⟨s.files_textOf_wrappers_eq hforeign hfault, fun x p hp => ⟨?_, fun depth => ⟨?_, ?_⟩⟩,
    nodup_interfaces_contentOf s.view hforeign hlive hdistinct, habove, hinside, hbelow, hahead⟩
  · exact name_of_mem_contentOf s.view hforeign hlive hp
  · exact p.headersAt_declared depth
  · exact p.headersAt_implemented depth

/-- A call of a thread that does not wait. -/
def alarm : Interface :=
  { name := "Alarm", direction := .required, remoteFunction := some "Panel" }

/-- A thread with interfaces of each kind. It has a procedure neither for the entry that asks to be
guarded nor for the call that Ada text cannot be given for. -/
def monitor : FunctionBlock :=
  { name := "Monitor", language := .ada, runtime := .thread, process := some "p1"
    interfaces :=
      [alarm,
       { name := "Query", direction := .required, synchronism := .synchronous
         remoteFunction := some "Panel" },
       { name := "Tick", direction := .provided },
       { name := "Reset", direction := .provided, synchronism := .synchronous },
       { name := "Peek", direction := .provided, synchronism := .synchronous
         protection := .unshielded },
       { name := "Sample", direction := .required, remoteFunction := some "Panel"
         binding := { language := .qgenC } }] }

/-- The thread and the function it calls. -/
def monitorAndPanel : View where
  functions := [monitor, { name := "Panel", runtime := .passive }]
  sound := by decide

open Wrappers in
theorem declarations_and_bodies_conform_of_monitor :
    ∃ out, Setting.generateFunction { view := monitorAndPanel } .wrappers monitor = .ok out ∧
      out.files =
        [fileWith monitor .wrappersDecl (frontLines monitorAndPanel monitor .wrappersDecl ++
           [⟨1, rule⟩, ⟨1, "--  Synchronous Required Interface \"Query\""⟩, ⟨1, rule⟩,
            ⟨1, "procedure vm_Query;"⟩,
            ⟨1, "pragma Export (C, vm_Query, \"vm_Monitor_Query\");"⟩,
            ⟨1, ""⟩,
            ⟨1, rule⟩, ⟨1, "--  Provided Interface \"Tick\""⟩, ⟨1, rule⟩,
            ⟨1, "procedure Tick (dummy_Entity : PolyORB_HI_Generated.Deployment.Entity_Type);"⟩,
            ⟨1, ""⟩,
            ⟨1, rule⟩, ⟨1, "--  Unprotected Provided Interface \"Peek\""⟩, ⟨1, rule⟩,
            ⟨1, "procedure Peek;"⟩,
            ⟨1, ""⟩] ++
           endLines monitor .wrappersDecl),
         fileWith monitor .wrappersBody (frontLines monitorAndPanel monitor .wrappersBody ++
           [⟨1, rule⟩, ⟨1, "--  Synchronous Required Interface \"Query\""⟩, ⟨1, rule⟩,
            ⟨1, "procedure vm_Query is"⟩,
            ⟨1, "begin"⟩,
            ⟨2, "Panel_Wrappers.Protected_Panel.Query;"⟩,
            ⟨1, "end vm_Query;"⟩,
            ⟨1, ""⟩,
            ⟨1, rule⟩, ⟨1, "--  Asynchronous Provided Interface \"Tick\""⟩, ⟨1, rule⟩,
            ⟨1, "procedure Tick (dummy_Entity : PolyORB_HI_Generated.Deployment.Entity_Type)"⟩,
            ⟨1, "is"⟩,
            ⟨2, "procedure C_Monitor_Tick;"⟩,
            ⟨2, "pragma Import (C, C_Monitor_Tick, \"Monitor_Tick\");"⟩,
            ⟨2, ""⟩,
            ⟨1, "begin"⟩,
            ⟨2, "C_Monitor_Tick;"⟩,
            ⟨1, "end Tick;"⟩,
            ⟨1, ""⟩,
            ⟨1, "procedure Peek is"⟩,
            ⟨2, "procedure C_Peek;"⟩,
            ⟨2, "pragma Import (C, C_Peek, \"Monitor_Peek\");"⟩,
            ⟨1, "begin"⟩,
            ⟨2, "C_Peek;"⟩,
            ⟨1, "end Peek;"⟩,
            ⟨1, ""⟩] ++
           endLines monitor .wrappersBody),
         fileWith monitor .asyncDecl (frontLines monitorAndPanel monitor .asyncDecl ++
           [⟨1, rule⟩, ⟨1, "--  Asynchronous Required Interface \"Alarm\""⟩, ⟨1, rule⟩,
            ⟨1, "procedure vm_Alarm;"⟩,
            ⟨1, "pragma Export (C, vm_Alarm, \"vm_async_Monitor_Alarm\");"⟩,
            ⟨1, ""⟩] ++
           endLines monitor .asyncDecl),
         fileWith monitor .asyncBody (frontLines monitorAndPanel monitor .asyncBody ++
           [⟨1, rule⟩, ⟨1, "--  Asynchronous Required Interface \"Alarm\""⟩, ⟨1, rule⟩,
            ⟨1, "procedure vm_Alarm is"⟩,
            ⟨2, "Value : Monitor_CV_Thread_Monitor_Monitor_Others_Interface"⟩,
            ⟨2, "  (Monitor_CV_Thread_Monitor_Monitor_Others_Port_Type'(OUTPORT_Alarm));"⟩,
            ⟨2, "Err : PolyORB_HI.Errors.Error_Kind;"⟩,
            ⟨2, "use type PolyORB_HI.Errors.Error_Kind;"⟩,
            ⟨1, "begin"⟩,
            ⟨2, "Put_Value (p1_Monitor_K, Value);"⟩,
            ⟨2, "Err := Send_Output (p1_Monitor_K, " ++
              "Monitor_CV_Thread_Monitor_Monitor_Others_Port_Type'(OUTPORT_Alarm));"⟩,
            ⟨1, "end vm_Alarm;"⟩,
            ⟨1, ""⟩] ++
           endLines monitor .asyncBody)] ∧
      ((contentOf monitorAndPanel monitor .wrappers).interfaces ++
        (contentOf monitorAndPanel monitor .asyncWrappers).interfaces).Nodup := by
  have hlive : Backend.wrappers.fault? monitor = none := by decide
  obtain ⟨e, hout, -⟩ := Setting.generateFunction_of_live { view := monitorAndPanel } hlive
  obtain ⟨hfiles, -, hnodup, -⟩ :=
    declarations_and_bodies_conform (by simp [monitorAndPanel]) (by decide) hout
  have hpackages : packagesOf monitor = [.wrappers, .asyncWrappers] := by decide
  rw [hpackages] at hfiles
  exact ⟨_, hout, hfiles, hnodup⟩

end AdaGlue
