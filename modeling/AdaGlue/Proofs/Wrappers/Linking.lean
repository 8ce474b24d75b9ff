/-
Synchronous calls across packages. A function that waits for another one names the callee's wrapper
package in a context clause of its body and calls the entry there, inside the protected object or at
the level of the package as the interface says. Where the callee has the entry, its wrapper package
declares it in the same place, with formal parameters whose names are, one by one, the actual ones
of the call.
-/
import AdaGlue.Proofs.Parameters
import AdaGlue.Proofs.Wrappers.Contents

namespace AdaGlue

namespace Wrappers

/-! ## The call -/

/-- The full name of an entry: that of the package, that of the protected object for an entry inside
it, and its own. -/
def entryPath (callee entry : String) : Protection → String
  | .shielded => callee ++ "_Wrappers.Protected_" ++ callee ++ "." ++ entry
  | .unshielded => callee ++ "_Wrappers." ++ entry

/-- The wrapper of a call through `i` that does nothing but call `path` with its own formal
parameters. -/
def callingProcedure (i : Interface) (path : String) : List Line :=
  let formals := Ada.formalsOf i
  [⟨1, "procedure vm_" ++ i.name ++ Ada.formalPart formals ++ " is"⟩,
   ⟨1, "begin"⟩,
   ⟨2, path ++ (if formals = [] then ""
      else " (" ++ ", ".intercalate (formals.map (·.1)) ++ ")") ++ ";"⟩,
   ⟨1, "end vm_" ++ i.name ++ ";"⟩]

theorem calleePath_eq_entryPath (callee entry : String) (x : Protection) :
    calleePath callee entry (.of x) = entryPath callee entry x := by
  cases x with
  | shielded =>
    simp only [calleePath, Accessor.of, entryPath, Ada.wrappersPackage, Ada.protectedObject,
      String.append_assoc]
    rfl
  | unshielded =>
    simp only [calleePath, Accessor.of, entryPath, Ada.wrappersPackage, String.append_assoc]
    rfl

theorem wrapperLines_infix_fileLines {v : View} {f : FunctionBlock} {i : Interface}
    (hi : i ∈ f.interfaces) (k : Destination) : wrapperLines v f i k <:+: fileLines v f k := by
  obtain ⟨before, behind, hsplit⟩ := List.append_of_mem hi
  unfold fileLines
  rw [hsplit, List.flatMap_append, List.flatMap_cons]
  exact ⟨frontLines v f k ++ before.flatMap (wrapperLines v f · k),
    behind.flatMap (wrapperLines v f · k) ++ (entryLines f k ++ endLines f k), by simp⟩

section Call

variable {v : View} {f : FunctionBlock} {i : Interface} (hrequired : i.direction = .required)
  (hsync : i.synchronism = .synchronous)
  (hbound : i.binding.language ≠ .qgenAda ∧ i.binding.language ≠ .qgenC)

include hrequired hsync hbound

/-- A synchronous call that some thread may run is made to the callee's entry. -/
theorem decide_eq_callCallee (hlive : isDeadCall f i = false) :
    v.decide f i = .ok
      { route := .callCallee i.callee i.entryPoint (.of i.protection), convention := .native
        placement := .wrappers, diagnostics := [] } := by
  have hconv : Convention.of i = .native := by simp [Convention.of, hbound.1]
  have hplace : Placement.of f i = .wrappers := by
    simp [Placement.of, Interface.isAsynchronous, hsync]
  rw [View.decide_eq_of_routed (.called hbound hrequired hsync),
    if_neg (not_isRefused_of_live hlive), hconv, hplace]

theorem callingProcedure_infix_wrapperLines (hlive : isDeadCall f i = false) :
    callingProcedure i (entryPath i.callee i.entryPoint i.protection) <:+:
      wrapperLines v f i .wrappersBody := by
  rw [wrapperLines_of_decide (decide_eq_callCallee hrequired hsync hbound hlive)]
  have hactuals : Ada.bufferActuals i.inputs i.outputs =
      ", ".intercalate ((Ada.formalsOf i).map (·.1)) := Ada.bufferActuals_eq i.inputs i.outputs
  have hempty : Ada.bufferActuals i.inputs i.outputs = "" ↔ Ada.formalsOf i = [] :=
    Ada.bufferActuals_eq_empty_iff i.inputs i.outputs
  rw [hactuals] at hempty
  refine ⟨laidOut 1 (titled (requiredTitle i) i.name), [⟨1, ""⟩], ?_⟩
  simp only [procedure?, Fragment.linesIn, placed, required, requiredBody, statements]
  simp [laidOut, titled, callingProcedure, requiredSignature, requiredFormals,
    calleePath_eq_entryPath, Ada.vmProcedure, Ada.parenthesized_bufferFormals, hactuals, hempty,
    ← String.append_assoc]

/-- The callee's package is named in the front of the body. -/
theorem with_mem_frontLines (hi : i ∈ f.interfaces) {c : String} (hc : i.remoteFunction = some c) :
    ⟨0, "with " ++ c ++ "_Wrappers;"⟩ ∈ frontLines v f .wrappersBody := by
  have hcallee : c ∈ (callees f).toList := by
    unfold callees
    rw [OrderedSet.mem_ofList, List.mem_filterMap]
    refine ⟨i, ?_, hc⟩
    simp only [FunctionBlock.required, List.mem_filter, Interface.isRequired,
      Interface.isSynchronous, hi, hrequired, hsync]
    simpa using (isForeign_eq_false_iff _).2 hbound
  have hclauses : (⟨0, "with " ++ c ++ "_Wrappers;"⟩ : Line) ∈
      laidOut 0 ((callees f).toList.map fun c => .line (withClause (Ada.wrappersPackage c))) := by
    rw [(laidOut_map_line 0 _ _).1, List.mem_map]
    refine ⟨c, hcallee, ?_⟩
    simp only [withClause, Ada.wrappersPackage, String.append_assoc]
    rfl
  -- the clauses stand right below the fixed lines of the front
  rw [frontLines_wrappersBody]
  simp only [preamble, bodyClauses, List.append_assoc]
  rw [laidOut_append]
  refine List.mem_append_right _ ?_
  rw [laidOut_append]
  exact List.mem_append_left _ hclauses

end Call

/-! ## The declaration -/

/-- The text is a package of that name which holds these lines. -/
def PackageShows (text package : String) (lines : List Line) : Prop :=
  ∃ front before behind, text = page (front ++ [⟨0, "package " ++ package ++ " is"⟩] ++ before ++
    lines ++ behind ++ [⟨0, "end " ++ package ++ ";"⟩])

/-- The declaration of an entry with these formal parameters. -/
def declaration (entry : String) (formals : List (String × String)) : String :=
  "procedure " ++ entry ++ Ada.formalPart formals ++ ";"

/-- The text is the wrapper package of `callee` and declares an entry with these formal parameters:
inside the protected object, among lines that stand inside it too, or at the level of the
package. -/
def Declares (text callee entry : String) (formals : List (String × String)) : Protection → Prop
  | .shielded => ∃ above below, (∀ l ∈ above ++ below, l.depth = 2) ∧
      PackageShows text (callee ++ "_Wrappers")
        ([⟨1, "protected Protected_" ++ callee ++ " is"⟩] ++ above ++
          [⟨2, declaration entry formals⟩] ++ below ++ [⟨1, "end Protected_" ++ callee ++ ";"⟩])
  | .unshielded => PackageShows text (callee ++ "_Wrappers") [⟨1, declaration entry formals⟩]

theorem entrySignature_eq_declaration (p : Interface) :
    entrySignature p ++ ";" = declaration p.name (Ada.formalsOf p) := by
  rw [entrySignature, Ada.parenthesized_bufferFormals, declaration]

/-- The front of the declaration opens the package. -/
theorem package_mem_frontLines (v : View) (g : FunctionBlock) :
    ⟨0, "package " ++ (g.name ++ "_Wrappers") ++ " is"⟩ ∈ frontLines v g .wrappersDecl := by
  have hmargin : depthBehind 0 ((declClauses v g).toList.map Edit.line) = 0 :=
    (laidOut_map_line 0 id _).2
  rw [frontLines_wrappersDecl]
  simp only [preamble, List.append_assoc]
  rw [laidOut_append, laidOut_append]
  -- the lines above are all at the margin, so the package opens there too
  refine List.mem_append_right _ (List.mem_append_right _ ?_)
  simp only [depthBehind, hmargin]
  exact List.mem_cons_of_mem _ List.mem_cons_self

/-- Whatever stands among the entries stands in the wrapper package. -/
theorem packageShows_of_infix_entryLines (v : View) {g : FunctionBlock} {lines : List Line}
    (h : lines <:+: entryLines g .wrappersDecl) :
    PackageShows (page (fileLines v g .wrappersDecl)) (g.name ++ "_Wrappers") lines := by
  obtain ⟨before, behind, hentries⟩ := h
  -- the package opens in the front of the file and ends with its last line
  obtain ⟨front, inits, hfront⟩ := List.append_of_mem (package_mem_frontLines v g)
  refine ⟨front, inits ++ g.interfaces.flatMap (wrapperLines v g · .wrappersDecl) ++ before, behind,
    congrArg page ?_⟩
  have hend : endLines g .wrappersDecl = [⟨0, "end " ++ (g.name ++ "_Wrappers") ++ ";"⟩] := rfl
  unfold fileLines
  rw [hfront, ← hentries, hend]
  simp only [List.append_assoc, List.cons_append, List.nil_append]

/-- The declarations of each fragment stand among the entries. -/
theorem decl_infix_entryLines {g : FunctionBlock} {x : Fragment} (hx : x ∈ aggregate g) :
    laidOut 0 x.decl <:+: entryLines g .wrappersDecl := by
  obtain ⟨above, below, hsplit⟩ := List.append_of_mem hx
  unfold entryLines
  rw [hsplit, List.flatMap_append, List.flatMap_cons]
  exact ⟨above.flatMap (·.linesIn (placed .wrappers) .wrappersDecl),
    below.flatMap (·.linesIn (placed .wrappers) .wrappersDecl),
    by simp [Fragment.linesIn, placed]⟩

/-- A passive function puts its shielded entries into a protected object. -/
theorem protectedObject_mem {g : FunctionBlock} {p : Interface} (hp : p ∈ shieldedEntries g)
    (hpassive : g.isPassive = true) : protectedObject g (shieldedEntries g) ∈ aggregate g := by
  have hsome : (shieldedEntries g).isEmpty = false := by
    simpa using List.ne_nil_of_mem hp
  refine List.mem_append_left _ ?_
  simp [hpassive, hsome, given]

/-- The lines of the protected object. -/
theorem laidOut_protectedObject (g : FunctionBlock) (entries : List Interface) :
    laidOut 0 (protectedObject g entries).decl =
      laidOut 1 (titled "Protected access to" g.name) ++
      ([⟨1, "protected Protected_" ++ g.name ++ " is"⟩] ++
        entries.map (fun p => ⟨2, declaration p.name (Ada.formalsOf p)⟩) ++
        [⟨1, "end Protected_" ++ g.name ++ ";"⟩]) ++ [⟨1, ""⟩] := by
  obtain ⟨hlines, hdepth⟩ := laidOut_map_line 2 (fun p => entrySignature p ++ ";") entries
  simp only [entrySignature_eq_declaration] at hlines hdepth
  simp only [protectedObject, entrySignature_eq_declaration]
  simp [laidOut, laidOut_append, titled, hlines, hdepth, Ada.protectedObject,
    ← String.append_assoc]

theorem laidOut_plainProcedure (g : FunctionBlock) (p : Interface) :
    laidOut 0 (plainProcedure g p).decl =
      laidOut 1 (titled "Unprotected Provided Interface" p.name) ++
      [⟨1, declaration p.name (Ada.formalsOf p)⟩, ⟨1, ""⟩] := by
  simp only [plainProcedure, entrySignature_eq_declaration]
  rfl

/-! ## Call and declaration -/

/-- `p` of `g` is an entry as calls through `i` expect it. -/
structure Answers (g : FunctionBlock) (p i : Interface) : Prop where
  language : g.language ≠ .qgenAda ∧ g.language ≠ .qgenC
  provided : p.direction = .provided
  synchronous : p.synchronism = .synchronous
  bound : p.binding.language ≠ .qgenC
  name : p.name = i.entryPoint
  protection : p.protection = i.protection
  inputs : p.inputs.map (·.name) = i.inputs.map (·.name)
  outputs : p.outputs.map (·.name) = i.outputs.map (·.name)
  /-- A thread has no protected object. -/
  runtime : p.protection = .unshielded ∨ g.runtime = .passive

section Answers

variable {g : FunctionBlock} {p i : Interface} (hp : p ∈ g.interfaces) (h : Answers g p i)

include hp h

theorem Answers.mem_syncEntries : p ∈ syncEntries g := by
  rw [syncEntries_eq_filter, List.mem_filter]
  simp [isEntry, hp, Interface.isProvided, Interface.isSynchronous, h.provided, h.synchronous,
    h.bound]

/-- A callee that answers declares the entry where the call looks for it. -/
theorem Answers.declares (v : View) :
    Declares (page (fileLines v g .wrappersDecl)) g.name i.entryPoint (Ada.formalsOf i)
      i.protection := by
  have hentry := h.mem_syncEntries hp
  have hformals : Ada.formalsOf p = Ada.formalsOf i := by
    unfold Ada.formalsOf
    rw [h.inputs, h.outputs]
  rw [← h.name, ← hformals, ← h.protection]
  cases hx : p.protection with
  | shielded =>
    have hmem : p ∈ shieldedEntries g := List.mem_filter.2 ⟨hentry, by simp [hx]⟩
    have hpassive : g.isPassive = true := by
      rcases h.runtime with hplain | hpassive
      · rw [hx] at hplain; cases hplain
      · simp [FunctionBlock.isPassive, hpassive]
    obtain ⟨above, below, hsplit⟩ := List.append_of_mem hmem
    -- the object's other entries stand above and below, as deep as this one
    let entryLine (q : Interface) : Line := ⟨2, declaration q.name (Ada.formalsOf q)⟩
    refine ⟨above.map entryLine, below.map entryLine, ?_,
      packageShows_of_infix_entryLines v ?_⟩
    · intro l hl
      rw [← List.map_append] at hl
      obtain ⟨q, -, rfl⟩ := List.mem_map.1 hl
      rfl
    · refine (List.IsInfix.trans ?_) (decl_infix_entryLines (protectedObject_mem hmem hpassive))
      rw [laidOut_protectedObject, hsplit]
      refine ⟨laidOut 1 (titled "Protected access to" g.name), [⟨1, ""⟩], ?_⟩
      simp [entryLine]
  | unshielded =>
    have hmem : p ∈ plainEntries g := List.mem_filter.2 ⟨hentry, by simp [hx]⟩
    have hplain : plainProcedure g p ∈ aggregate g :=
      List.mem_append_right _ (List.mem_map_of_mem hmem)
    refine packageShows_of_infix_entryLines v ((List.IsInfix.trans ?_)
      (decl_infix_entryLines hplain))
    rw [laidOut_plainProcedure]
    exact ⟨laidOut 1 (titled "Unprotected Provided Interface" p.name), [⟨1, ""⟩], by simp⟩

end Answers

end Wrappers

/-- Where a run succeeds, each synchronous call of a function with wrappers is live. -/
theorem Setting.isDeadCall_eq_false {s : Setting} {out : Output} (h : s.generate = .ok out)
    (hwanted : s.options.WantsWrappers) {f : FunctionBlock} (hf : f ∈ s.view.functions)
    (hlanguage : f.language ≠ .qgenAda ∧ f.language ≠ .qgenC) {i : Interface}
    (hi : i ∈ f.interfaces) (hrequired : i.direction = .required)
    (hbound : i.binding.language ≠ .qgenC) : isDeadCall f i = false := by
  have hruns : .wrappers ∈ s.backendsFor f :=
    (s.wrappers_mem_backendsFor_iff f).2 ⟨hwanted, fun hc => hlanguage.2 hc.1⟩
  have hlive := s.job_live (s.generate_eq_ok_iff.1 h).1 hf hruns
  have hnone := List.findSome?_eq_none_iff.1 hlive i hi
  simpa [deadCall?, Interface.isRequired, hrequired, hbound,
    (isForeign_eq_false_iff _).2 hlanguage] using hnone

open Wrappers in
/-- A synchronous call names the callee's wrapper package and calls the entry there with the formal
parameters of its own interface. Where the callee has such an entry, its wrapper package declares it
at the place that is called, and each actual parameter bears the name of the formal one it meets. -/
theorem synchronous_call_links {s : Setting} {out : Output} (h : s.generate = .ok out)
    (hwanted : s.options.WantsWrappers) {f : FunctionBlock} (hf : f ∈ s.view.functions)
    (hlanguage : f.language ≠ .qgenAda ∧ f.language ≠ .qgenC) {i : Interface}
    (hi : i ∈ f.interfaces) (hrequired : i.direction = .required)
    (hsync : i.synchronism = .synchronous)
    (hbound : i.binding.language ≠ .qgenAda ∧ i.binding.language ≠ .qgenC) :
    ∃ c body, i.remoteFunction = some c ∧ out.text? f.name .wrappersBody = some body ∧
      Shows body [⟨0, "with " ++ c ++ "_Wrappers;"⟩] ∧
      Shows body (callingProcedure i (entryPath c i.entryPoint i.protection)) ∧
      Ada.bufferActuals i.inputs i.outputs = ", ".intercalate ((Ada.formalsOf i).map (·.1)) ∧
      ∀ g ∈ s.view.functions, g.name = c → ∀ p ∈ g.interfaces, Answers g p i →
        ∃ decl, out.text? c .wrappersDecl = some decl ∧
          Declares decl c i.entryPoint (Ada.formalsOf i) i.protection := by
  have hforeign := (isForeign_eq_false_iff f.language).2 hlanguage
  obtain ⟨c, hc⟩ := Option.isSome_iff_exists.1
    ((s.view.consistent hf).remote i hi (by simp [Interface.isRequired, hrequired]))
  have hlive := Setting.isDeadCall_eq_false h hwanted hf hlanguage hi hrequired hbound.2
  have hcallee : i.callee = c := by simp [Interface.callee, hc]
  refine ⟨c, _, hc, Setting.text?_wrappers h hwanted hf hforeign (isOpen_wrappers f).2, ?_, ?_,
    Ada.bufferActuals_eq i.inputs i.outputs, ?_⟩
  · have hfront := with_mem_frontLines (v := s.view) hrequired hsync hbound hi hc
    exact shows_of_mem (List.mem_append_left _ (List.mem_append_left _ hfront))
  · have hcall := callingProcedure_infix_wrapperLines (v := s.view) hrequired hsync hbound hlive
    rw [hcallee] at hcall
    exact shows_of_infix (hcall.trans (wrapperLines_infix_fileLines hi _))
  · rintro g hg rfl p hp hanswers
    have hnative := (isForeign_eq_false_iff g.language).2 hanswers.language
    exact ⟨_, Setting.text?_wrappers h hwanted hg hnative (isOpen_wrappers g).1,
      hanswers.declares hp s.view⟩

/-- A call that waits, under another name than the entry it calls. -/
def storing : Interface :=
  { name := "Keep", direction := .required, synchronism := .synchronous, protection := .shielded
    remoteFunction := some "Store", remoteEntry := some "Put"
    inputs := [{ name := "key", type := "T-Key" }]
    outputs := [{ name := "found", type := "T-Bool" }] }

/-- The entry that is called. -/
def storePut : Interface :=
  { name := "Put", direction := .provided, synchronism := .synchronous, protection := .shielded
    callingThreads := ["Ctrl"]
    inputs := [{ name := "key", type := "T-Key" }]
    outputs := [{ name := "found", type := "T-Bool" }] }

def storingThread : FunctionBlock :=
  { name := "Ctrl", runtime := .thread, interfaces := [storing] }

def passiveStore : FunctionBlock :=
  { name := "Store", language := .ada, runtime := .passive, callingThreads := ["Ctrl"]
    interfaces :=
      [{ name := "Size", direction := .provided, synchronism := .synchronous
         callingThreads := ["Ctrl"] },
       storePut] }

/-- A thread and the passive function it calls. -/
def threadAndStore : View where
  functions := [storingThread, passiveStore]
  sound := by decide

open Wrappers in
theorem synchronous_call_links_of_store :
    ∃ out body decl, Setting.generate { view := threadAndStore } = .ok out ∧
      out.text? "Ctrl" .wrappersBody = some body ∧ out.text? "Store" .wrappersDecl = some decl ∧
      Shows body [⟨0, "with Store_Wrappers;"⟩] ∧
      Shows body
        [⟨1, "procedure vm_Keep(IN_key : Interfaces.C.char_array; IN_key_size : Integer; " ++
            "OUT_found : in out Interfaces.C.char_array; OUT_found_size : access Integer) is"⟩,
         ⟨1, "begin"⟩,
         ⟨2, "Store_Wrappers.Protected_Store.Put " ++
            "(IN_key, IN_key_size, OUT_found, OUT_found_size);"⟩,
         ⟨1, "end vm_Keep;"⟩] ∧
      Ada.bufferActuals storing.inputs storing.outputs =
        "IN_key, IN_key_size, OUT_found, OUT_found_size" ∧
      ∃ above below, (∀ l ∈ above ++ below, l.depth = 2) ∧
        PackageShows decl "Store_Wrappers"
          ([⟨1, "protected Protected_Store is"⟩] ++ above ++
            [⟨2, "procedure Put(IN_key : Interfaces.C.char_array; IN_key_size : Integer; " ++
              "OUT_found : in out Interfaces.C.char_array; OUT_found_size : access Integer);"⟩] ++
            below ++ [⟨1, "end Protected_Store;"⟩]) := by
  have hgen := Setting.generate_of_live { view := threadAndStore } (by decide)
  obtain ⟨c, body, hc, hbody, hwith, hcall, hactuals, hcallee⟩ :=
    synchronous_call_links hgen ⟨by decide, rfl, rfl⟩ (f := storingThread)
      (by simp [threadAndStore]) (by decide) (i := storing) (by simp [storingThread]) rfl rfl
      (by decide)
  obtain rfl : "Store" = c := Option.some.inj hc
  obtain ⟨decl, hdecl, hdeclares⟩ := hcallee passiveStore (by simp [threadAndStore]) rfl storePut
    (by simp [passiveStore]) ⟨by decide, rfl, rfl, by decide, rfl, rfl, rfl, rfl, .inr rfl⟩
  exact ⟨_, body, decl, hgen, hbody, hdecl, hwith, hcall, hactuals, hdeclares⟩

end AdaGlue
