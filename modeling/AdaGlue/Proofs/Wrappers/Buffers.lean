/-
The buffers of an entry that is called without waiting. Its signature, the overlays, the profile of
the imported procedure and the actual parameters of the one call are here written for any list of
buffers. The emitted entry is the one for the first input alone, on the way to the user's procedure
and on the way to the callee of an artificial function: it carries all inputs exactly if there is at
most one.
-/
import AdaGlue.Proofs.Wrappers.Linking
import AdaGlue.Proofs.Wrappers.Packages

namespace AdaGlue.Wrappers

/-! ## Entries that take buffers -/

/-- The texts with a mark behind each but the last. -/
def separatedBy (mark : String) : List String → List String
  | [] => []
  | [s] => [s]
  | s :: r => (s ++ mark) :: separatedBy mark r

@[simp] theorem length_separatedBy (mark : String) (l : List String) :
    (separatedBy mark l).length = l.length := by
  fun_induction separatedBy mark l with
  | case1 => rfl
  | case2 s => rfl
  | case3 s r _ ih => simp [ih]

@[simp] theorem length_endedBy (ending : String) (l : List String) :
    (endedBy ending l).length = l.length := by
  fun_induction endedBy ending l with
  | case1 => rfl
  | case2 s => rfl
  | case3 s r _ ih => simp [ih]

/-- The formal parameter for the buffer of an input. -/
def bufferFormal (p : Parameter) : String :=
  "   " ++ p.name ++ "Buffer : PolyORB_HI_Generated.Types." ++ Ada.identifier p.type ++ "_Buffer_Impl"

/-- The signature of an entry that takes these buffers behind the entity that runs. -/
def bufferSignature (name : String) (buffers : List Parameter) : List String :=
  endedBy ")" (separatedBy ";"
    (("procedure " ++ name ++ " (dummy_Entity : PolyORB_HI_Generated.Deployment.Entity_Type") ::
      buffers.map bufferFormal))

/-- The array over the buffer of an input. -/
def overlayTexts (p : Parameter) : List String :=
  [p.name ++ "_AdaBuffer : Interfaces.C.char_array (1 .. Interfaces.C.size_t (" ++ p.name ++
     "Buffer.Length));",
   "pragma Import (Ada, " ++ p.name ++ "_AdaBuffer);",
   "for " ++ p.name ++ "_AdaBuffer'Address use " ++ p.name ++ "Buffer.Buffer'Address;",
   ""]

/-- The call of a procedure with the array over each buffer and its length. -/
def bufferCall (path : String) (buffers : List Parameter) : String :=
  match buffers.flatMap fun p => [p.name ++ "_AdaBuffer", p.name ++ "_AdaBuffer'Length"] with
  | [] => path ++ ";"
  | args => path ++ " (" ++ ", ".intercalate args ++ ");"

/-- What an entry hands its buffers to. -/
inductive Recipient where
  /-- The user's procedure behind a symbol. -/
  | user (symbol : String)
  /-- An entry of another package. -/
  | callee (path : String)

namespace Recipient

/-- The name under which it is called. -/
def path : Recipient → String
  | user symbol => "C_" ++ symbol
  | callee path => path

/-- The import of the user's procedure, with an array and a size for each buffer. -/
def importTexts (buffers : List Parameter) : Recipient → List String
  | user symbol =>
    let name := "C_" ++ symbol
    (match buffers.flatMap fun p =>
        [p.name ++ "Buffer  : Interfaces.C.char_array", p.name ++ "MaxSize : Integer"] with
      | [] => ["procedure " ++ name ++ ";"]
      | s :: r =>
        ("procedure " ++ name) ::
          endedBy ");" (separatedBy ";" (("  (C_" ++ s) :: r.map ("   C_" ++ ·)))) ++
    ["pragma Import (C, " ++ name ++ ", \"" ++ symbol ++ "\");", ""]
  | callee _ => []

end Recipient

/-- The declaration of the entry `i` if it takes these buffers. -/
def declaredEntry (i : Interface) (buffers : List Parameter) : List Line :=
  linesAt 1 (titleTexts "Provided Interface" i.name ++
    endedBy ";" (bufferSignature i.name buffers) ++ [""])

/-- The body of the entry `i` if it takes these buffers and hands them to `r`. -/
def implementedEntry (i : Interface) (buffers : List Parameter) (r : Recipient) : List Line :=
  linesAt 1 (titleTexts "Asynchronous Provided Interface" i.name ++
    bufferSignature i.name buffers ++ ["is"]) ++
  linesAt 2 (buffers.flatMap overlayTexts ++ r.importTexts buffers) ++
  [⟨1, "begin"⟩, ⟨2, bufferCall r.path buffers⟩, ⟨1, "end " ++ i.name ++ ";"⟩, ⟨1, ""⟩]

/-- An entry is declared with one line for each buffer. -/
theorem length_declaredEntry (i : Interface) (buffers : List Parameter) :
    (declaredEntry i buffers).length = buffers.length + 5 := by
  simp [declaredEntry, bufferSignature, titleTexts, linesAt]

/-- So is its body headed; whatever else depends on the buffers stands one level deeper. -/
theorem countP_implementedEntry (i : Interface) (buffers : List Parameter) (r : Recipient) :
    (implementedEntry i buffers r).countP (·.depth = 1) = buffers.length + 8 := by
  have hat : ∀ texts, (linesAt 1 texts).countP (·.depth = 1) = texts.length := by
    intro texts
    simp [linesAt, List.countP_map, Function.comp_def]
  have hdeeper : ∀ texts, (linesAt 2 texts).countP (·.depth = 1) = 0 := by
    intro texts
    simp [linesAt, List.countP_map, Function.comp_def]
  rw [implementedEntry, List.countP_append, List.countP_append, hat, hdeeper]
  simp [bufferSignature, titleTexts]

/-- The entry for the first input alone is the one for all inputs if there is at most one, and only
then. -/
theorem entry_take_one_eq_iff (i : Interface) (r : Recipient) :
    (declaredEntry i (i.inputs.take 1) = declaredEntry i i.inputs ↔ i.inputs.length ≤ 1) ∧
      (implementedEntry i (i.inputs.take 1) r = implementedEntry i i.inputs r ↔
        i.inputs.length ≤ 1) := by
  have htake : i.inputs.length ≤ 1 → i.inputs.take 1 = i.inputs := List.take_of_length_le
  refine ⟨⟨fun h => ?_, fun h => by rw [htake h]⟩, ⟨fun h => ?_, fun h => by rw [htake h]⟩⟩
  · have hlength := congrArg List.length h
    rw [length_declaredEntry, length_declaredEntry, List.length_take] at hlength
    omega
  · have hcount := congrArg (List.countP (·.depth = 1)) h
    rw [countP_implementedEntry, countP_implementedEntry, List.length_take] at hcount
    omega

/-! ## The emitted entry -/

/-- The recipient that a route leads to. -/
def recipient? : Route → Option Recipient
  | .forwardToVm symbol => some (.user symbol)
  | .forwardToSibling callee entry accessor => some (.callee (calleePath callee entry accessor))
  | _ => none

theorem endedBy_asyncSignature (i : Interface) :
    endedBy ")" (asyncSignature i) = bufferSignature i.name (i.inputs.take 1) := by
  unfold asyncSignature
  cases i.inputs with
  | nil => rfl
  | cons p more => rfl

theorem bufferCall_take_one (path : String) (i : Interface) :
    bufferCall path (i.inputs.take 1) = path ++ overlayActuals i.inputs.head? ++ ";" := by
  cases i.inputs with
  | nil => simp [bufferCall, overlayActuals]
  | cons p more =>
    have hcomma : "_AdaBuffer, " = "_AdaBuffer" ++ ", " := rfl
    have hclose : "_AdaBuffer'Length)" ++ ";" = "_AdaBuffer'Length" ++ ");" := rfl
    simp [bufferCall, overlayActuals, String.append_assoc, hcomma, hclose]

theorem importTexts_take_one (symbol : String) (i : Interface) (depth : Nat) :
    laidOut depth (userImport symbol i.inputs.head?) =
      linesAt depth ((Recipient.user symbol).importTexts (i.inputs.take 1)) := by
  cases i.inputs with
  | nil => simp [userImport, Recipient.importTexts, laidOut]
  | cons p more =>
    simp [userImport, Recipient.importTexts, laidOut, endedBy, separatedBy, String.append_assoc]

theorem laidOut_forwardedCall (i : Interface) {route : Route} {r : Recipient}
    (h : recipient? route = some r) :
    laidOut 2 (forwardedCall i route) =
      linesAt 2 (r.importTexts (i.inputs.take 1)) ++
        [⟨1, "begin"⟩, ⟨2, bufferCall r.path (i.inputs.take 1)⟩] := by
  cases route with
  | forwardToVm symbol =>
    obtain rfl := Option.some.inj h
    have hdepth : depthBehind 2 (userImport symbol i.inputs.head?) = 2 := by
      cases i.inputs.head? <;> rfl
    simp [forwardedCall, laidOut_append, laidOut, hdepth, importTexts_take_one, bufferCall_take_one,
      Recipient.path]
  | forwardToSibling callee entry accessor =>
    obtain rfl := Option.some.inj h
    simp [forwardedCall, laidOut, bufferCall_take_one, Recipient.path, Recipient.importTexts]
  | _ => cases h

theorem laidOut_overlay (i : Interface) :
    laidOut 2 ((i.inputs.head?.map overlay).getD []) =
      linesAt 2 ((i.inputs.take 1).flatMap overlayTexts) := by
  cases i.inputs with
  | nil => rfl
  | cons p more => rfl

/-- The procedure of an entry takes the buffer of the first input and hands it on. -/
theorem asyncProvidedProcedure_eq (i : Interface) {route : Route} {r : Recipient}
    (h : recipient? route = some r) :
    (asyncProvidedProcedure i route).declared 1 = declaredEntry i (i.inputs.take 1) ∧
      (asyncProvidedProcedure i route).implemented 1 = implementedEntry i (i.inputs.take 1) r := by
  constructor
  · simp [Procedure.declared, asyncProvidedProcedure, declaredEntry, endedBy_asyncSignature]
  · have hoverlay : depthBehind 2 ((i.inputs.head?.map overlay).getD []) = 2 := by
      cases i.inputs <;> rfl
    simp [Procedure.implemented, asyncProvidedProcedure, implementedEntry, endedBy_asyncSignature,
      laidOut, laidOut_append, laidOut_overlay, hoverlay, laidOut_forwardedCall i h]

/-- What the entry `i` of `f` hands its buffers to: in an artificial function to the callee of the
last call of that entry; without such a call, and in the other functions, to the user. -/
inductive HandsTo (f : FunctionBlock) (i : Interface) : Recipient → Prop where
  | callee {q : Interface} (hartificial : f.artificial = true) (hlast : f.LastCalling i q) :
    HandsTo f i (.callee (entryPath q.callee i.entryPoint q.protection))
  | user (hnone : f.artificial = true → ∀ q ∈ f.interfaces, ¬ q.CallsEntryOf i) :
    HandsTo f i (.user (f.name ++ "_" ++ i.name))

section

variable (v : View) {f : FunctionBlock} {i : Interface} (hprovided : i.direction = .provided)
  (hasync : i.synchronism = .asynchronous) (hbound : i.binding.language ≠ .qgenC)

include hprovided hasync hbound

theorem exists_recipient :
    ∃ d r, v.decide f i = .ok d ∧ recipient? d.route = some r ∧ HandsTo f i r := by
  have hlive : ¬ IsRefused f i := by
    rintro ⟨-, hrequired, -⟩
    rw [hprovided] at hrequired
    cases hrequired
  have hrow : ∃ route ds r, Routed v f i route ds ∧ recipient? route = some r ∧ HandsTo f i r := by
    cases hartificial : f.artificial with
    | false =>
      exact ⟨_, _, _, .ofUser hbound hprovided hasync hartificial, rfl,
        .user fun h => by simp [hartificial] at h⟩
    | true =>
      rcases hsibling : f.sibling? i.entryPoint with _ | q
      · have hnone := (f.sibling?_eq_none_iff i).1 hsibling
        exact ⟨_, _, _, .fallen hbound hprovided hasync hartificial hnone, rfl, .user fun _ => hnone⟩
      · have hlast := (f.sibling?_eq_some_iff i q).1 hsibling
        refine ⟨_, _, _, .handedOn hbound hprovided hasync hartificial hlast, rfl, ?_⟩
        rw [calleePath_eq_entryPath]
        exact .callee hartificial hlast
  obtain ⟨route, ds, r, hrow, hr, hto⟩ := hrow
  exact ⟨_, r, by rw [View.decide_eq_of_routed hrow, if_neg hlive], hr, hto⟩

/-- The two files of a function hold the entry for the first of its inputs. -/
theorem exists_wrapperLines_eq :
    ∃ r, HandsTo f i r ∧
      wrapperLines v f i .wrappersDecl = declaredEntry i (i.inputs.take 1) ∧
      wrapperLines v f i .wrappersBody = implementedEntry i (i.inputs.take 1) r := by
  obtain ⟨d, r, hd, hr, hto⟩ := exists_recipient v (f := f) hprovided hasync hbound
  have hwrapper : wrapper? f i d = some (asyncProvidedProcedure i d.route, .wrappers) := by
    unfold wrapper?
    cases hroute : d.route with
    | forwardToVm symbol => rfl
    | forwardToSibling callee entry accessor => rfl
    | _ => simp [hroute, recipient?] at hr
  have hin : wrapperIn? v f .wrappers i = some (asyncProvidedProcedure i d.route) := by
    simp [wrapperIn?, hd, Except.toOption, hwrapper]
  obtain ⟨hdecl, hbody⟩ := wrapperLines_eq v f .wrappers i
  rw [hin] at hdecl hbody
  obtain ⟨hdeclared, himplemented⟩ := asyncProvidedProcedure_eq i hr
  exact ⟨r, hto, hdecl.trans hdeclared, hbody.trans himplemented⟩

end

end AdaGlue.Wrappers

namespace AdaGlue

open Wrappers in
/-- An entry that is called without waiting takes the buffer of its first input, if it has one, and
hands it to the user's procedure or to the callee. With two inputs or more it is not the entry that
carries them all. -/
theorem async_entry_carries_first_input {s : Setting} {out : Output} (h : s.generate = .ok out)
    (hwanted : s.options.WantsWrappers) {f : FunctionBlock} (hf : f ∈ s.view.functions)
    (hlanguage : f.language ≠ .qgenAda ∧ f.language ≠ .qgenC) {i : Interface}
    (hi : i ∈ f.interfaces) (hprovided : i.direction = .provided)
    (hasync : i.synchronism = .asynchronous) (hbound : i.binding.language ≠ .qgenC) :
    ∃ r decl body, HandsTo f i r ∧
      out.text? f.name .wrappersDecl = some decl ∧ out.text? f.name .wrappersBody = some body ∧
      Shows decl (declaredEntry i (i.inputs.take 1)) ∧
      Shows body (implementedEntry i (i.inputs.take 1) r) ∧
      (declaredEntry i (i.inputs.take 1) = declaredEntry i i.inputs ↔ i.inputs.length ≤ 1) ∧
      (implementedEntry i (i.inputs.take 1) r = implementedEntry i i.inputs r ↔
        i.inputs.length ≤ 1) := by
  have hforeign := (isForeign_eq_false_iff f.language).2 hlanguage
  obtain ⟨r, hto, hdecl, hbody⟩ := exists_wrapperLines_eq s.view (f := f) hprovided hasync hbound
  refine ⟨r, _, _, hto, Setting.text?_wrappers h hwanted hf hforeign (isOpen_wrappers f).1,
    Setting.text?_wrappers h hwanted hf hforeign (isOpen_wrappers f).2, ?_, ?_,
    entry_take_one_eq_iff i r⟩
  · rw [← hdecl]
    exact shows_of_infix (wrapperLines_infix_fileLines hi _)
  · rw [← hbody]
    exact shows_of_infix (wrapperLines_infix_fileLines hi _)

/-- An entry with two inputs. -/
def dosing : Interface :=
  { name := "Dose", direction := .provided
    inputs := [{ name := "amount", type := "T-Real" }, { name := "limit", type := "T-Real" }] }

/-- A thread with that entry. -/
def pump : FunctionBlock :=
  { name := "Pump", runtime := .thread, process := some "p1", interfaces := [dosing] }

def pumpAlone : View where
  functions := [pump]
  sound := by decide

open Wrappers in
theorem async_entry_carries_first_input_of_pump :
    ∃ out decl body, Setting.generate { view := pumpAlone } = .ok out ∧
      out.text? "Pump" .wrappersDecl = some decl ∧ out.text? "Pump" .wrappersBody = some body ∧
      Shows decl (declaredEntry dosing [{ name := "amount", type := "T-Real" }]) ∧
      Shows body (implementedEntry dosing [{ name := "amount", type := "T-Real" }]
        (.user "Pump_Dose")) := by
  have hgen := Setting.generate_of_live { view := pumpAlone } (by decide)
  obtain ⟨r, decl, body, hto, hdecl, hbody, hdeclared, himplemented, -⟩ :=
    async_entry_carries_first_input hgen ⟨by decide, rfl, rfl⟩ (f := pump) (by simp [pumpAlone])
      (by decide) (i := dosing) (by simp [pump]) rfl rfl (by decide)
  obtain rfl : r = .user "Pump_Dose" := by
    cases hto with
    | callee hartificial => simp [pump] at hartificial
    | user => rfl
  exact ⟨_, _, _, hgen, hdecl, hbody, hdeclared, himplemented⟩

open Wrappers in
/-- The second of two inputs gets lost: it is not the last parameter of the declared entry, and the
one call is made without it. -/
theorem second_input_dropped :
    ∃ out decl body, Setting.generate { view := pumpAlone } = .ok out ∧
      out.text? "Pump" .wrappersDecl = some decl ∧ out.text? "Pump" .wrappersBody = some body ∧
      ¬ Shows decl [⟨1, "   limitBuffer : PolyORB_HI_Generated.Types.T_Real_Buffer_Impl);"⟩] ∧
      Shows body [⟨2, "C_Pump_Dose (amount_AdaBuffer, amount_AdaBuffer'Length);"⟩] ∧
      ¬ Shows body [⟨2, bufferCall "C_Pump_Dose" dosing.inputs⟩] := by
  have hgen := Setting.generate_of_live { view := pumpAlone } (by decide)
  have hdecl := Setting.text?_wrappers hgen ⟨by decide, rfl, rfl⟩ (f := pump)
    (by simp [pumpAlone]) rfl (isOpen_wrappers _).1
  have hbody := Setting.text?_wrappers hgen ⟨by decide, rfl, rfl⟩ (f := pump)
    (by simp [pumpAlone]) rfl (isOpen_wrappers _).2
  have hcall : ⟨2, "C_Pump_Dose (amount_AdaBuffer, amount_AdaBuffer'Length);"⟩ ∈
      fileLines pumpAlone pump .wrappersBody := by decide +kernel
  have hformal : ∀ l ∈ fileLines pumpAlone pump .wrappersDecl, '\n' ∉ l.text.toList ∧ l.written ≠
      Line.written ⟨1, "   limitBuffer : PolyORB_HI_Generated.Types.T_Real_Buffer_Impl);"⟩ := by
    decide +kernel
  have hactuals : ∀ l ∈ fileLines pumpAlone pump .wrappersBody, '\n' ∉ l.text.toList ∧
      l.written ≠ Line.written ⟨2, bufferCall "C_Pump_Dose" dosing.inputs⟩ := by
    decide +kernel
  exact ⟨_, _, _, hgen, hdecl, hbody, not_shows_of_written_ne (by decide) hformal,
    shows_of_mem hcall, not_shows_of_written_ne (by decide +kernel) hactuals⟩

end AdaGlue
