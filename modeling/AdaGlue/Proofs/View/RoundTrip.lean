/-
Views are read back from their documents. Every document is decoded to itself from either of its
written forms; the names of a view that has been read are trimmed already, so trimming them once
more changes nothing; and the functions of a view have no fault.
-/
import AdaGlue.Proofs.Json.Decoding
import AdaGlue.Proofs.View.Consistency
import AdaGlue.View.Document
import Mathlib.Data.List.DropRight

namespace AdaGlue

open Json

/-! ## Documents -/

theorem Parameter.reads (p : Parameter) : Reads record.decode p.toJson p := by
  have hfills : Fills record.start record.fields [.string p.name, .string p.type, .string p.module]
      { name := some p.name, type := some p.type, module := some p.module } :=
    .slot rfl (.string _) <| .slot rfl (.string _) <| .slot rfl (.string _) .nil
  exact Record.reads (by decide) hfills (fun _ hx => hx) rfl rfl

theorem Language.reads (l : Language) : Reads (Decoder.variant table) (.string l.name) l :=
  .choice (by decide) (by cases l <;> decide)

theorem Binding.reads (b : Binding) : Reads record.decode b.toJson b := by
  have hfills : Fills record.start record.fields [.string b.language.name, .ofOption b.init]
      { language := some b.language, init := some b.init } :=
    .slot rfl b.language.reads <| .slot rfl (.ofOption _) .nil
  exact Record.reads (by decide) hfills (fun _ hx => hx) rfl rfl

theorem ContextParameter.reads (p : ContextParameter) : Reads record.decode p.toJson p := by
  have hfills : Fills record.start record.fields
      [.string p.name, .string p.typeName, .string p.typeModule]
      { name := some p.name, typeName := some p.typeName, typeModule := some p.typeModule } :=
    .slot rfl (.string _) <| .slot rfl (.string _) <| .slot rfl (.string _) .nil
  exact Record.reads (by decide) hfills (fun _ hx => hx) rfl rfl

theorem Interface.reads (i : Interface) : Reads record.decode i.toJson i := by
  have hfills : Fills record.start record.fields
      [.string i.name, .string i.direction.name, .string i.synchronism.name,
       .string i.protection.name, .ofOption i.remoteFunction, .ofOption i.remoteEntry,
       i.binding.toJson, .ofStrings i.callingInterfaces, .ofStrings i.callingThreads,
       .array (i.inputs.map (·.toJson)), .array (i.outputs.map (·.toJson))]
      { name := some i.name, direction := some i.direction, synchronism := some i.synchronism
        protection := some i.protection, remoteFunction := some i.remoteFunction
        remoteEntry := some i.remoteEntry, binding := some i.binding
        callingInterfaces := some i.callingInterfaces, callingThreads := some i.callingThreads
        inputs := some i.inputs, outputs := some i.outputs } :=
    .slot rfl (.string _) <|
    .slot rfl (.choice (by decide) (by cases i.direction <;> decide)) <|
    .slot rfl (.choice (by decide) (by cases i.synchronism <;> decide)) <|
    .slot rfl (.choice (by decide) (by cases i.protection <;> decide)) <|
    .slot rfl (.ofOption _) <|
    .slot rfl (.ofOption _) <|
    .slot rfl i.binding.reads <|
    .slot rfl (.strings _) <|
    .slot rfl (.strings _) <|
    .slot rfl (.list fun p _ => p.reads) <|
    .slot rfl (.list fun p _ => p.reads) .nil
  exact Record.reads (by decide) hfills (fun _ hx => hx) rfl rfl

theorem FunctionBlock.reads (f : FunctionBlock) : Reads record.decode f.toJson f := by
  have hfills : Fills record.start record.fields
      [.string f.name, .string f.language.name, .string f.runtime.name,
       .array (f.interfaces.map (·.toJson)), .ofStrings f.callingThreads, .ofOption f.process,
       .bool f.artificial, .ofOption f.instanceOf, .array (f.contextParameters.map (·.toJson)),
       .ofStrings f.timers]
      { name := some f.name, language := some f.language, runtime := some f.runtime
        interfaces := some f.interfaces, callingThreads := some f.callingThreads
        process := some f.process, artificial := some f.artificial
        instanceOf := some f.instanceOf, contextParameters := some f.contextParameters
        timers := some f.timers } :=
    .slot rfl (.string _) <|
    .slot rfl f.language.reads <|
    .slot rfl (.choice (by decide) (by cases f.runtime <;> decide)) <|
    .slot rfl (.list fun i _ => i.reads) <|
    .slot rfl (.strings _) <|
    .slot rfl (.ofOption _) <|
    .slot rfl (.bool _) <|
    .slot rfl (.ofOption _) <|
    .slot rfl (.list fun p _ => p.reads) <|
    .slot rfl (.strings _) .nil
  exact Record.reads (by decide) hfills (fun _ hx => hx) rfl rfl

theorem ViewDocument.reads (d : ViewDocument) : Reads record.decode d.toJson d := by
  have hfills : Fills record.start record.fields
      [.string d.version, .array (d.functions.map (·.toJson))]
      { version := some d.version, functions := some d.functions } :=
    .slot rfl (.string _) <| .slot rfl (.list fun f _ => f.reads) .nil
  exact Record.reads (by decide) hfills (fun _ hx => hx) rfl rfl

/-- Every document is decoded to itself, from either of its written forms. -/
theorem ViewDocument.ofText_toJson (d : ViewDocument) :
    ofText (Text.bytes d.toJson.compact) = .ok d ∧ ofText (Text.bytes d.toJson.pretty) = .ok d :=
  decodeText_of_reads d.reads

/-! ## Trimmed names -/

namespace Text

theorem dropEnd_eq_rdropWhile (p : Char → Bool) (cs : List Char) :
    dropEnd p cs = cs.rdropWhile p := rfl

/-- A trimmed text has nothing left to trim. -/
theorem trim_trim (s : String) : trim (trim s) = trim s := by
  have hhead := List.head?_dropWhile_not isBlank s.toList
  unfold trim
  rw [String.toList_ofList]
  generalize s.toList.dropWhile isBlank = front at hhead
  have hfront : (dropEnd isBlank front).dropWhile isBlank = dropEnd isBlank front := by
    rcases hkept : dropEnd isBlank front with _ | ⟨c, kept⟩
    · rfl
    · -- what is kept starts as the text does, and that is no blank
      obtain ⟨behind, happend⟩ : dropEnd isBlank front <+: front := List.rdropWhile_prefix _ _
      rw [hkept] at happend
      rw [← happend] at hhead
      rw [List.dropWhile_cons, if_neg (by simpa using hhead)]
  rw [hfront, dropEnd_eq_rdropWhile, dropEnd_eq_rdropWhile, List.rdropWhile_idempotent]

end Text

theorem trimNames_trimNames (names : List String) :
    trimNames (trimNames names) = trimNames names := by
  have htrimmed : (trimNames names).map Text.trim = trimNames names := by
    conv_rhs => rw [← List.map_id (trimNames names)]
    refine List.map_congr_left fun n hn => ?_
    obtain ⟨m, -, rfl⟩ := List.mem_map.1 (List.mem_of_mem_filter hn)
    exact Text.trim_trim m
  rw [trimNames, htrimmed, trimNames, List.filter_filter]
  simp

theorem Text.trimmed?_bind_trimmed? (s : String) :
    (trimmed? s).bind trimmed? = trimmed? s := by
  by_cases hempty : (trim s).isEmpty
  · simp only [trimmed?, hempty, if_true, Option.bind_none]
  · simp only [trimmed?, hempty, if_false, Option.bind_some, trim_trim, Bool.false_eq_true]

theorem trimOption_trimOption (name : Option String) :
    trimOption (trimOption name) = trimOption name := by
  cases name with
  | none => rfl
  | some s =>
    simp only [trimOption, Option.bind_some]
    exact Text.trimmed?_bind_trimmed? s

theorem Parameter.trimmed_trimmed (p : Parameter) : p.trimmed.trimmed = p.trimmed := by
  simp [trimmed, Text.trim_trim]

theorem ContextParameter.trimmed_trimmed (p : ContextParameter) :
    p.trimmed.trimmed = p.trimmed := by
  simp [trimmed, Text.trim_trim]

theorem Interface.trimmed_trimmed (i : Interface) : i.trimmed.trimmed = i.trimmed := by
  simp [trimmed, Text.trim_trim, trimOption_trimOption, trimNames_trimNames,
    Parameter.trimmed_trimmed]

theorem FunctionBlock.trimmed_trimmed (f : FunctionBlock) : f.trimmed.trimmed = f.trimmed := by
  simp [trimmed, Text.trim_trim, trimOption_trimOption, trimNames_trimNames,
    Interface.trimmed_trimmed, ContextParameter.trimmed_trimmed]

/-! ## Views -/

namespace View

/-- A text holds a view exactly if it holds a document of the right version whose functions, with
their names trimmed, are those of the view. -/
theorem ofText_eq_ok_iff {bytes : List UInt8} {v : View} :
    ofText bytes = .ok v ↔ ∃ doc, ViewDocument.ofText bytes = .ok doc ∧
      Text.trim doc.version = ViewDocument.supportedVersion ∧
      doc.functions.map (·.trimmed) = v.functions := by
  unfold ofText
  rcases ViewDocument.ofText bytes with e | doc
  · simp [Except.mapError, bind, Except.bind]
  · have hmap : ∀ x : Except ViewError View,
        x.mapError ViewTextError.inconsistent = .ok v ↔ x = .ok v := by
      rintro (e | w) <;> simp [Except.mapError]
    have hfunctions :=
      (hmap (ofFunctions (doc.functions.map (·.trimmed)))).trans ofFunctions_eq_ok_iff
    by_cases hversion : Text.trim doc.version = ViewDocument.supportedVersion
    · simpa [Except.mapError, bind, Except.bind, hversion] using hfunctions
    · simp [Except.mapError, bind, Except.bind, hversion]

/-- The names of a view that has been read are trimmed. -/
theorem map_trimmed_of_ofText {bytes : List UInt8} {v : View} (h : ofText bytes = .ok v) :
    v.functions.map (·.trimmed) = v.functions := by
  obtain ⟨doc, -, -, hfunctions⟩ := ofText_eq_ok_iff.1 h
  rw [← hfunctions, List.map_map]
  exact List.map_congr_left fun f _ => f.trimmed_trimmed

theorem trim_supportedVersion :
    Text.trim ViewDocument.supportedVersion = ViewDocument.supportedVersion := by
  decide

/-- A view that has been read is read again from each written form of its document. -/
theorem text_round_trip {bytes : List UInt8} {v : View} (h : ofText bytes = .ok v) :
    ofText (Text.bytes v.toText) = .ok v ∧
      ofText (Text.bytes v.document.toJson.pretty) = .ok v := by
  -- trimming finds nothing to do the second time, and the functions have no fault as before
  have hread : ∀ text, ViewDocument.ofText text = .ok v.document → ofText text = .ok v :=
    fun text hdoc => ofText_eq_ok_iff.2
      ⟨v.document, hdoc, trim_supportedVersion, map_trimmed_of_ofText h⟩
  obtain ⟨hcompact, hpretty⟩ := v.document.ofText_toJson
  exact ⟨hread _ hcompact, hread _ hpretty⟩

end View

/-- A document with blanks around its version and names, a blank name in a list, and characters
that are escaped or lie beyond ASCII. -/
def looseDocument : ViewDocument where
  version := " ivglue.model@0.1.0\n"
  functions :=
    [{ name := "\tCtrl ", runtime := .thread, process := some "  " },
     { name := "L\u00f6g \"1\"", language := .ada, runtime := .passive
       callingThreads := [" Ctrl", "\u3000"]
       interfaces :=
         [{ name := "Put ", direction := .provided, synchronism := .synchronous
            inputs := [{ name := " text", type := "T\\String\u0001" }] }] }]

/-- The functions it holds. -/
def looseView : View where
  functions :=
    [{ name := "Ctrl", runtime := .thread },
     { name := "L\u00f6g \"1\"", language := .ada, runtime := .passive
       callingThreads := ["Ctrl"]
       interfaces :=
         [{ name := "Put", direction := .provided, synchronism := .synchronous
            inputs := [{ name := "text", type := "T\\String\u0001" }] }] }]
  sound := by decide

theorem View.text_round_trip_of_loose :
    View.ofText (Text.bytes looseDocument.toJson.compact) = .ok looseView ∧
      View.ofText (Text.bytes looseView.toText) = .ok looseView ∧
      View.ofText (Text.bytes looseView.document.toJson.pretty) = .ok looseView := by
  have hread : View.ofText (Text.bytes looseDocument.toJson.compact) = .ok looseView :=
    ofText_eq_ok_iff.2 ⟨looseDocument, looseDocument.ofText_toJson.1, by decide, by decide⟩
  exact ⟨hread, text_round_trip hread⟩

end AdaGlue
