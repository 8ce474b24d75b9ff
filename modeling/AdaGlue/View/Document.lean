/-
The written form of interface views: a JSON document with a version and the functions. Reading
trims every name, drops blank names from lists and takes a blank optional name for none; what has
been read is written back with every field present.
-/
import AdaGlue.Text.Blank
import AdaGlue.View.Consistency

namespace AdaGlue

/-! ## Fields -/

namespace Parameter

structure Draft where
  name : Option String := none
  type : Option String := none
  module : Option String := none

open Json.Decoder in
def record : Json.Record Draft Parameter where
  name := "Parameter"
  fields :=
    [.slot "name" false (·.name) (fun s v => { s with name := some v }) string,
     .slot "type" false (·.type) (fun s v => { s with type := some v }) string,
     .slot "module" true (·.module) (fun s v => { s with module := some v }) string]
  start := {}
  finish s := do
    return {
      name := ← Json.required "name" s.name
      type := ← Json.required "type" s.type
      module := s.module.getD "" }

def toJson (p : Parameter) : Json :=
  .object [("name", .string p.name), ("type", .string p.type), ("module", .string p.module)]

end Parameter

/-- The languages by name. -/
def Language.table : List (String × Language) :=
  Language.all.map fun l => (l.name, l)

namespace Binding

structure Draft where
  language : Option Language := none
  init : Option (Option String) := none

open Json.Decoder in
def record : Json.Record Draft Binding where
  name := "RemoteBinding"
  fields :=
    [.slot "language" true (·.language) (fun s v => { s with language := some v })
      (variant Language.table),
     .slot "init" true (·.init) (fun s v => { s with init := some v }) (optional string)]
  start := {}
  finish s := pure { language := s.language.getD .other, init := s.init.getD none }

def toJson (b : Binding) : Json :=
  .object [("language", .string b.language.name), ("init", .ofOption b.init)]

end Binding

namespace ContextParameter

structure Draft where
  name : Option String := none
  typeName : Option String := none
  typeModule : Option String := none

open Json.Decoder in
def record : Json.Record Draft ContextParameter where
  name := "ContextParameter"
  fields :=
    [.slot "name" false (·.name) (fun s v => { s with name := some v }) string,
     .slot "type_name" false (·.typeName) (fun s v => { s with typeName := some v }) string,
     .slot "type_module" true (·.typeModule) (fun s v => { s with typeModule := some v }) string]
  start := {}
  finish s := do
    return {
      name := ← Json.required "name" s.name
      typeName := ← Json.required "type_name" s.typeName
      typeModule := s.typeModule.getD "" }

def toJson (p : ContextParameter) : Json :=
  .object [("name", .string p.name), ("type_name", .string p.typeName),
    ("type_module", .string p.typeModule)]

end ContextParameter

namespace Interface

structure Draft where
  name : Option String := none
  direction : Option Direction := none
  synchronism : Option Synchronism := none
  protection : Option Protection := none
  remoteFunction : Option (Option String) := none
  remoteEntry : Option (Option String) := none
  binding : Option Binding := none
  callingInterfaces : Option (List String) := none
  callingThreads : Option (List String) := none
  inputs : Option (List Parameter) := none
  outputs : Option (List Parameter) := none

open Json.Decoder in
def record : Json.Record Draft Interface where
  name := "Interface"
  fields :=
    [.slot "name" false (·.name) (fun s v => { s with name := some v }) string,
     .slot "direction" false (·.direction) (fun s v => { s with direction := some v })
      (variant (Direction.all.map fun d => (d.name, d))),
     .slot "synchronism" true (·.synchronism) (fun s v => { s with synchronism := some v })
      (variant (Synchronism.all.map fun d => (d.name, d))),
     .slot "protection" true (·.protection) (fun s v => { s with protection := some v })
      (variant (Protection.all.map fun d => (d.name, d))),
     .slot "remote_function" true (·.remoteFunction)
      (fun s v => { s with remoteFunction := some v }) (optional string),
     .slot "remote_entry" true (·.remoteEntry) (fun s v => { s with remoteEntry := some v })
      (optional string),
     .slot "remote_binding" true (·.binding) (fun s v => { s with binding := some v })
      Binding.record.decode,
     .slot "calling_provided_interfaces" true (·.callingInterfaces)
      (fun s v => { s with callingInterfaces := some v }) (list string),
     .slot "calling_threads" true (·.callingThreads)
      (fun s v => { s with callingThreads := some v }) (list string),
     .slot "inputs" true (·.inputs) (fun s v => { s with inputs := some v })
      (list Parameter.record.decode),
     .slot "outputs" true (·.outputs) (fun s v => { s with outputs := some v })
      (list Parameter.record.decode)]
  start := {}
  finish s := do
    return {
      name := ← Json.required "name" s.name
      direction := ← Json.required "direction" s.direction
      synchronism := s.synchronism.getD .asynchronous
      protection := s.protection.getD .shielded
      remoteFunction := s.remoteFunction.getD none
      remoteEntry := s.remoteEntry.getD none
      binding := s.binding.getD {}
      callingInterfaces := s.callingInterfaces.getD []
      callingThreads := s.callingThreads.getD []
      inputs := s.inputs.getD []
      outputs := s.outputs.getD [] }

def toJson (i : Interface) : Json :=
  .object
    [("name", .string i.name), ("direction", .string i.direction.name),
     ("synchronism", .string i.synchronism.name), ("protection", .string i.protection.name),
     ("remote_function", .ofOption i.remoteFunction), ("remote_entry", .ofOption i.remoteEntry),
     ("remote_binding", i.binding.toJson),
     ("calling_provided_interfaces", .ofStrings i.callingInterfaces),
     ("calling_threads", .ofStrings i.callingThreads),
     ("inputs", .array (i.inputs.map (·.toJson))),
     ("outputs", .array (i.outputs.map (·.toJson)))]

/-- The interface that a text holds, its names as they are. -/
def ofText (bytes : List UInt8) : Json.Decoded Interface :=
  Json.decodeText record.decode bytes

end Interface

namespace FunctionBlock

structure Draft where
  name : Option String := none
  language : Option Language := none
  runtime : Option Runtime := none
  interfaces : Option (List Interface) := none
  callingThreads : Option (List String) := none
  process : Option (Option String) := none
  artificial : Option Bool := none
  instanceOf : Option (Option String) := none
  contextParameters : Option (List ContextParameter) := none
  timers : Option (List String) := none

open Json.Decoder in
def record : Json.Record Draft FunctionBlock where
  name := "FunctionalNode"
  fields :=
    [.slot "name" false (·.name) (fun s v => { s with name := some v }) string,
     .slot "language" true (·.language) (fun s v => { s with language := some v })
      (variant Language.table),
     .slot "runtime" false (·.runtime) (fun s v => { s with runtime := some v })
      (variant (Runtime.all.map fun r => (r.name, r))),
     .slot "interfaces" true (·.interfaces) (fun s v => { s with interfaces := some v })
      (list Interface.record.decode),
     .slot "calling_threads" true (·.callingThreads)
      (fun s v => { s with callingThreads := some v }) (list string),
     .slot "process" true (·.process) (fun s v => { s with process := some v })
      (optional string),
     .slot "artificial" true (·.artificial) (fun s v => { s with artificial := some v }) bool,
     .slot "instance_of" true (·.instanceOf) (fun s v => { s with instanceOf := some v })
      (optional string),
     .slot "context_parameters" true (·.contextParameters)
      (fun s v => { s with contextParameters := some v }) (list ContextParameter.record.decode),
     .slot "timers" true (·.timers) (fun s v => { s with timers := some v }) (list string)]
  start := {}
  finish s := do
    return {
      name := ← Json.required "name" s.name
      language := s.language.getD .other
      runtime := ← Json.required "runtime" s.runtime
      interfaces := s.interfaces.getD []
      callingThreads := s.callingThreads.getD []
      process := s.process.getD none
      artificial := s.artificial.getD false
      instanceOf := s.instanceOf.getD none
      contextParameters := s.contextParameters.getD []
      timers := s.timers.getD [] }

def toJson (f : FunctionBlock) : Json :=
  .object
    [("name", .string f.name), ("language", .string f.language.name),
     ("runtime", .string f.runtime.name),
     ("interfaces", .array (f.interfaces.map (·.toJson))),
     ("calling_threads", .ofStrings f.callingThreads), ("process", .ofOption f.process),
     ("artificial", .bool f.artificial), ("instance_of", .ofOption f.instanceOf),
     ("context_parameters", .array (f.contextParameters.map (·.toJson))),
     ("timers", .ofStrings f.timers)]

end FunctionBlock

/-! ## Trimmed names -/

/-- The names without blanks around them, blank ones left out. -/
def trimNames (names : List String) : List String :=
  (names.map Text.trim).filter (!·.isEmpty)

/-- A blank optional name is none. -/
def trimOption (name : Option String) : Option String :=
  name.bind Text.trimmed?

def Parameter.trimmed (p : Parameter) : Parameter where
  name := Text.trim p.name
  type := Text.trim p.type
  module := Text.trim p.module

def ContextParameter.trimmed (p : ContextParameter) : ContextParameter where
  name := Text.trim p.name
  typeName := Text.trim p.typeName
  typeModule := Text.trim p.typeModule

def Interface.trimmed (i : Interface) : Interface :=
  { i with
    name := Text.trim i.name
    remoteFunction := trimOption i.remoteFunction
    remoteEntry := trimOption i.remoteEntry
    binding := { i.binding with init := trimOption i.binding.init }
    callingInterfaces := trimNames i.callingInterfaces
    callingThreads := trimNames i.callingThreads
    inputs := i.inputs.map (·.trimmed)
    outputs := i.outputs.map (·.trimmed) }

def FunctionBlock.trimmed (f : FunctionBlock) : FunctionBlock :=
  { f with
    name := Text.trim f.name
    interfaces := f.interfaces.map (·.trimmed)
    callingThreads := trimNames f.callingThreads
    process := trimOption f.process
    instanceOf := trimOption f.instanceOf
    contextParameters := f.contextParameters.map (·.trimmed)
    timers := trimNames f.timers }

/-! ## Documents -/

/-- A document that holds a view. -/
structure ViewDocument where
  version : String
  functions : List FunctionBlock := []
  deriving DecidableEq, Repr

namespace ViewDocument

/-- The version of the documents that can be read. -/
def supportedVersion : String := "ivglue.model@0.1.0"

structure Draft where
  version : Option String := none
  functions : Option (List FunctionBlock) := none

open Json.Decoder in
def record : Json.Record Draft ViewDocument where
  name := "ModelDocument"
  fields :=
    [.slot "schema_version" false (·.version) (fun s v => { s with version := some v }) string,
     .slot "functions" true (·.functions) (fun s v => { s with functions := some v })
      (list FunctionBlock.record.decode)]
  start := {}
  finish s := do
    return {
      version := ← Json.required "schema_version" s.version
      functions := s.functions.getD [] }

def toJson (d : ViewDocument) : Json :=
  .object [("schema_version", .string d.version),
    ("functions", .array (d.functions.map (·.toJson)))]

/-- The document that a text holds, its names as they are. -/
def ofText (bytes : List UInt8) : Json.Decoded ViewDocument :=
  Json.decodeText record.decode bytes

end ViewDocument

/-- Why a text holds no view. -/
inductive ViewTextError where
  | undecodable (e : Json.DecodeError)
  | otherVersion (version : String)
  | inconsistent (e : ViewError)
  deriving DecidableEq, Repr

namespace ViewTextError

/-- What went wrong with the text of the file at `path`. -/
def headline (path : String) : ViewTextError → String
  | .undecodable _ => "[IVGMODEL_PARSE] parse model JSON: " ++ path
  | .otherVersion version =>
    "model schema_version mismatch: expected one of [" ++ Text.quoted ViewDocument.supportedVersion
      ++ "] got " ++ Text.quoted version
  | .inconsistent _ => "[IVGMODEL_INVALID] invalid model: " ++ path

/-- Why it did, where the headline leaves that open. -/
def cause? : ViewTextError → Option String
  | .undecodable e => some e.message
  | .otherVersion _ => none
  | .inconsistent e => some e.message

end ViewTextError

namespace View

/-- The view that a text holds. -/
def ofText (bytes : List UInt8) : Except ViewTextError View := do
  let doc ← (ViewDocument.ofText bytes).mapError .undecodable
  let version := Text.trim doc.version
  if version ≠ ViewDocument.supportedVersion then .error (.otherVersion version)
  (ofFunctions (doc.functions.map (·.trimmed))).mapError .inconsistent

/-- The document that holds the view. -/
def document (v : View) : ViewDocument :=
  ⟨ViewDocument.supportedVersion, v.functions⟩

/-- The written form of the view. -/
def toText (v : View) : String :=
  v.document.toJson.compact

end View

end AdaGlue
