/-
The configuration of the tool: a JSON document with the options of a run and the directory for its
output.
-/
import AdaGlue.Backend
import AdaGlue.Json.Decode
import AdaGlue.OrderedSet
import AdaGlue.Path

namespace AdaGlue

structure Config where
  version : String
  output : Option String := none
  concurrencyViewOnly : Bool := false
  middlewareInC : Bool := false
  backends : Option (List String) := none
  deriving DecidableEq, Repr

/-- Why a text holds no configuration. -/
inductive ConfigTextError where
  | undecodable (e : Json.DecodeError)
  | otherVersion (version : String)
  deriving DecidableEq, Repr

namespace Config

/-- The version of the documents that can be read. -/
def supportedVersion : String := "ivglue.config@0.1.0"

structure Draft where
  version : Option String := none
  output : Option (Option String) := none
  concurrencyViewOnly : Option Bool := none
  middlewareInC : Option Bool := none
  backends : Option (Option (List String)) := none

open Json.Decoder in
def record : Json.Record Draft Config where
  name := "ToolConfig"
  fields :=
    [.slot "schema_version" false (·.version) (fun s v => { s with version := some v }) string,
     .slot "output" true (·.output) (fun s v => { s with output := some v }) (optional string),
     .slot "only_cv" true (·.concurrencyViewOnly)
      (fun s v => { s with concurrencyViewOnly := some v }) bool,
     .slot "polyorb_hi_c" true (·.middlewareInC)
      (fun s v => { s with middlewareInC := some v }) bool,
     .slot "backends" true (·.backends) (fun s v => { s with backends := some v })
      (optional (list string))]
  start := {}
  finish s := do
    return {
      version := ← Json.required "schema_version" s.version
      output := s.output.join
      concurrencyViewOnly := s.concurrencyViewOnly.getD false
      middlewareInC := s.middlewareInC.getD false
      backends := s.backends.join }

/-- The configuration that a text holds. -/
def ofText (bytes : List UInt8) : Except ConfigTextError Config := do
  let c ← (Json.decodeText record.decode bytes).mapError .undecodable
  if Text.trim c.version ≠ supportedVersion then .error (.otherVersion c.version)
  return c

/-- The backends meant by a list of names, each once; without a list, all of them. -/
def namedBackends : Option (List String) → Except Backend.Unknown (List Backend)
  | none => return Backend.all
  | some names => return (OrderedSet.ofList (← names.mapM Backend.ofName)).toList

/-- The options of a run. -/
def toOptions (c : Config) : Except Backend.Unknown Options :=
  return {
    concurrencyViewOnly := c.concurrencyViewOnly
    middlewareInC := c.middlewareInC
    backends := ← namedBackends c.backends }

/-- The directory for the output, seen from the directory of the configuration at `path`. -/
def outputDir (c : Config) (path : String) : Option String := do
  let dir ← c.output.bind Text.trimmed?
  return Path.join ((Path.parent? path).getD ".") dir

end Config

namespace ConfigTextError

/-- What went wrong with the text of the file at `path`. -/
def headline (path : String) : ConfigTextError → String
  | .undecodable _ => "[IVGCONFIG_PARSE] parse config JSON: " ++ path
  | .otherVersion version =>
    "config schema_version mismatch: expected " ++ Config.supportedVersion ++ " got " ++
      Text.quoted version

/-- Why it did, where the headline leaves that open. -/
def cause? : ConfigTextError → Option String
  | .undecodable e => some e.message
  | .otherVersion _ => none

end ConfigTextError

end AdaGlue
