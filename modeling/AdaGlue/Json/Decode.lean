/-
Typed values out of JSON trees. The tree is walked from left to right and the first thing that does
not fit is reported: a value of the wrong kind, a field that is there twice or not at all, or a
fault of the text itself. Records may be written as objects or as arrays of their fields
in order; members with other names are skipped.
-/
import AdaGlue.Json.Numeral
import AdaGlue.Json.Tree
import AdaGlue.Text.Quoted

namespace AdaGlue.Json

/-- What stands in the text, as far as messages tell. -/
inductive Found where
  | null
  | bool (b : Bool)
  | integer (n : Int)
  | double (text : String)
  | string (s : String)
  | sequence
  | map
  deriving DecidableEq, Repr

def Found.describe : Found → String
  | .null => "null"
  | .bool b => "boolean \x60" ++ (if b then "true" else "false") ++ "\x60"
  | .integer n => "integer \x60" ++ toString n ++ "\x60"
  | .double text => "floating point \x60" ++ text ++ "\x60"
  | .string s => "string " ++ Text.quoted s
  | .sequence => "sequence"
  | .map => "map"

/-- What was asked for. -/
inductive Wanted where
  | string
  | boolean
  | sequence
  | unit
  | record (name : String)
  deriving DecidableEq, Repr

def Wanted.describe : Wanted → String
  | .string => "a string"
  | .boolean => "a boolean"
  | .sequence => "a sequence"
  | .unit => "unit"
  | .record name => "struct " ++ name

/-- Well-formed text that does not hold what was asked for. -/
inductive Mismatch where
  | wrongType (found : Found) (wanted : Wanted)
  | missingField (name : String)
  | duplicateField (name : String)
  | wrongLength (length : Nat) (record : String) (fields : Nat)
  | unknownVariant (name : String) (known : List String)
  deriving DecidableEq, Repr

/-- A name between backquotes. -/
def backquoted (name : String) : String :=
  "\x60" ++ name ++ "\x60"

/-- The alternatives of a choice. -/
def oneOf : List String → String
  | [a] => backquoted a
  | [a, b] => backquoted a ++ " or " ++ backquoted b
  | names => "one of " ++ ", ".intercalate (names.map backquoted)

def Mismatch.message : Mismatch → String
  | .wrongType found wanted =>
    "invalid type: " ++ found.describe ++ ", expected " ++ wanted.describe
  | .missingField name => "missing field " ++ backquoted name
  | .duplicateField name => "duplicate field " ++ backquoted name
  | .wrongLength length record fields =>
    "invalid length " ++ toString length ++ ", expected struct " ++ record ++ " with " ++
      toString fields ++ (if fields = 1 then " element" else " elements")
  | .unknownVariant name known =>
    "unknown variant " ++ backquoted name ++ ", expected " ++ oneOf known

/-- Why a text could not be decoded. -/
inductive DecodeError where
  | fault (f : Fault)
  | mismatch (m : Mismatch)
  deriving DecidableEq, Repr

def DecodeError.message : DecodeError → String
  | .fault .truncated => "the text ends too early"
  | .fault .malformed => "the text is not JSON"
  | .mismatch m => m.message

abbrev Decoded (α : Type) := Except DecodeError α

abbrev Decoder (α : Type) := Tree → Decoded α

def fault {α : Type} (f : Fault) : Decoded α :=
  .error (.fault f)

def mismatch {α : Type} (m : Mismatch) : Decoded α :=
  .error (.mismatch m)

/-! ## Texts -/

def hexValue (b : UInt8) : Nat :=
  if b ≤ 0x39 then b.toNat - 0x30
  else if b ≤ 0x46 then b.toNat - 0x37
  else b.toNat - 0x57

def hexCode (h0 h1 h2 h3 : UInt8) : Nat :=
  ((hexValue h0 * 16 + hexValue h1) * 16 + hexValue h2) * 16 + hexValue h3

def isHighSurrogate (n : Nat) : Bool :=
  0xd800 ≤ n && n ≤ 0xdbff

def isLowSurrogate (n : Nat) : Bool :=
  0xdc00 ≤ n && n ≤ 0xdfff

/-- The bytes of a code point. -/
def utf8 (n : Nat) : List UInt8 :=
  String.utf8EncodeChar (Char.ofNat n)

/-- The byte that a one-letter escape stands for. -/
def shortEscape (e : UInt8) : UInt8 :=
  if e = byteOf 'b' then 0x08
  else if e = byteOf 'f' then 0x0c
  else if e = byteOf 'n' then 0x0a
  else if e = byteOf 'r' then 0x0d
  else if e = byteOf 't' then 0x09
  else e

/-- The bytes that a text stands for. Code escapes for surrogates come in pairs, the high one
first. -/
def unescape (stop : Option Fault) : List UInt8 → Decoded (List UInt8)
  | [] =>
    match stop with
    | none => pure []
    | some f => fault f
  | b :: r =>
    if b = byteOf '\\' then
      match r with
      | [] => fault .malformed
      | e :: r =>
        if e = byteOf 'u' then
          match r with
          | h0 :: h1 :: h2 :: h3 :: r =>
            let n := hexCode h0 h1 h2 h3
            if isLowSurrogate n then fault .malformed
            else if isHighSurrogate n then
              match r with
              | [] => fault (stop.getD .malformed)
              | b :: e :: l0 :: l1 :: l2 :: l3 :: r =>
                let low := hexCode l0 l1 l2 l3
                if b = byteOf '\\' && e = byteOf 'u' && isLowSurrogate low then do
                  let rest ← unescape stop r
                  pure (utf8 ((n - 0xd800) * 0x400 + (low - 0xdc00) + 0x10000) ++ rest)
                else fault .malformed
              | _ => fault .malformed
            else do
              let rest ← unescape stop r
              pure (utf8 n ++ rest)
          | _ => fault .malformed
        else do
          let rest ← unescape stop r
          pure (shortEscape e :: rest)
    else do
      let rest ← unescape stop r
      pure (b :: rest)

/-- The string that a text stands for, which must be valid UTF-8. -/
def RawText.decode (raw : RawText) : Decoded String := do
  let bytes ← unescape raw.stop raw.body
  match String.fromUTF8? ⟨bytes.toArray⟩ with
  | some s => pure s
  | none => fault .malformed

/-! ## Values of the wrong kind -/

/-- What stands at the front of a tree. Texts and numerals are worked out first, and may turn out
to be faulty. -/
def Tree.found : Tree → Decoded Found
  | .null => pure .null
  | .bool b => pure (.bool b)
  | .brokenWord f => fault f
  | .numeral n =>
    match n.stop with
    | some f => fault f
    | none =>
      match n.amount? with
      | some (.integer i) => pure (.integer i)
      | some (.double x) => pure (.double (doubleText x))
      | none => fault .malformed
  | .text raw => return .string (← raw.decode)
  | .array _ _ => pure .sequence
  | .object _ _ => pure .map
  | .absent f => fault f

def Tree.reject {α : Type} (t : Tree) (wanted : Wanted) : Decoded α := do
  mismatch (.wrongType (← t.found) wanted)

/-! ## Skipped values -/

/-- The fault where an array, an object or a text breaks off. -/
def skipEnd : Option Fault → Decoded Unit
  | none => pure ()
  | some f => fault f

def skipText (raw : RawText) : Decoded Unit :=
  skipEnd raw.stop

mutual

/-- The first fault of a value that nobody looks into. Neither the code points of its texts nor the
size of its numbers matter. -/
def Tree.skip : Tree → Decoded Unit
  | .null | .bool _ => pure ()
  | .brokenWord f => fault f
  | .numeral n => if n.stop.isSome then fault .malformed else pure ()
  | .text raw => skipText raw
  | .array items stop => do
    skipItems items
    skipEnd stop
  | .object members stop => do
    skipMembers members
    skipEnd stop
  | .absent f => fault f

def skipItems : List Tree → Decoded Unit
  | [] => pure ()
  | t :: r => do
    t.skip
    skipItems r

def skipMembers : List (RawText × Tree) → Decoded Unit
  | [] => pure ()
  | (k, t) :: r => do
    skipText k
    t.skip
    skipMembers r

end

/-! ## Basic decoders -/

namespace Decoder

def string : Decoder String
  | .text raw => raw.decode
  | t => t.reject .string

def bool : Decoder Bool
  | .bool b => pure b
  | t => t.reject .boolean

def unit : Decoder Unit
  | .null => pure ()
  | t => t.reject .unit

/-- Null stands for nothing. -/
def optional {α : Type} (d : Decoder α) : Decoder (Option α)
  | .null => pure none
  | t => return some (← d t)

def list {α : Type} (d : Decoder α) : Decoder (List α)
  | .array items stop => do
    let values ← items.mapM d
    skipEnd stop
    pure values
  | t => t.reject .sequence

/-- Looks a name up in a table. -/
def lookupVariant {α : Type} (table : List (String × α)) (name : String) : Decoded α :=
  match table.lookup name with
  | some a => pure a
  | none => mismatch (.unknownVariant name (table.map (·.1)))

/-- One of the named alternatives, written as its name or as an object that maps the name to
null. -/
def variant {α : Type} (table : List (String × α)) : Decoder α
  | .text raw => do lookupVariant table (← raw.decode)
  | .object ((k, t) :: more) stop => do
    let a ← lookupVariant table (← k.decode)
    unit t
    match more with
    | [] => skipEnd stop
    | _ :: _ => fault .malformed
    pure a
  | .object [] (some f) => fault f
  | .absent f => fault f
  | _ => fault .malformed

end Decoder

/-! ## Records -/

/-- A field of a record that is being filled in. -/
structure Field (σ : Type) where
  name : String
  /-- May be left off at the end of the array form. -/
  mayEnd : Bool
  filled : σ → Bool
  fill : σ → Tree → Decoded σ

/-- The field kept in one slot of the draft. -/
def Field.slot {σ α : Type} (name : String) (mayEnd : Bool) (get : σ → Option α)
    (set : σ → α → σ) (d : Decoder α) : Field σ where
  name := name
  mayEnd := mayEnd
  filled s := (get s).isSome
  fill s t := return set s (← d t)

/-- How a record is written: its fields in order, an empty draft, and what a draft amounts to. -/
structure Record (σ α : Type) where
  name : String
  fields : List (Field σ)
  start : σ
  finish : σ → Decoded α

/-- The value of a slot that must have been filled. -/
def required {α : Type} (name : String) : Option α → Decoded α
  | some a => pure a
  | none => mismatch (.missingField name)

namespace Record

variable {σ α : Type}

/-- The object form: a known name once, any other skipped. -/
def fillMembers (r : Record σ α) (s : σ) : List (RawText × Tree) → Decoded σ
  | [] => pure s
  | (k, t) :: more => do
    let key ← k.decode
    match r.fields.find? (·.name == key) with
    | some field =>
      if field.filled s then mismatch (.duplicateField key)
      else fillMembers r (← field.fill s t) more
    | none =>
      t.skip
      fillMembers r s more

/-- The array form: the fields in order, then the end. -/
def fillItems (r : Record σ α) (s : σ) (stop : Option Fault) (index : Nat) :
    List (Field σ) → List Tree → Decoded σ
  | [], [] => do
    skipEnd stop
    pure s
  | [], _ :: _ => fault .malformed
  | field :: fields, t :: more => do
    fillItems r (← field.fill s t) stop (index + 1) fields more
  | field :: fields, [] =>
    match stop with
    | some f => fault f
    | none =>
      if field.mayEnd then fillItems r s stop (index + 1) fields []
      else mismatch (.wrongLength index r.name r.fields.length)

def decode (r : Record σ α) : Decoder α
  | .object members stop => do
    let s ← r.fillMembers r.start members
    skipEnd stop
    r.finish s
  | .array items stop => do
    let s ← r.fillItems r.start stop 0 r.fields items
    r.finish s
  | t => t.reject (.record r.name)

end Record

/-! ## Whole texts -/

/-- Decodes a text that holds one value and nothing else. -/
def decodeText {α : Type} (d : Decoder α) (bytes : List UInt8) : Decoded α := do
  let doc := Document.read bytes
  let a ← d doc.root
  if doc.trailing then fault .malformed else pure a

end AdaGlue.Json
