/-
The tokens of a JSON text. Reading goes from left to right and stops at the first place where the
text is no longer JSON; the token found there says why. Texts and numerals are kept as written, so
that their meaning is worked out only where it is asked for.
-/
import AdaGlue.Text.Bytes

namespace AdaGlue.Json

/-- Why a text stops being JSON: it ends too early, or something stands where it may not. -/
inductive Fault where
  | truncated
  | malformed
  deriving DecidableEq, Repr

/-- What stands between two quotes, as written, up to the place where it breaks off if it does. -/
structure RawText where
  body : List UInt8
  stop : Option Fault := none
  deriving DecidableEq, Repr

/-- A number as written: sign, digits, digits after the point, sign and digits of the exponent. -/
structure Numeral where
  negative : Bool
  whole : List Nat
  fraction : Option (List Nat) := none
  exponent : Option (Bool × List Nat) := none
  stop : Option Fault := none
  deriving DecidableEq, Repr

inductive Token where
  | openArray
  | closeArray
  | openObject
  | closeObject
  | comma
  | colon
  | null
  | bool (b : Bool)
  | brokenWord (f : Fault)
  | numeral (n : Numeral)
  | text (raw : RawText)
  | stray
  deriving DecidableEq, Repr

/-! ## Character classes -/

def byteOf (c : Char) : UInt8 :=
  c.toNat.toUInt8

def isSpace (b : UInt8) : Bool :=
  b = 0x20 || b = 0x0a || b = 0x09 || b = 0x0d

def isDigit (b : UInt8) : Bool :=
  0x30 ≤ b && b ≤ 0x39

def isHexDigit (b : UInt8) : Bool :=
  isDigit b || (0x41 ≤ b && b ≤ 0x46) || (0x61 ≤ b && b ≤ 0x66)

/-- The letters that may follow a backslash, other than `u`. -/
def isShortEscape (b : UInt8) : Bool :=
  b = byteOf '"' || b = byteOf '\\' || b = byteOf '/' || b = byteOf 'b' || b = byteOf 'f' ||
    b = byteOf 'n' || b = byteOf 'r' || b = byteOf 't'

/-! ## Texts -/

/-- The bytes in front of a text. -/
def RawText.cons (bs : List UInt8) (scanned : RawText × List UInt8) : RawText × List UInt8 :=
  ({ scanned.1 with body := bs ++ scanned.1.body }, scanned.2)

/-- The text from behind its opening quote, and what follows its closing one. An escape by code
needs four digits, whatever they stand for. -/
def scanText : List UInt8 → RawText × List UInt8
  | [] => (⟨[], some .truncated⟩, [])
  | b :: r =>
    if b = byteOf '"' then (⟨[], none⟩, r)
    else if b = byteOf '\\' then
      match r with
      | [] => (⟨[], some .truncated⟩, [])
      | e :: r =>
        if e = byteOf 'u' then
          match r with
          | h0 :: h1 :: h2 :: h3 :: r =>
            if [h0, h1, h2, h3].all isHexDigit then
              RawText.cons [b, e, h0, h1, h2, h3] (scanText r)
            else (⟨[], some .malformed⟩, r)
          | _ => (⟨[], some .truncated⟩, [])
        else if isShortEscape e then RawText.cons [b, e] (scanText r)
        else (⟨[], some .malformed⟩, r)
    else if b < 0x20 then (⟨[], some .malformed⟩, r)
    else RawText.cons [b] (scanText r)

theorem length_scanText_le (s : List UInt8) : (scanText s).2.length ≤ s.length := by
  fun_induction scanText s <;> simp_all [RawText.cons] <;> omega

/-! ## Numerals -/

/-- The digits at the front, and what follows them. -/
def takeDigits (s : List UInt8) : List Nat × List UInt8 :=
  ((s.takeWhile isDigit).map fun b => b.toNat - 0x30, s.dropWhile isDigit)

/-- A digit is due and `s` does not start with one. -/
def lack (s : List UInt8) : Fault :=
  if s.isEmpty then .truncated else .malformed

/-- The optional sign of an exponent: is it a minus, and what follows it. -/
def takeSign : List UInt8 → Bool × List UInt8
  | [] => (false, [])
  | b :: r =>
    if b = byteOf '+' then (false, r)
    else if b = byteOf '-' then (true, r)
    else (false, b :: r)

/-- The exponent of a numeral, if one follows. -/
def scanExponent (n : Numeral) : List UInt8 → Numeral × List UInt8
  | [] => (n, [])
  | b :: r =>
    if b = byteOf 'e' || b = byteOf 'E' then
      let sign := takeSign r
      let ds := takeDigits sign.2
      if ds.1.isEmpty then ({ n with stop := some (lack sign.2) }, ds.2)
      else ({ n with exponent := some (sign.1, ds.1) }, ds.2)
    else (n, b :: r)

/-- The digits after the point, if there is one, and the exponent. -/
def scanFraction (n : Numeral) : List UInt8 → Numeral × List UInt8
  | [] => (n, [])
  | b :: r =>
    if b = byteOf '.' then
      let ds := takeDigits r
      if ds.1.isEmpty then ({ n with stop := some (lack r) }, ds.2)
      else scanExponent { n with fraction := some ds.1 } ds.2
    else scanExponent n (b :: r)

/-- The numeral from behind its sign, and what follows it. No digit follows a leading zero. -/
def scanNumeral (negative : Bool) (s : List UInt8) : Numeral × List UInt8 :=
  let ds := takeDigits s
  match ds.1 with
  | [] => (⟨negative, [], none, none, some (lack s)⟩, ds.2)
  | 0 :: _ :: _ => (⟨negative, [0], none, none, some .malformed⟩, ds.2)
  | whole => scanFraction ⟨negative, whole, none, none, none⟩ ds.2

theorem length_takeDigits_le (s : List UInt8) : (takeDigits s).2.length ≤ s.length :=
  (List.dropWhile_sublist isDigit).length_le

theorem length_takeSign_le (s : List UInt8) : (takeSign s).2.length ≤ s.length := by
  unfold takeSign; grind

theorem length_scanExponent_le (n : Numeral) (s : List UInt8) :
    (scanExponent n s).2.length ≤ s.length := by
  cases s with
  | nil => simp [scanExponent]
  | cons b r =>
    have h1 := length_takeSign_le r
    have h2 := length_takeDigits_le (takeSign r).2
    simp only [scanExponent]
    split
    · split <;> simp <;> omega
    · simp

theorem length_scanFraction_le (n : Numeral) (s : List UInt8) :
    (scanFraction n s).2.length ≤ s.length := by
  cases s with
  | nil => simp [scanFraction]
  | cons b r =>
    have h := length_takeDigits_le r
    simp only [scanFraction]
    split
    · split
      · simp; omega
      · exact Nat.le_trans (length_scanExponent_le _ _) (by simp; omega)
    · exact length_scanExponent_le _ _

/-- What follows a numeral starts behind its first digits. -/
theorem length_scanNumeral_le (negative : Bool) (s : List UInt8) :
    (scanNumeral negative s).2.length ≤ (takeDigits s).2.length := by
  unfold scanNumeral
  dsimp only
  split
  · exact Nat.le_refl _
  · exact Nat.le_refl _
  · exact length_scanFraction_le _ _

/-! ## Words -/

/-- Compares the front of `s` with the rest of a word. -/
def scanWord : List UInt8 → List UInt8 → Option Fault × List UInt8
  | [], s => (none, s)
  | _ :: _, [] => (some .truncated, [])
  | e :: es, b :: r => if b = e then scanWord es r else (some .malformed, r)

theorem length_scanWord_le (word s : List UInt8) : (scanWord word s).2.length ≤ s.length := by
  fun_induction scanWord word s with
  | case1 => exact Nat.le_refl _
  | case2 => simp
  | case3 _ _ r ih => rw [List.length_cons]; omega
  | case4 => simp

/-! ## All tokens -/

/-- A token together with what follows it, unless reading stops there. -/
def resume (stop : Option Fault) (token : Token) (rest : List UInt8) :
    Token × Option (List UInt8) :=
  (token, if stop.isSome then none else some rest)

/-- The word `w` whose first letter has been read. -/
def wordToken (w : String) (token : Token) (r : List UInt8) : Token × Option (List UInt8) :=
  match scanWord (Text.bytes w) r with
  | (none, rest) => (token, some rest)
  | (some f, _) => (.brokenWord f, none)

/-- The tokens that are one byte long. -/
def mark? (b : UInt8) : Option Token :=
  if b = byteOf '[' then some .openArray
  else if b = byteOf ']' then some .closeArray
  else if b = 0x7b then some .openObject
  else if b = 0x7d then some .closeObject
  else if b = byteOf ',' then some .comma
  else if b = byteOf ':' then some .colon
  else none

/-- The text whose opening quote has been read. -/
def textToken (r : List UInt8) : Token × Option (List UInt8) :=
  resume (scanText r).1.stop (.text (scanText r).1) (scanText r).2

/-- The numeral that starts at `s`, its sign apart. -/
def numeralToken (negative : Bool) (s : List UInt8) : Token × Option (List UInt8) :=
  resume (scanNumeral negative s).1.stop (.numeral (scanNumeral negative s).1)
    (scanNumeral negative s).2

/-- The token that starts with `b`, and what follows it. -/
def scanToken (b : UInt8) (r : List UInt8) : Token × Option (List UInt8) :=
  match mark? b with
  | some t => (t, some r)
  | none =>
    if b = byteOf '"' then textToken r
    else if b = byteOf '-' then numeralToken true r
    else if isDigit b then numeralToken false (b :: r)
    else if b = byteOf 'n' then wordToken "ull" .null r
    else if b = byteOf 't' then wordToken "rue" (.bool true) r
    else if b = byteOf 'f' then wordToken "alse" (.bool false) r
    else (.stray, none)

theorem rest_of_resume {stop : Option Fault} {t u : Token} {rest rest' : List UInt8}
    (h : resume stop t rest = (u, some rest')) : rest' = rest := by
  unfold resume at h
  split at h <;> simp_all

theorem length_wordToken_le {w : String} {t u : Token} {r rest : List UInt8}
    (h : wordToken w t r = (u, some rest)) : rest.length ≤ r.length := by
  have hl := length_scanWord_le (Text.bytes w) r
  unfold wordToken at h
  split at h <;> simp_all

theorem length_textToken_le {r rest : List UInt8} {t : Token}
    (h : textToken r = (t, some rest)) : rest.length ≤ r.length := by
  rw [rest_of_resume h]; exact length_scanText_le r

theorem length_numeralToken_le {negative : Bool} {s rest : List UInt8} {t : Token}
    (h : numeralToken negative s = (t, some rest)) : rest.length ≤ (takeDigits s).2.length := by
  rw [rest_of_resume h]; exact length_scanNumeral_le negative s

theorem length_takeDigits_cons_le {b : UInt8} (r : List UInt8) (hb : isDigit b) :
    (takeDigits (b :: r)).2.length ≤ r.length := by
  simpa [takeDigits, List.dropWhile_cons, hb] using length_takeDigits_le r

theorem length_scanToken_le {b : UInt8} {r rest : List UInt8} {t : Token}
    (h : scanToken b r = (t, some rest)) : rest.length ≤ r.length := by
  unfold scanToken at h
  split at h
  · cases h; exact Nat.le_refl _
  · by_cases h1 : b = byteOf '"'
    · rw [if_pos h1] at h; exact length_textToken_le h
    rw [if_neg h1] at h
    by_cases h2 : b = byteOf '-'
    · rw [if_pos h2] at h; exact Nat.le_trans (length_numeralToken_le h) (length_takeDigits_le r)
    rw [if_neg h2] at h
    by_cases h3 : isDigit b
    · rw [if_pos h3] at h
      exact Nat.le_trans (length_numeralToken_le h) (length_takeDigits_cons_le r h3)
    rw [if_neg h3] at h
    by_cases h4 : b = byteOf 'n'
    · rw [if_pos h4] at h; exact length_wordToken_le h
    rw [if_neg h4] at h
    by_cases h5 : b = byteOf 't'
    · rw [if_pos h5] at h; exact length_wordToken_le h
    rw [if_neg h5] at h
    by_cases h6 : b = byteOf 'f'
    · rw [if_pos h6] at h; exact length_wordToken_le h
    rw [if_neg h6] at h
    cases h

/-- The tokens of a text. Where reading stops there is no further token. -/
def tokens : List UInt8 → List Token
  | [] => []
  | b :: r =>
    if isSpace b then tokens r
    else
      match _h : scanToken b r with
      | (t, none) => [t]
      | (t, some rest) => t :: tokens rest
termination_by s => s.length
decreasing_by
  · simp
  · simpa using Nat.lt_succ_of_le (length_scanToken_le _h)

end AdaGlue.Json
