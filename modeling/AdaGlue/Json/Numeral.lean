/-
The value of a numeral: an integer where it fits a 64-bit word and is written as one, and a double
otherwise. Digits that no longer fit the significand only count towards the exponent.
-/
import AdaGlue.Decimal.Shortest
import AdaGlue.Json.Token

namespace AdaGlue.Json

/-- The value of a numeral. -/
inductive Amount where
  | integer (n : Int)
  | double (x : Float)

/-- The number of values of a word of 64 bits. -/
def wordLimit : Nat := 0x10000000000000000

/-- The least word whose highest bit is set. -/
def highBit : Nat := 0x8000000000000000

/-- Appends digits to a significand of 64 bits while they fit; returns those that do not. -/
def fillWord (word : Nat) : List Nat → Nat × List Nat
  | [] => (word, [])
  | d :: r => if word * 10 + d < wordLimit then fillWord (word * 10 + d) r else (word, d :: r)

def tenTo (k : Nat) : Float :=
  Float.ofScientific 1 false k

/-- Division by `10^k`, at most 308 places at a time, until nothing is left. -/
def shrink (x : Float) (k : Nat) : Float :=
  if k ≤ 308 then x / tenTo k
  else if x == 0 then x
  else shrink (x / tenTo 308) (k - 308)
termination_by k

/-- The significand times a power of ten, unless it is too large for a double. -/
def scale? (word : Nat) (exponent : Int) : Option Float :=
  let x := word.toUInt64.toFloat
  match exponent with
  | .negSucc k => some (shrink x (k + 1))
  | .ofNat k =>
    if k ≤ 308 then
      let y := x * tenTo k
      if y.isInf then none else some y
    else if x == 0 then some x
    else none

namespace Numeral

/-- Digits read as a number. -/
def valueOf (digits : List Nat) : Nat :=
  digits.foldl (fun n d => n * 10 + d) 0

/-- The power of ten that an exponent asks for. -/
def exponentOf : Option (Bool × List Nat) → Int
  | none => 0
  | some (negative, ds) => if negative then -(valueOf ds : Int) else valueOf ds

/-- The double that the numeral stands for, unless it is out of range. -/
def double? (n : Numeral) : Option Float :=
  let whole := fillWord 0 n.whole
  let places := n.fraction.getD []
  let word := fillWord whole.1 places
  let kept := places.length - word.2.length
  let exponent := (whole.2.length : Int) - kept + exponentOf n.exponent
  (scale? word.1 exponent).map fun x => if n.negative then -x else x

/-- The integer that the numeral is written as, if it fits. A negative zero is no integer. -/
def integer? (n : Numeral) : Option Int :=
  if n.fraction.isSome || n.exponent.isSome then none
  else
    match fillWord 0 n.whole with
    | (_, _ :: _) => none
    | (word, []) =>
      if !n.negative then some word
      else if 0 < word && word ≤ highBit then some (-(word : Int))
      else none

/-- The value of the numeral; nothing where it is too large for a double. -/
def amount? (n : Numeral) : Option Amount :=
  match n.integer? with
  | some i => some (.integer i)
  | none => n.double?.map .double

end Numeral

/-- An exponent with its sign, also when that is a plus. -/
def signedText (n : Int) : String :=
  if 0 ≤ n then "+" ++ toString n else toString n

/-- A double in messages: positional from 1e-5 up to 1e16, always with a point there; otherwise one
digit before the point and a signed exponent. -/
def doubleText (x : Float) : String :=
  let bits := x.toBits.toNat
  let sign := if bits / highBit = 1 then "-" else ""
  if bits % highBit = 0 then sign ++ "0.0"
  else
    let d := Decimal.ofDouble x.abs
    let write (ds : List Nat) : String := String.join (ds.map toString)
    let zeros (n : Nat) : String := String.join (List.replicate n "0")
    if 0 < d.point ∧ d.point ≤ 16 then
      let n := d.point.toNat
      if d.digits.length ≤ n then sign ++ write d.digits ++ zeros (n - d.digits.length) ++ ".0"
      else sign ++ write (d.digits.take n) ++ "." ++ write (d.digits.drop n)
    else if -5 < d.point ∧ d.point ≤ 0 then
      sign ++ "0." ++ zeros (-d.point).toNat ++ write d.digits
    else
      let tail := if d.digits.length = 1 then "" else "." ++ write (d.digits.drop 1)
      sign ++ write (d.digits.take 1) ++ tail ++ "e" ++ signedText (d.point - 1)

end AdaGlue.Json
