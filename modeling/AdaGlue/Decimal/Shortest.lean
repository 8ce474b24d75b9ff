/-
The shortest decimal that stands for a binary fraction: the fewest digits that lie closer to it than
to its neighbours, and of those the nearest. Everything is computed in exact arithmetic.
-/

namespace AdaGlue.Decimal

/-- Digits with the decimal point `point` places behind the first of them: `⟨[1, 2], -1⟩` is
0.012 and `⟨[1, 2], 3⟩` is 120. -/
structure Digits where
  digits : List Nat
  point : Int
  deriving DecidableEq, Repr

/-- The ends of the interval that stands for a binary fraction, and the fraction itself, all over
one denominator. -/
structure Span where
  low : Nat
  mid : Nat
  high : Nat
  den : Nat
  closed : Bool
  deriving Repr

/-- The interval around `m · 2^q`. It reaches half way to either neighbour; below a power of two
the neighbour is at half the distance. Its ends belong to it when `m` is even. -/
def spanOf (m : Nat) (q : Int) (closeBelow : Bool) : Span :=
  let up := Nat.pow 2 (q - 2).toNat
  { low := (4 * m - if closeBelow then 1 else 2) * up
    mid := 4 * m * up
    high := (4 * m + 2) * up
    den := Nat.pow 2 (2 - q).toNat
    closed := m % 2 == 0 }

/-- `c` times the grid step `b / a` lies in the interval. -/
def Span.admits (s : Span) (a b c : Nat) : Bool :=
  let x := c * s.den * b
  if s.closed then s.low * a ≤ x && x ≤ s.high * a
  else s.low * a < x && x < s.high * a

/-- The exponent of the leading digit of `num / den`. -/
def leading (num den : Nat) : Int :=
  if den ≤ num then (Nat.toDigits 10 (num / den)).length - 1
  else
    match (List.range 400).find? fun j => den ≤ num * Nat.pow 10 j with
    | some j => -(j : Int)
    | none => 0

/-- The admitted neighbour of the fraction on the grid with step `10^k`, the nearer one of two; at
equal distance the even one. -/
def Span.onGrid? (s : Span) (k : Int) : Option Nat :=
  let a := Nat.pow 10 (-k).toNat
  let b := Nat.pow 10 k.toNat
  let below := s.mid * a / (s.den * b)
  let above := below + 1
  match s.admits a b below, s.admits a b above with
  | true, true =>
    let down := s.mid * a - below * s.den * b
    let up := above * s.den * b - s.mid * a
    if down < up ∨ (down = up ∧ below % 2 = 0) then some below else some above
  | true, false => some below
  | false, true => some above
  | false, false => none

def digitList (n : Nat) : List Nat :=
  (Nat.toDigits 10 n).map fun c => c.toNat - 48

/-- The shortest digits for the fraction in the middle of `s`. Seventeen always do. -/
def shortest (s : Span) : Digits :=
  let e := leading s.mid s.den
  let grids := (List.range 17).map fun (n : Nat) => e - (n : Int)
  match grids.findSome? fun k => (s.onGrid? k).map fun c => (c, k) with
  | some (c, k) =>
    let ds := digitList c
    ⟨(ds.reverse.dropWhile (· == 0)).reverse, ds.length + k⟩
  | none => ⟨[], 0⟩

/-- The value of the leading bit of a significand of 53 bits. -/
def leadingBit : Nat := 0x10000000000000

/-- The shortest digits for a positive finite double. -/
def ofDouble (x : Float) : Digits :=
  let bits := x.toBits.toNat
  let mantissa := bits % leadingBit
  let exponent := bits / leadingBit % 2048
  if exponent = 0 then shortest (spanOf mantissa (-1074) false)
  else
    shortest
      (spanOf (leadingBit + mantissa) ((exponent : Int) - 1075) (mantissa == 0 && exponent > 1))

end AdaGlue.Decimal
