/-
Blank characters (the property White_Space) and the text without blanks at either end. A trimmed
text has nothing left to trim.
-/

namespace AdaGlue.Text

/-- Closed ranges of the code points that count as blank. -/
def blankRanges : List (Nat × Nat) :=
  [(0x9, 0xd), (0x20, 0x20), (0x85, 0x85), (0xa0, 0xa0), (0x1680, 0x1680), (0x2000, 0x200a),
   (0x2028, 0x2029), (0x202f, 0x202f), (0x205f, 0x205f), (0x3000, 0x3000)]

def isBlank (c : Char) : Bool :=
  blankRanges.any fun r => r.1 ≤ c.toNat && c.toNat ≤ r.2

/-- The list without its trailing members that satisfy `p`. -/
def dropEnd (p : Char → Bool) (cs : List Char) : List Char :=
  (cs.reverse.dropWhile p).reverse

/-- The text without the blanks at its two ends. -/
def trim (s : String) : String :=
  String.ofList (dropEnd isBlank (s.toList.dropWhile isBlank))

/-- The trimmed text, or nothing when only blanks are left. -/
def trimmed? (s : String) : Option String :=
  if (trim s).isEmpty then none else some (trim s)

end AdaGlue.Text
