/-
Paths as text, with `/` between components. Joining keeps both texts as they are; the parent of a
path skips empty and `.` components at its end, and is always shorter than the path.
-/

namespace AdaGlue.Path

/-- The path starts at the root of the file system. -/
def isAbsolute (p : String) : Bool :=
  p.toList.head? = some '/'

/-- `part` below `base`. An absolute `part` stands for itself, and a separator is added only where
`base` is not empty and does not already end in one. -/
def join (base part : String) : String :=
  if isAbsolute part then part
  else if base.isEmpty || base.toList.getLast? = some '/' then base ++ part
  else base ++ "/" ++ part

/-- A leading `/`, or a leading `.` component, which a path keeps whatever follows. -/
def anchor : List Char → List Char
  | '/' :: _ => ['/']
  | ['.'] => ['.']
  | '.' :: '/' :: _ => ['.']
  | _ => []

/-- A reversed path without the empty and `.` components at its end. -/
def dropIdle : List Char → List Char
  | '/' :: r => dropIdle r
  | '.' :: '/' :: r => dropIdle r
  | ['.'] => []
  | r => r

/-- The path without its last component. The root and the empty path have no parent, and the
parent of a single component is the empty path. -/
def parent? (p : String) : Option String :=
  let cs := p.toList
  let head := anchor cs
  match dropIdle (cs.drop head.length).reverse with
  | [] => if head = ['.'] then some "" else none
  | body =>
    let above := dropIdle ((body.dropWhile (· != '/')).drop 1)
    some (String.ofList (head ++ above.reverse))

theorem length_dropIdle_le (cs : List Char) : (dropIdle cs).length ≤ cs.length := by
  fun_induction dropIdle cs with
  | case1 r ih | case2 r ih => simp only [List.length_cons]; omega
  | case3 => simp
  | case4 => exact Nat.le_refl _

theorem length_anchor_le (cs : List Char) : (anchor cs).length ≤ cs.length := by
  fun_cases anchor cs <;> simp

/-- Climbing from parent to parent comes to an end. -/
theorem length_parent?_lt {p q : String} (h : parent? p = some q) :
    q.toList.length < p.toList.length := by
  have ha := length_anchor_le p.toList
  have hd := length_dropIdle_le (p.toList.drop (anchor p.toList).length).reverse
  unfold parent? at h
  dsimp only at h
  generalize dropIdle (p.toList.drop (anchor p.toList).length).reverse = body at h hd
  split at h
  · split at h
    · next hdot => cases h; rw [hdot] at ha; exact ha
    · cases h
  · next hne =>
    cases h
    have hb := length_dropIdle_le ((body.dropWhile (· != '/')).drop 1)
    have hw := (List.dropWhile_sublist (l := body) (· != '/')).length_le
    have hpos : 0 < body.length := List.length_pos_iff.2 hne
    simp only [String.toList_ofList, List.length_append, List.length_reverse,
      List.length_drop] at hd hb ⊢
    omega

/-- The texts between the separators, empty ones included. -/
def splitAt : List Char → List (List Char)
  | [] => [[]]
  | c :: cs =>
    if c = '/' then [] :: splitAt cs
    else
      match splitAt cs with
      | [] => [[c]]
      | part :: more => (c :: part) :: more

def components (p : String) : List String :=
  (splitAt p.toList).map String.ofList

end AdaGlue.Path
