/-
The steps of a path: its components without those that stay where they are. Joining puts the steps
of the part behind those of the base, and a parent has a first part of the steps of its path. A path
stays inside a directory if it is relative and none of its steps goes up. The path of a generated
file does so exactly if the name of its function does.
-/
import AdaGlue.Proofs.Destination

namespace AdaGlue.Path

/-! ## Components -/

theorem splitAt_ne_nil (cs : List Char) : splitAt cs ≠ [] := by
  fun_cases splitAt cs <;> simp

theorem splitAt_separator (front back : List Char) :
    splitAt (front ++ '/' :: back) = splitAt front ++ splitAt back := by
  induction front with
  | nil => simp [splitAt]
  | cons c front ih =>
    by_cases hc : c = '/'
    · simp [splitAt, hc, ih]
    · cases hsplit : splitAt front with
      | nil => exact absurd hsplit (splitAt_ne_nil front)
      | cons part more =>
        rw [hsplit] at ih
        simp [splitAt, hc, ih, hsplit]

theorem splitAt_of_not_mem {cs : List Char} (h : '/' ∉ cs) : splitAt cs = [cs] := by
  induction cs with
  | nil => rfl
  | cons c cs ih =>
    rw [List.mem_cons, not_or] at h
    simp [splitAt, Ne.symm h.1, ih h.2]

/-- An ending without separators goes to the last component. -/
theorem splitAt_append (cs : List Char) {ending : List Char} (h : '/' ∉ ending) :
    ∃ init last, splitAt cs = init ++ [last] ∧ splitAt (cs ++ ending) = init ++ [last ++ ending] := by
  induction cs with
  | nil => exact ⟨[], [], rfl, by simp [splitAt_of_not_mem h]⟩
  | cons c cs ih =>
    obtain ⟨init, last, hcs, hended⟩ := ih
    by_cases hc : c = '/'
    · exact ⟨[] :: init, last, by simp [splitAt, hc, hcs], by simp [splitAt, hc, hended]⟩
    · cases init with
      | nil => exact ⟨[], c :: last, by simp_all [splitAt], by simp_all [splitAt]⟩
      | cons part init =>
        exact ⟨(c :: part) :: init, last, by simp_all [splitAt], by simp_all [splitAt]⟩

/-! ## Steps -/

/-- The component leads somewhere else. -/
def isStep (name : String) : Bool :=
  name ≠ "" && name ≠ "."

/-- The steps of a text. -/
def stepsIn (cs : List Char) : List String :=
  ((splitAt cs).map String.ofList).filter isStep

/-- The steps of a path. -/
def steps (p : String) : List String :=
  (components p).filter isStep

theorem stepsIn_separator (front back : List Char) :
    stepsIn (front ++ '/' :: back) = stepsIn front ++ stepsIn back := by
  simp [stepsIn, splitAt_separator]

@[simp] theorem stepsIn_nil : stepsIn [] = [] := by decide

@[simp] theorem stepsIn_dot : stepsIn ['.'] = [] := by decide

theorem up_mem_steps_iff {p : String} : ".." ∈ steps p ↔ ".." ∈ components p := by
  simp [steps, isStep]

/-! ## Joining -/

theorem isAbsolute_join {root p : String} (h : isAbsolute p = false) :
    isAbsolute (join root p) = isAbsolute root := by
  by_cases hempty : root = ""
  · have hjoin : join root p = p := by simp [join, hempty]
    rw [hjoin, h, hempty]
    rfl
  · unfold join
    rw [h, if_neg Bool.false_ne_true]
    split
    · exact isAbsolute_append hempty p
    · rw [String.append_assoc]
      exact isAbsolute_append hempty _

theorem steps_join {root p : String} (h : isAbsolute p = false) :
    steps (join root p) = steps root ++ steps p := by
  show stepsIn (join root p).toList = stepsIn root.toList ++ stepsIn p.toList
  unfold join
  rw [h, if_neg Bool.false_ne_true]
  split
  · next hend =>
    rw [Bool.or_eq_true, decide_eq_true_eq, String.isEmpty_iff] at hend
    rcases hend with rfl | hend
    · simp
    · -- the base ends in the separator itself
      obtain ⟨front, hfront⟩ := List.getLast?_eq_some_iff.1 hend
      rw [String.toList_append, hfront, List.append_assoc, List.singleton_append,
        stepsIn_separator, stepsIn_separator, stepsIn_nil, List.append_nil]
  · rw [String.append_assoc, String.toList_append, String.toList_append]
    exact stepsIn_separator root.toList p.toList

/-! ## Parents -/

theorem stepsIn_dropIdle (cs : List Char) : stepsIn (dropIdle cs).reverse = stepsIn cs.reverse := by
  fun_induction dropIdle cs with
  | case1 r ih => simp [stepsIn_separator, ih]
  | case2 r ih => simp [stepsIn_separator, ih]
  | case3 => rfl
  | case4 => rfl

theorem dropIdle_suffix (cs : List Char) : dropIdle cs <:+ cs := by
  fun_induction dropIdle cs with
  | case1 r ih => exact ih.trans (List.suffix_cons _ _)
  | case2 r ih => exact ih.trans ((List.suffix_cons _ _).trans (List.suffix_cons _ _))
  | case3 => exact List.nil_suffix
  | case4 => exact List.suffix_rfl

theorem anchor_append (cs : List Char) : anchor cs ++ cs.drop (anchor cs).length = cs := by
  fun_cases anchor cs <;> rfl

/-- What a path keeps whatever follows is no step of it. -/
theorem stepsIn_anchor_append (cs : List Char) {rest : List Char}
    (h : rest <+: cs.drop (anchor cs).length) : stepsIn (anchor cs ++ rest) = stepsIn rest := by
  revert h
  fun_cases anchor cs with
  | case1 => exact fun _ => stepsIn_separator [] rest
  | case2 =>
    intro h
    obtain rfl : rest = [] := List.prefix_nil.1 h
    rfl
  | case3 t =>
    intro h
    cases rest with
    | nil => rfl
    | cons c rest =>
      obtain ⟨rfl, -⟩ := List.cons_prefix_cons.1 h
      exact (stepsIn_separator ['.'] rest).trans (stepsIn_separator [] rest).symm
  | case4 => exact fun _ => rfl

/-- A first part of a path that keeps its anchor starts where the path does. -/
theorem isAbsolute_of_prefix {p q : String} (h : q.toList <+: p.toList)
    (hanchor : anchor p.toList <+: q.toList) : isAbsolute q = isAbsolute p := by
  unfold isAbsolute
  cases hq : q.toList with
  | nil =>
    rw [hq, List.prefix_nil] at hanchor
    cases hp : p.toList with
    | nil => rfl
    | cons c r =>
      have hc : c ≠ '/' := by
        rintro rfl
        rw [hp] at hanchor
        simp [anchor] at hanchor
      simp [hc]
  | cons c r =>
    obtain ⟨t, ht⟩ := h
    rw [← ht, hq]
    rfl

/-- A parent starts where its path does, and has a first part of its steps. -/
theorem steps_parent? {p q : String} (h : parent? p = some q) :
    isAbsolute q = isAbsolute p ∧ steps q <+: steps p := by
  show isAbsolute q = isAbsolute p ∧ stepsIn q.toList <+: stepsIn p.toList
  have hsplit := anchor_append p.toList
  have hrest := stepsIn_dropIdle (p.toList.drop (anchor p.toList).length).reverse
  have hsuffix := dropIdle_suffix (p.toList.drop (anchor p.toList).length).reverse
  have hsteps := stepsIn_anchor_append p.toList List.prefix_rfl
  rw [hsplit] at hsteps
  rw [List.reverse_reverse] at hrest
  unfold parent? at h
  dsimp only at h
  generalize hbody : dropIdle (p.toList.drop (anchor p.toList).length).reverse = body
    at h hrest hsuffix
  split at h
  · split at h
    · next hdot =>
      cases h
      refine ⟨?_, by simp⟩
      have hrel : p.toList.head? = some '.' := by rw [← hsplit, hdot]; rfl
      simp [isAbsolute, hrel]
    · cases h
  · cases h
    rw [String.toList_ofList]
    have habove : dropIdle ((body.dropWhile (· != '/')).drop 1) <:+ body :=
      (dropIdle_suffix _).trans ((List.drop_suffix 1 _).trans (List.dropWhile_suffix _))
    have hkept : (dropIdle ((body.dropWhile (· != '/')).drop 1)).reverse <+:
        p.toList.drop (anchor p.toList).length := by
      rw [← List.reverse_suffix, List.reverse_reverse]
      exact habove.trans hsuffix
    constructor
    · refine isAbsolute_of_prefix ?_ ?_
      · rw [String.toList_ofList]
        conv => rhs; rw [← hsplit]
        exact (List.prefix_append_right_inj _).2 hkept
      · rw [String.toList_ofList]
        exact List.prefix_append _ _
    · rw [stepsIn_anchor_append p.toList hkept, stepsIn_dropIdle, hsteps, ← hrest]
      -- the last component stands behind the last separator, if there is one
      have hcut := List.takeWhile_append_dropWhile (p := (· != '/')) (l := body)
      cases hdrop : body.dropWhile (· != '/') with
      | nil => simp
      | cons c above =>
        obtain rfl : c = '/' := by
          have hhead := List.head?_dropWhile_not (· != '/') body
          simpa [hdrop] using hhead
        rw [hdrop] at hcut
        rw [← hcut, List.reverse_append, List.reverse_cons, List.append_assoc,
          List.singleton_append, stepsIn_separator]
        exact List.prefix_append _ _

/-! ## Paths that stay inside -/

/-- The path is relative and goes up nowhere. -/
def StaysInside (p : String) : Prop :=
  isAbsolute p = false ∧ ".." ∉ components p

instance (p : String) : Decidable (StaysInside p) :=
  inferInstanceAs (Decidable (_ ∧ _))

theorem up_mem_components_iff {p : String} : ".." ∈ components p ↔ ['.', '.'] ∈ splitAt p.toList := by
  have hup : ".." = String.ofList ['.', '.'] := rfl
  rw [components, hup, List.mem_map_of_injective fun _ _ h => String.ofList_injective h]

/-- An ending of its own makes no path go up. -/
theorem up_not_mem_append {cs ending : List Char} (h : ['.', '.'] ∉ splitAt cs)
    (hplain : '/' ∉ ending) (hending : ¬ ending <:+ ['.', '.']) :
    ['.', '.'] ∉ splitAt (cs ++ ending) := by
  obtain ⟨init, last, hcs, hended⟩ := splitAt_append cs hplain
  rw [hcs, List.mem_append, not_or] at h
  rw [hended, List.mem_append, List.mem_singleton]
  rintro (hup | hup)
  · exact h.1 hup
  · exact hending ⟨last, hup.symm⟩

theorem StaysInside.append {p : String} (h : StaysInside p) (hp : p ≠ "") {ending : String}
    (hplain : '/' ∉ ending.toList) (hending : ¬ ending.toList <:+ ['.', '.']) :
    StaysInside (p ++ ending) := by
  refine ⟨(isAbsolute_append hp ending).trans h.1, ?_⟩
  have hup := h.2
  rw [up_mem_components_iff] at hup ⊢
  rw [String.toList_append]
  exact up_not_mem_append hup hplain hending

end AdaGlue.Path

namespace AdaGlue.Destination

theorem ending_not_suffix_up (k : Destination) : ¬ k.ending.toList <:+ ['.', '.'] := by
  cases k <;> decide

/-- The path of a file stays inside exactly if the name of its function does. -/
theorem staysInside_path_iff {n : String} (hn : n ≠ "") (k : Destination) :
    Path.StaysInside (k.path n) ↔ Path.StaysInside n := by
  unfold Path.StaysInside
  rw [Path.up_mem_components_iff, Path.up_mem_components_iff]
  cases hrel : Path.isAbsolute n with
  | true =>
    have habs : Path.isAbsolute (k.path n) = true := by
      have hfile := (Path.isAbsolute_append hn k.ending).trans hrel
      simp [path, Path.join, fileName, hfile]
    simp [habs]
  | false =>
    rw [isAbsolute_path hn hrel k, toList_path hn hrel k]
    refine and_congr_right fun _ => not_congr ?_
    have hended : ['.', '.'] ∈ Path.splitAt (n.toList ++ k.ending.toList) →
        ['.', '.'] ∈ Path.splitAt n.toList := not_imp_not.1 fun h =>
      Path.up_not_mem_append h k.separator_not_mem_ending k.ending_not_suffix_up
    unfold Path.gap
    split
    · next hend =>
      -- the name ends in the separator that stands behind its first occurrence
      obtain ⟨front, hfront⟩ := List.getLast?_eq_some_iff.1 hend
      have hname : ['.', '.'] ∈ Path.splitAt n.toList ↔ ['.', '.'] ∈ Path.splitAt front := by
        rw [hfront, Path.splitAt_separator]
        simp [Path.splitAt]
      have htwice : n.toList ++ [] ++ n.toList ++ k.ending.toList =
          front ++ '/' :: (n.toList ++ k.ending.toList) := by
        rw [List.append_nil, hfront]
        simp
      rw [htwice, Path.splitAt_separator, List.mem_append, ← hname]
      exact or_iff_left_of_imp hended
    · have htwice : n.toList ++ ['/'] ++ n.toList ++ k.ending.toList =
          n.toList ++ '/' :: (n.toList ++ k.ending.toList) := by simp
      rw [htwice, Path.splitAt_separator, List.mem_append]
      exact or_iff_left_of_imp hended

end AdaGlue.Destination
