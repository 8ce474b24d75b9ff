/-
Two files of a run never share a path. The path of a file holds the name of its function twice,
with a separator between where the name does not end in one, and then an ending without separators.
Counting the separators tells how many of them the name has and whether it ends in one, which fixes
where the name ends, even if it has separators itself.
-/
import AdaGlue.Destination
import Mathlib.Data.List.Infix
import Mathlib.Data.List.Nodup

namespace AdaGlue

/-! ## Names written twice -/

namespace Path

/-- What stands between the two occurrences of a name. -/
def gap (n : List Char) : List Char :=
  if n.getLast? = some '/' then [] else ['/']

theorem count_gap (n : List Char) :
    (gap n).count '/' = 0 ∧ gap n = [] ∨ (gap n).count '/' = 1 ∧ gap n = ['/'] := by
  unfold gap
  split
  · exact .inl ⟨rfl, rfl⟩
  · exact .inr ⟨by simp, rfl⟩

/-- A longer name with as many separators cannot start the same text. -/
theorem eq_nil_of_doubled {m x e r : List Char} (hx : '/' ∉ x) (hgap : gap m = gap (m ++ x))
    (h : m ++ gap m ++ m ++ e = (m ++ x) ++ gap (m ++ x) ++ r) : x = [] := by
  rcases hl : x.getLast? with _ | c
  · exact List.getLast?_eq_none_iff.1 hl
  have hmem : c ∈ x := List.mem_of_getLast? hl
  have hlast : (m ++ x).getLast? = some c := by rw [List.getLast?_append, hl]; rfl
  have hc : c ≠ '/' := fun hc => hx (hc ▸ hmem)
  have hopen : gap (m ++ x) = ['/'] := by simp [gap, hlast, hc]
  -- both names are followed by a separator, so the longer one has it inside
  rw [hgap, hopen] at h
  simp only [List.append_assoc, List.singleton_append] at h
  have hhead := List.append_cancel_left h
  cases x with
  | nil => rfl
  | cons d x =>
    obtain ⟨rfl, -⟩ := List.cons.inj hhead
    exact absurd List.mem_cons_self hx

/-- A name written twice, with an ending that has no separator, can be read off the text. -/
theorem doubled_inj {m n e e' : List Char} (he : '/' ∉ e) (he' : '/' ∉ e')
    (h : m ++ gap m ++ m ++ e = n ++ gap n ++ n ++ e') : m = n ∧ e = e' := by
  have hcount := congrArg (List.count '/') h
  simp only [List.count_append, List.count_eq_zero.2 he, List.count_eq_zero.2 he'] at hcount
  have hboth : m.count '/' = n.count '/' ∧ gap m = gap n := by
    rcases count_gap m with ⟨hm, gm⟩ | ⟨hm, gm⟩ <;> rcases count_gap n with ⟨hn, gn⟩ | ⟨hn, gn⟩
    · exact ⟨by omega, gm.trans gn.symm⟩
    · omega
    · omega
    · exact ⟨by omega, gm.trans gn.symm⟩
  -- both names start the text, so the longer one starts with the shorter
  have hm : m <+: m ++ gap m ++ m ++ e := by
    simp only [List.append_assoc]; exact List.prefix_append _ _
  have hn : n <+: m ++ gap m ++ m ++ e := by
    rw [h]; simp only [List.append_assoc]; exact List.prefix_append _ _
  have heq : m = n := by
    rcases List.prefix_or_prefix_of_prefix hm hn with ⟨x, rfl⟩ | ⟨x, rfl⟩
    · have hx : '/' ∉ x := List.count_eq_zero.1 (by have := hboth.1; simp at this; omega)
      have hnil := eq_nil_of_doubled (r := m ++ x ++ e') hx hboth.2 (by simpa using h)
      rw [hnil, List.append_nil]
    · have hx : '/' ∉ x := List.count_eq_zero.1 (by have := hboth.1; simp at this; omega)
      have hnil := eq_nil_of_doubled (r := n ++ x ++ e) hx hboth.2.symm (by simpa using h.symm)
      rw [hnil, List.append_nil]
  subst heq
  exact ⟨rfl, List.append_cancel_left h⟩

/-! ## Joining -/

theorem isAbsolute_append {n : String} (hn : n ≠ "") (e : String) :
    isAbsolute (n ++ e) = isAbsolute n := by
  unfold isAbsolute
  rw [String.toList_append]
  cases hl : n.toList with
  | nil => exact absurd (String.toList_inj.1 (by simpa using hl)) hn
  | cons c r => simp

/-- Below one base, different parts are different paths. -/
theorem join_inj {base p q : String} (hp : isAbsolute p = false) (hq : isAbsolute q = false)
    (h : join base p = join base q) : p = q := by
  unfold join at h
  rw [hp, hq] at h
  simp only [Bool.false_eq_true, if_false] at h
  split at h
  · exact (String.append_right_inj _).1 h
  · exact (String.append_right_inj _).1 h

theorem getLast?_join {base p : String} {c : Char} (h : p.toList.getLast? = some c) :
    (join base p).toList.getLast? = some c := by
  unfold join
  split
  · exact h
  · split <;> simp [List.getLast?_append, List.getLast?_cons, h]

end Path

/-! ## Paths of files -/

namespace Destination

theorem separator_not_mem_ending (k : Destination) : '/' ∉ k.ending.toList := by
  cases k <;> decide

theorem ending_inj {k l : Destination} (h : k.ending = l.ending) : k = l := by
  cases k <;> cases l <;> first | rfl | exact absurd h (by decide)

/-- Every ending ends in a letter of its own, so that no path ends like a temporary one. -/
theorem getLast?_ending (k : Destination) :
    k.ending.toList.getLast? = some 's' ∨ k.ending.toList.getLast? = some 'b' := by
  cases k <;> decide

section

variable {n : String} (hn : n ≠ "") (hrel : Path.isAbsolute n = false)

include hn hrel

theorem toList_path (k : Destination) :
    (k.path n).toList =
      n.toList ++ Path.gap n.toList ++ n.toList ++ k.ending.toList := by
  unfold path Path.join fileName Path.gap
  rw [Path.isAbsolute_append hn, hrel]
  have hne : n.isEmpty = false := by simpa using hn
  by_cases hend : n.toList.getLast? = some '/'
  · simp [hend]
  · simp [hne, hend]

theorem isAbsolute_path (k : Destination) : Path.isAbsolute (k.path n) = false := by
  unfold Path.isAbsolute at hrel ⊢
  rw [toList_path hn hrel k]
  cases hl : n.toList with
  | nil => exact absurd (String.toList_inj.1 (by simpa using hl)) hn
  | cons c r => simpa [hl] using hrel

theorem getLast?_path (k : Destination) :
    (k.path n).toList.getLast? = some 's' ∨ (k.path n).toList.getLast? = some 'b' := by
  rw [toList_path hn hrel k, List.getLast?_append]
  rcases getLast?_ending k with h | h
  · exact .inl (by rw [h]; rfl)
  · exact .inr (by rw [h]; rfl)

/-- A path belongs to one kind of file of one function. -/
theorem path_inj {m : String} (hm : m ≠ "") (hrel' : Path.isAbsolute m = false)
    {k l : Destination} (h : k.path n = l.path m) : n = m ∧ k = l := by
  have hlist := congrArg String.toList h
  rw [toList_path hn hrel, toList_path hm hrel'] at hlist
  obtain ⟨hname, hending⟩ :=
    Path.doubled_inj k.separator_not_mem_ending l.separator_not_mem_ending hlist
  exact ⟨String.toList_inj.1 hname, ending_inj (String.toList_inj.1 hending)⟩

end

end Destination

end AdaGlue
