/-
Members in the order of their first offer. What has been inserted into a set is the list of all
offers with every later repetition left out, however the offers were made: one by one, many at a
time, or all at the beginning. The set in which members are looked up never falls behind.
-/
import AdaGlue.OrderedSet

namespace AdaGlue.OrderedSet

variable {α : Type} [DecidableEq α]

/-- Offers behind the members that are there already: those that are new, each once. -/
theorem toList_insertMany (s : OrderedSet α) (values : List α) :
    (s.insertMany values).toList = s.toList ++ (values.filter (· ∉ s.toList)).eraseDups := by
  induction values generalizing s with
  | nil => simp [insertMany]
  | cons a values ih =>
    have hstep : s.insertMany (a :: values) = (s.insert a).insertMany values := rfl
    rw [hstep, ih, toList_insert]
    by_cases ha : a ∈ s.toList
    · rw [if_pos ha, List.filter_cons_of_neg (by simpa using ha)]
    · rw [if_neg ha, List.filter_cons_of_pos (by simpa using ha), List.eraseDups_cons,
        List.filter_filter, List.append_assoc, List.singleton_append]
      -- an offer is new to the longer list if it is new to the shorter one and is not `a`
      have hnew : ∀ b, decide (b ∉ s.toList ++ [a]) = (!b == a && decide (b ∉ s.toList)) := by
        intro b
        rw [Bool.eq_iff_iff]
        simp [and_comm]
      simp only [hnew]

theorem toList_ofList (values : List α) : (ofList values).toList = values.eraseDups := by
  have hall : values.filter (· ∉ (empty : OrderedSet α).toList) = values :=
    List.filter_eq_self.2 (by simp [empty])
  rw [ofList, toList_insertMany, hall]
  rfl

example : (ofList [3, 1, 3, 2, 1]).toList = [3, 1, 2] := by decide

theorem nodup_insert {s : OrderedSet α} (h : s.toList.Nodup) (a : α) :
    (s.insert a).toList.Nodup := by
  rw [toList_insert]
  split
  · exact h
  · next hnew =>
    refine List.nodup_append.2 ⟨h, by simp, fun b hb c hc => ?_⟩
    obtain rfl := List.mem_singleton.1 hc
    exact fun heq => hnew (heq ▸ hb)

theorem nodup_insertMany {s : OrderedSet α} (h : s.toList.Nodup) (values : List α) :
    (s.insertMany values).toList.Nodup := by
  induction values generalizing s with
  | nil => exact h
  | cons a values ih => exact ih (nodup_insert h a)

theorem nodup_ofList (values : List α) : (ofList values).toList.Nodup :=
  nodup_insertMany List.nodup_nil values

/-! ## Sets and their lists -/

/-- Sets that list the same members in the same order are the same: they find the same, too. -/
theorem eq_iff_toList_eq {β : Type} {s t : OrderedSet β} : s = t ↔ s.toList = t.toList := by
  constructor
  · exact congrArg toList
  · obtain ⟨⟨found⟩, listed, hs⟩ := s
    obtain ⟨⟨found'⟩, listed', ht⟩ := t
    rintro rfl
    obtain rfl : found = listed.reverse := hs
    obtain rfl : found' = listed.reverse := ht
    rfl

theorem beq_iff_toList_eq {s t : OrderedSet α} : (s == t) = true ↔ s.toList = t.toList := by
  show (s.toList == t.toList) = true ↔ _
  exact beq_iff_eq

/-- An insertion says whether its value was not listed before. -/
theorem insertNew_eq (s : OrderedSet α) (a : α) :
    s.insertNew a = (decide (a ∉ s.toList), s.insert a) := by
  refine Prod.ext ?_ rfl
  rw [Bool.eq_iff_iff, decide_eq_true_iff, ← contains_iff (s := s), insertNew, contains]
  split
  · next hseen => simp [hseen]
  · next hnew => simp [hnew]

/-! ## Any sequence of offers -/

/-- A way in which values are offered to a set. -/
inductive Offer (α : Type) where
  | insert (a : α)
  | insertMany (values : List α)
  deriving DecidableEq, Repr

/-- The values on offer, in their order. -/
def Offer.values : Offer α → List α
  | .insert a => [a]
  | .insertMany values => values

/-- The set after an offer. -/
def take (s : OrderedSet α) : Offer α → OrderedSet α
  | .insert a => s.insert a
  | .insertMany values => s.insertMany values

/-- The set of the first values after these offers. -/
def after (first : List α) (offers : List (Offer α)) : OrderedSet α :=
  offers.foldl take (ofList first)

/-- All values ever offered to it, in their order. -/
def offered (first : List α) (offers : List (Offer α)) : List α :=
  first ++ offers.flatMap Offer.values

theorem take_eq_insertMany (s : OrderedSet α) (o : Offer α) : s.take o = s.insertMany o.values := by
  cases o <;> rfl

theorem foldl_take (s : OrderedSet α) (offers : List (Offer α)) :
    offers.foldl take s = s.insertMany (offers.flatMap Offer.values) := by
  induction offers generalizing s with
  | nil => rfl
  | cons o offers ih =>
    rw [List.foldl_cons, ih, take_eq_insertMany, List.flatMap_cons]
    exact List.foldl_append.symm

/-- How the values were offered makes no difference. -/
theorem after_eq_ofList (first : List α) (offers : List (Offer α)) :
    after first offers = ofList (offered first offers) := by
  rw [after, foldl_take]
  exact List.foldl_append.symm

theorem after_concat (first : List α) (offers : List (Offer α)) (o : Offer α) :
    after first (offers ++ [o]) = (after first offers).take o := by
  simp [after]

/-- After any offers, what is looked up in the set is what it lists, and it lists each value once
that was ever offered, in the order of the first offers. It contains exactly these values; a further
insertion says that its value is new exactly if it was never offered. Two such sets compare equal,
and are the same, exactly if new values were offered to them in the same order. -/
theorem first_occurrences_after_offers (first : List α) (offers : List (Offer α)) :
    (∀ a, (after first offers).seen.contains a = true ↔ a ∈ (after first offers).toList) ∧
      (after first offers).toList.Nodup ∧
      (after first offers).toList = (offered first offers).eraseDups ∧
      (∀ a, (after first offers).contains a = true ↔ a ∈ offered first offers) ∧
      (∀ a, (after first offers).insertNew a =
        (decide (a ∉ offered first offers), after first (offers ++ [.insert a]))) ∧
      ∀ first' offers',
        ((after first offers == after first' offers') = true ↔
          (offered first offers).eraseDups = (offered first' offers').eraseDups) ∧
        (after first offers = after first' offers' ↔
          (offered first offers).eraseDups = (offered first' offers').eraseDups) := by
  have hmem : ∀ a, a ∈ (after first offers).toList ↔ a ∈ offered first offers := by
    intro a
    rw [after_eq_ofList, mem_ofList]
  refine ⟨fun a => contains_iff, ?_, ?_, fun a => ?_, fun a => ?_, fun first' offers' => ?_⟩
  · rw [after_eq_ofList]
    exact nodup_ofList _
  · rw [after_eq_ofList, toList_ofList]
  · rw [contains_iff, hmem]
  · rw [insertNew_eq, after_concat]
    simp only [hmem, take]
  · rw [beq_iff_toList_eq, eq_iff_toList_eq, after_eq_ofList, after_eq_ofList, toList_ofList,
      toList_ofList]
    exact ⟨Iff.rfl, Iff.rfl⟩

end AdaGlue.OrderedSet
