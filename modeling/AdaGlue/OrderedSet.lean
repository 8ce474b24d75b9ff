/-
Sets that remember the order in which their members were first offered. The members are kept twice:
in a set where they are looked up, and in a list that holds their order. The two grow together, and
inserting a member that is already there changes neither.
-/

namespace AdaGlue

/-- A finite set of values, which is asked for nothing but its members. -/
structure Lookup (α : Type) where
  entries : List α := []
  deriving DecidableEq, Repr

namespace Lookup

variable {α : Type} [DecidableEq α]

def contains (l : Lookup α) (a : α) : Bool :=
  decide (a ∈ l.entries)

def insert (l : Lookup α) (a : α) : Lookup α :=
  if l.contains a then l else ⟨a :: l.entries⟩

@[simp] theorem contains_iff {l : Lookup α} {a : α} : l.contains a = true ↔ a ∈ l.entries := by
  simp [contains]

theorem entries_insert_of_new {l : Lookup α} {a : α} (h : ¬ l.contains a = true) :
    (l.insert a).entries = a :: l.entries := by
  rw [insert, if_neg h]

end Lookup

/-- A set whose members are listed in the order of their first insertion. -/
structure OrderedSet (α : Type) where
  seen : Lookup α := {}
  toList : List α := []
  /-- What is looked up is what is listed, the latest member in front. -/
  inStep : seen.entries = toList.reverse := by rfl
  deriving Repr

namespace OrderedSet

variable {α : Type} [DecidableEq α]

def empty : OrderedSet α := {}

def contains (s : OrderedSet α) (a : α) : Bool :=
  s.seen.contains a

/-- Adds `a` behind the other members unless it has been seen, and says whether it was new. -/
def insertNew (s : OrderedSet α) (a : α) : Bool × OrderedSet α :=
  if h : s.seen.contains a then (false, s)
  else
    (true,
     { seen := s.seen.insert a
       toList := s.toList ++ [a]
       inStep := by rw [Lookup.entries_insert_of_new h, s.inStep, List.reverse_concat] })

def insert (s : OrderedSet α) (a : α) : OrderedSet α :=
  (s.insertNew a).2

/-- Inserts the values one after the other. -/
def insertMany (s : OrderedSet α) (values : List α) : OrderedSet α :=
  values.foldl insert s

def ofList (values : List α) : OrderedSet α :=
  empty.insertMany values

def size (s : OrderedSet α) : Nat :=
  s.toList.length

def isEmpty (s : OrderedSet α) : Bool :=
  s.toList.isEmpty

def first? (s : OrderedSet α) : Option α :=
  s.toList.head?

/-- Sets are compared by their lists. -/
instance : BEq (OrderedSet α) where
  beq s t := s.toList == t.toList

@[simp] theorem contains_iff {s : OrderedSet α} {a : α} : s.contains a = true ↔ a ∈ s.toList := by
  rw [contains, Lookup.contains_iff, s.inStep, List.mem_reverse]

theorem toList_insert (s : OrderedSet α) (a : α) :
    (s.insert a).toList = if a ∈ s.toList then s.toList else s.toList ++ [a] := by
  simp only [← contains_iff (s := s), insert, insertNew, contains]
  split <;> rfl

@[simp] theorem mem_insert {s : OrderedSet α} {a b : α} :
    b ∈ (s.insert a).toList ↔ b ∈ s.toList ∨ b = a := by
  rw [toList_insert]
  split <;> grind

@[simp] theorem mem_insertMany {s : OrderedSet α} {values : List α} {b : α} :
    b ∈ (s.insertMany values).toList ↔ b ∈ s.toList ∨ b ∈ values := by
  induction values generalizing s with
  | nil => simp [insertMany]
  | cons a r ih =>
    have h : s.insertMany (a :: r) = (s.insert a).insertMany r := rfl
    rw [h, ih, mem_insert]
    simp [or_assoc]

@[simp] theorem mem_ofList {values : List α} {b : α} :
    b ∈ (ofList values).toList ↔ b ∈ values := by
  simp [ofList, empty]

end OrderedSet

end AdaGlue
