/-
Looking at a disk. What each of several steps does to a state at most, all of them do one after the
other. A step that only looks leaves the disk as it is; loading a document, asking for the bodies of
the user and a commit that checks do nothing else, whatever the disk answers.
-/
import AdaGlue.Proofs.Commit.Files
import AdaGlue.Run
import Mathlib.Order.Defs.Unbundled

namespace AdaGlue

/-! ## Steps one after the other -/

/-- A step from which each state leads to one that stands in this relation to it. -/
def Moves {σ α : Type} (R : σ → σ → Prop) (x : StateM σ α) : Prop :=
  ∀ s, R s (x s).2

namespace Moves

variable {σ ε α β : Type} {R : σ → σ → Prop} [IsPreorder σ R]

theorem pure (a : α) : Moves R (Pure.pure a : StateM σ α) :=
  fun s => refl_of R s

theorem bind {x : StateM σ α} {f : α → StateM σ β} (h : Moves R x) (hf : ∀ a, Moves R (f a)) :
    Moves R (x >>= f) :=
  fun s => trans_of R (h s) (hf (x s).1 (x s).2)

theorem mapM {f : α → StateM σ β} (hf : ∀ a, Moves R (f a)) (l : List α) :
    Moves R (l.mapM f) := by
  induction l with
  | nil => exact Moves.pure []
  | cons a l ih =>
    rw [List.mapM_cons]
    exact (hf a).bind fun b => ih.bind fun r => Moves.pure (b :: r)

/-- Steps that may fail move, too, up to the first failure. -/
theorem bindExcept {x : ExceptT ε (StateM σ) α} {f : α → ExceptT ε (StateM σ) β}
    (h : Moves R x.run) (hf : ∀ a, Moves R (f a).run) : Moves R (x >>= f).run := by
  rw [ExceptT.run_bind]
  refine h.bind fun r => ?_
  cases r with
  | error e => exact Moves.pure (Except.error e)
  | ok a => exact hf a

theorem mapMExcept {f : α → ExceptT ε (StateM σ) β} {l : List α}
    (hf : ∀ a ∈ l, Moves R (f a).run) : Moves R (l.mapM f).run := by
  induction l with
  | nil => exact Moves.pure (Except.ok [])
  | cons a l ih =>
    rw [List.mapM_cons]
    refine (hf a List.mem_cons_self).bindExcept fun b => ?_
    refine (ih fun c hc => hf c (List.mem_cons_of_mem _ hc)).bindExcept fun r => ?_
    exact Moves.pure (Except.ok (b :: r))

end Moves

/-- A step that leaves the state as it is. -/
def Looks {σ α : Type} (x : StateM σ α) : Prop :=
  ∀ s, (x s).2 = s

/-- A disk that a reader leaves as it is. -/
class Disk.Steady (σ : Type) [Disk (StateM σ)] : Prop where
  read : ∀ path, Looks (Disk.read path : StateM σ _)
  isFile : ∀ path, Looks (Disk.isFile path : StateM σ _)

instance : Disk.Steady Disk.Tree where
  read _ _ := rfl
  isFile _ _ := rfl

instance : Disk.Steady Files where
  read path fs := by
    simp only [Disk.read]
    cases fs.contents? path <;> rfl
  isFile _ _ := rfl

namespace Looks

variable {σ ε α β : Type}

theorem run_eq {x : StateM σ α} (h : Looks x) (s : σ) : x s = ((x s).1, s) :=
  Prod.ext rfl (h s)

/-- What only looks moves in any way that allows standing still. -/
theorem moves {R : σ → σ → Prop} [IsPreorder σ R] {x : StateM σ α} (h : Looks x) : Moves R x := by
  intro s
  rw [h s]
  exact refl_of R s

theorem iff_moves {x : StateM σ α} : Looks x ↔ Moves Eq x :=
  forall_congr' fun _ => eq_comm

theorem pure (a : α) : Looks (Pure.pure a : StateM σ α) :=
  fun _ => rfl

theorem bind {x : StateM σ α} {f : α → StateM σ β} (h : Looks x) (hf : ∀ a, Looks (f a)) :
    Looks (x >>= f) :=
  iff_moves.2 (h.moves.bind fun a => (hf a).moves)

theorem mapM {f : α → StateM σ β} (hf : ∀ a, Looks (f a)) (l : List α) : Looks (l.mapM f) :=
  iff_moves.2 (Moves.mapM (fun a => (hf a).moves) l)

/-- Steps that may fail look, too, up to the first failure. -/
theorem bindExcept {x : ExceptT ε (StateM σ) α} {f : α → ExceptT ε (StateM σ) β} (h : Looks x.run)
    (hf : ∀ a, Looks (f a).run) : Looks (x >>= f).run :=
  iff_moves.2 (h.moves.bindExcept fun a => (hf a).moves)

theorem mapMExcept {f : α → ExceptT ε (StateM σ) β} (hf : ∀ a, Looks (f a).run) (l : List α) :
    Looks (l.mapM f).run :=
  iff_moves.2 (Moves.mapMExcept fun a _ => (hf a).moves)

end Looks

section

variable {σ : Type} [Disk (StateM σ)]

/-! ## Loading -/

/-- What stands at a path of the disk. -/
def Disk.contentsAt (s : σ) (path : String) : Except String (List UInt8) :=
  ((Disk.read path : StateM σ _) s).1

/-- The file at the path holds the value, written in the way that `parse` reads. -/
def Disk.Holds {ε α : Type} (parse : List UInt8 → Except ε α) (s : σ) (path : String) (a : α) :
    Prop :=
  ∃ bytes, Disk.contentsAt s path = .ok bytes ∧ parse bytes = .ok a

theorem Disk.Holds.unique {ε α : Type} {parse : List UInt8 → Except ε α} {s : σ} {path : String}
    {a b : α} (ha : Disk.Holds parse s path a) (hb : Disk.Holds parse s path b) : a = b := by
  obtain ⟨bytes, hbytes, ha⟩ := ha
  obtain ⟨bytes', hbytes', hb⟩ := hb
  rw [hbytes, Except.ok.injEq] at hbytes'
  rw [← hbytes', ha, Except.ok.injEq] at hb
  exact hb

variable [Disk.Steady σ]

/-- Loading looks, and gives what the file holds. -/
theorem load_run {ε α : Type} (parse : List UInt8 → Except ε α) (path : String) (s : σ) :
    ∃ r, (Disk.load parse path : StateM σ _) s = (r, s) ∧
      ∀ a, r = .ok a ↔ Disk.Holds parse s path a := by
  have hread : (Disk.read path : StateM σ _) s = (Disk.contentsAt s path, s) :=
    (Disk.Steady.read path).run_eq s
  unfold Disk.load Disk.Holds
  simp only [Bind.bind, StateT.bind, hread]
  rcases Disk.contentsAt s path with reason | bytes
  · exact ⟨_, rfl, by simp⟩
  · rcases hparse : parse bytes with e | b
    · refine ⟨.error (.unfit e), ?_, by simp [hparse]⟩
      dsimp only
      rw [hparse]
      rfl
    · refine ⟨.ok b, ?_, by simp [hparse]⟩
      dsimp only
      rw [hparse]
      rfl

/-! ## The setting of a run -/

/-- The setting of a run against the root on this disk. -/
def Setting.on (s : σ) (root : String) (v : View) (o : Options) : Setting :=
  ((Setting.below root v o : StateM σ Setting) s).1

theorem below_run_eq (root : String) (v : View) (o : Options) (s : σ) :
    (Setting.below root v o : StateM σ Setting) s = (Setting.on s root v o, s) := by
  have hask : ∀ path : String, Looks (do
      return (path, ← Disk.isFile (Path.join root path)) : StateM σ (String × Bool)) :=
    fun path => (Disk.Steady.isFile _).bind fun _ => Looks.pure _
  have hbodies : Looks (Setting.bodiesBelow root v : StateM σ (List String)) :=
    (Looks.mapM hask _).bind fun _ => Looks.pure _
  exact (hbodies.bind fun _ => Looks.pure _ : Looks (Setting.below root v o)).run_eq s

/-! ## Checking -/

theorem looks_isCurrent (path : String) (contents : List UInt8) :
    Looks (Commit.isCurrent path contents : StateM σ Bool) := by
  refine (Disk.Steady.read path).bind fun r => ?_
  cases r <;> exact Looks.pure _

theorem looks_file_check (root : String) (f : GeneratedFile) :
    Looks (Commit.file root .check f : ExceptT CommitError (StateM σ) _).run := by
  have hcurrent : Looks (liftM (Commit.isCurrent (Path.join root f.path) (Text.bytes f.contents) :
      StateM σ Bool) : ExceptT CommitError (StateM σ) Bool).run :=
    (looks_isCurrent _ _).bind fun _ => Looks.pure _
  refine hcurrent.bindExcept fun b => ?_
  cases b <;> exact Looks.pure _

/-- A commit that checks leaves the disk as it is, whether it ends well or not. -/
theorem looks_commit_check (root : String) (files : List GeneratedFile) :
    Looks (commit root .check files : ExceptT CommitError (StateM σ) _).run :=
  Looks.mapMExcept (looks_file_check root) files

end

end AdaGlue
