/-
A commit that checks tells beforehand what one that writes would do, also where several files of the
list stand at one path and the later ones are compared with what the earlier ones have left. Up to
the first file that differs both see the disk as it was: there the check stops, while the write
replaces the file and goes on.
-/
import AdaGlue.Proofs.Commit.Files

namespace AdaGlue.Commit

/-! ## Up to the first difference -/

/-- All files stand there as they were generated, or there is a first one that does not. -/
theorem all_current_or_first (root : String) (fs : Files) (l : List GeneratedFile) :
    (∀ f ∈ l, Current root fs f) ∨
      ∃ front f back, l = front ++ f :: back ∧ (∀ g ∈ front, Current root fs g) ∧
        ¬ Current root fs f := by
  induction l with
  | nil => left; simp
  | cons g l ih =>
    by_cases hg : Current root fs g
    · rcases ih with hall | ⟨front, f, back, rfl, hfront, hf⟩
      · exact .inl (List.forall_mem_cons.2 ⟨hg, hall⟩)
      · exact .inr ⟨g :: front, f, back, rfl, List.forall_mem_cons.2 ⟨hg, hfront⟩, hf⟩
    · exact .inr ⟨[], g, l, rfl, by simp, hg⟩

theorem file_run_check {root : String} {fs : Files} {f : GeneratedFile} (h : ¬ Current root fs f) :
    (file root .check f : ExceptT CommitError (StateM Files) _).run fs =
      (.error (.differs (Path.join root f.path)), fs) := by
  unfold file
  rw [run_bind_ok (lift_isCurrent_run root fs f)]
  simp only [h, decide_false, Bool.false_eq_true, if_false]
  rfl

theorem length_reportOf (root : String) (fs : Files) (l : List GeneratedFile) :
    (reportOf root fs l).length = l.length := by
  induction l generalizing fs with
  | nil => rfl
  | cons f l ih => rw [reportOf, List.length_cons, List.length_cons, ih]

section Front

variable {root : String} {fs : Files} {front : List GeneratedFile}
  (hfront : ∀ g ∈ front, Current root fs g)

include hfront

/-- A write reports files that stand there already as unchanged, and comes to the others with the
disk as it was. -/
theorem reportOf_append_of_current (l : List GeneratedFile) :
    reportOf root fs (front ++ l) = front.map (committed · .unchanged) ++ reportOf root fs l := by
  induction front with
  | nil => rfl
  | cons g front ih =>
    obtain ⟨hg, hrest⟩ := List.forall_mem_cons.1 hfront
    rw [List.cons_append, reportOf, statusOf, settle, if_pos hg, if_pos hg, ih hrest]
    rfl

/-- A check passes over them and fails at a file behind them that differs. -/
theorem commit_run_check_of_first {f : GeneratedFile} (hf : ¬ Current root fs f)
    (back : List GeneratedFile) :
    (commit root .check (front ++ f :: back) : ExceptT CommitError (StateM Files) _).run fs =
      (.error (.differs (Path.join root f.path)), fs) := by
  have hpassed := commit_run_of_current .check hfront
  unfold commit at hpassed ⊢
  rw [List.mapM_append, run_bind_ok hpassed, List.mapM_cons]
  exact run_bind_error (run_bind_error (file_run_check hf))

end Front

/-! ## Checking before writing -/

/-- A commit that checks never changes a file. It succeeds exactly if one that writes reports every
file as unchanged, which is so exactly if all of them stand there already; then the one that writes
changes nothing either, and both report the same. Otherwise the check names the first file that the
other reports as written. -/
theorem check_predicts_write (root : String) (files : List GeneratedFile) (fs : Files) :
    ∃ outcome report fs',
      (commit root .check files : ExceptT CommitError (StateM Files) _).run fs = (outcome, fs) ∧
      (commit root .write files : ExceptT CommitError (StateM Files) _).run fs =
        (.ok report, fs') ∧
      ((∃ checked, outcome = .ok checked) ↔ ∀ r ∈ report, r.status = .unchanged) ∧
      ((∃ checked, outcome = .ok checked) ↔ ∀ f ∈ files,
        fs.contents? (Path.join root f.path) = some (Text.bytes f.contents)) ∧
      (∀ checked, outcome = .ok checked → fs' = fs ∧ checked = report ∧
        report = files.map (committed · .unchanged)) ∧
      ∀ e, outcome = .error e → ∃ front f back later,
        files = front ++ f :: back ∧ later.length = back.length ∧
        report = front.map (committed · .unchanged) ++ committed f .written :: later ∧
        e = .differs (Path.join root f.path) := by
  rcases all_current_or_first root fs files with hall | ⟨front, f, back, rfl, hfront, hf⟩
  · refine ⟨_, _, fs, commit_run_of_current .check hall, commit_run_of_current .write hall, ?_, ?_,
      ?_, ?_⟩
    · simp [committed]
    · exact ⟨fun _ => hall, fun _ => ⟨_, rfl⟩⟩
    · rintro _ ⟨⟩
      exact ⟨rfl, rfl, rfl⟩
    · intro e he
      cases he
  · have hwrite := commit_run_settle root (front ++ f :: back) fs
    rw [reportOf_append_of_current hfront, reportOf, statusOf, if_neg hf] at hwrite
    refine ⟨_, _, _, commit_run_check_of_first hfront hf back, hwrite, ?_, ?_, ?_, ?_⟩
    · simp only [reduceCtorEq, exists_false, false_iff]
      intro hall
      cases hall (committed f .written) (by simp)
    · simp only [reduceCtorEq, exists_false, false_iff]
      exact fun hall => hf (hall f (by simp))
    · intro checked hchecked
      cases hchecked
    · rintro _ ⟨⟩
      exact ⟨front, f, back, _, rfl, length_reportOf .., rfl, rfl⟩

end AdaGlue.Commit
