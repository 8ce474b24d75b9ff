/-
What a run of `generate` does to the disk and says at its end. The configuration and the model are
loaded and all text is generated by looking only; what comes of that decides whether anything is
committed. So a run that fails before it commits leaves the disk as it is, the status is zero
exactly when the commit has ended well, and asking for a report changes what is printed and nothing
else.
-/
import AdaGlue.CommandLine.Outcome
import AdaGlue.Proofs.Commit.Convergence
import AdaGlue.Proofs.Disk.Looking
import AdaGlue.Proofs.Json.Reading
import AdaGlue.Proofs.View.RoundTrip
import AdaGlue.Proofs.Wrappers.Linking

namespace AdaGlue.CommandLine

/-! ## What a run finds on the disk -/

variable {σ : Type} [Disk (StateM σ)]

/-- The configuration of a run gives these options and names this directory. -/
inductive Configured (s : σ) : Option String → Options → Option String → Prop where
  | absent : Configured s none {} none
  | loaded {path : String} {c : Config} {o : Options} (holds : Disk.Holds Config.ofText s path c)
    (converts : c.toOptions = .ok o) : Configured s (some path) o (c.outputDir path)

/-- The configuration gives options, the model is a view, and the text that is generated from it
below `root` is `out`. -/
def Generates (a : GenerateArguments) (s : σ) (root : String) (out : Output) : Prop :=
  ∃ o dir v, Configured s a.config o dir ∧ root = (a.out.or dir).getD "." ∧
    Disk.Holds View.ofText s a.model v ∧ (Setting.on s root v (a.amend o)).generate = .ok out

/-! ## Loading -/

variable [Disk.Steady σ]

theorem loadConfig_run (path : String) (s : σ) :
    ∃ r, (loadConfig path : ExceptT Failure (StateM σ) Config).run s = (r, s) ∧
      ∀ c, r = .ok c ↔ Disk.Holds Config.ofText s path c := by
  obtain ⟨r, hload, hr⟩ := load_run Config.ofText path s
  unfold loadConfig
  simp only [ExceptT.run_mk, bind, StateT.bind, hload, ← hr]
  rcases r with (reason | e) | c
  · exact ⟨_, rfl, by simp⟩
  · exact ⟨_, rfl, by simp⟩
  · exact ⟨_, rfl, by simp⟩

theorem configured_run (config : Option String) (s : σ) :
    ∃ r, (configured config : ExceptT Failure (StateM σ) _).run s = (r, s) ∧
      ∀ o dir, r = .ok (o, dir) ↔ Configured s config o dir := by
  cases config with
  | none =>
    refine ⟨.ok ({}, none), rfl, fun o dir => ⟨?_, ?_⟩⟩
    · rintro ⟨⟩; exact .absent
    · rintro ⟨⟩; rfl
  | some path =>
    obtain ⟨r, hload, hr⟩ := loadConfig_run path s
    rcases r with e | c
    · refine ⟨.error e, run_bind_error hload, fun o dir => ⟨nofun, ?_⟩⟩
      rintro ⟨⟩
      next hholds _ => cases (hr _).2 hholds
    · have hc := (hr c).1 rfl
      have hrun : (configured (some path) : ExceptT Failure (StateM σ) _).run s = _ :=
        run_bind_ok hload
      rcases ho : c.toOptions with u | o
      · simp only [ho] at hrun
        refine ⟨_, hrun, fun o dir => ⟨nofun, ?_⟩⟩
        rintro ⟨⟩
        next hholds hconverts =>
          rw [hholds.unique hc, ho] at hconverts
          cases hconverts
      · simp only [ho] at hrun
        refine ⟨_, hrun, fun o' dir => ⟨?_, ?_⟩⟩
        · rintro ⟨⟩; exact .loaded hc ho
        · rintro ⟨⟩
          next hholds hconverts =>
            obtain rfl := hholds.unique hc
            rw [ho] at hconverts
            cases hconverts
            rfl

theorem plan_run (a : GenerateArguments) (s : σ) :
    ∃ r, (plan a : ExceptT Failure (StateM σ) _).run s = (r, s) ∧
      ∀ o root, r = .ok (o, root) ↔ ∃ o' dir, Configured s a.config o' dir ∧ o = a.amend o' ∧
        root = (a.out.or dir).getD "." := by
  obtain ⟨r, hrun, hr⟩ := configured_run a.config s
  rcases r with e | ⟨o, dir⟩
  · refine ⟨.error e, run_bind_error hrun, fun o root => ⟨nofun, ?_⟩⟩
    rintro ⟨o', dir, hconf, -⟩
    cases (hr o' dir).2 hconf
  · refine ⟨.ok (a.amend o, (a.out.or dir).getD "."), run_bind_ok hrun, fun o' root => ⟨?_, ?_⟩⟩
    · rintro ⟨⟩; exact ⟨o, dir, (hr o dir).1 rfl, rfl, rfl⟩
    · rintro ⟨o₁, dir₁, hconf, rfl, rfl⟩
      cases (hr o₁ dir₁).2 hconf
      rfl

theorem loadView_run (path : String) (s : σ) :
    ∃ r, (loadView path : ExceptT Failure (StateM σ) _).run s = (r, s) ∧
      ∀ v, r = .ok (.ok v) ↔ Disk.Holds View.ofText s path v := by
  obtain ⟨r, hload, hr⟩ := load_run View.ofText path s
  unfold loadView
  simp only [ExceptT.run_mk, bind, StateT.bind, hload, ← hr]
  rcases r with (reason | e) | v
  · exact ⟨_, rfl, by simp⟩
  · cases e <;> exact ⟨_, rfl, by simp⟩
  · exact ⟨_, rfl, by simp⟩

/-! ## Generating -/

/-- How a commit ends on a disk, and the disk it leaves. -/
def commitOn (root : String) (mode : CommitMode) (files : List GeneratedFile) (s : σ) :
    Except CommitError (List CommittedFile) × σ :=
  (commit root mode files : ExceptT CommitError (StateM σ) _).run s

/-- What is seen of a run of `generate` on a disk, and the disk it leaves. -/
def generateOn (a : GenerateArguments) (s : σ) : Outcome × σ :=
  (Command.run (.generate a) : StateM σ Outcome) s

/-- The report of a run that has committed these files. -/
def Report.succeeded (mode : CommitMode) (out : Output) (files : List CommittedFile) : Report :=
  { ok := true, mode, files, diagnostics := out.diagnostics }

section Below

variable (root : String) (mode : CommitMode) (o : Options) (v : View) (s : σ)

theorem lift_below_run :
    (liftM (Setting.below root v o : StateM σ Setting) : ExceptT Failure (StateM σ) Setting).run s =
      (.ok (Setting.on s root v o), s) := by
  have hrun := below_run_eq root v o s
  simp only [liftM, monadLift, MonadLift.monadLift, ExceptT.lift, ExceptT.run_mk, Functor.map,
    StateT.map, hrun]
  rfl

variable {root mode o v s}

/-- A dead call ends the run in a report that refuses. -/
theorem generateBelow_run_of_dead {x : DeadCode}
    (h : (Setting.on s root v o).generate = .error x) :
    (generateBelow root mode o v : ExceptT Failure (StateM σ) Report).run s =
      (.ok (.refused mode x.diagnostic), s) := by
  refine (run_bind_ok (lift_below_run root o v s)).trans ?_
  simp only [h]
  rfl

/-- Without one the text is committed, and how that ends is how the run ends. -/
theorem generateBelow_run_of_output {out : Output}
    (h : (Setting.on s root v o).generate = .ok out) {c : Except CommitError (List CommittedFile)}
    {s' : σ} (hcommit : commitOn root mode out.files s = (c, s')) :
    (generateBelow root mode o v : ExceptT Failure (StateM σ) Report).run s =
      ((c.mapError Failure.commit).map (Report.succeeded mode out), s') := by
  refine (run_bind_ok (lift_below_run root o v s)).trans ?_
  simp only [h]
  have hadapt : ((commit root mode out.files : ExceptT CommitError (StateM σ) _).adapt
      Failure.commit).run s = (c.mapError Failure.commit, s') :=
    congrArg (fun r : Except CommitError (List CommittedFile) × σ =>
      (r.1.mapError Failure.commit, r.2)) hcommit
  cases c with
  | error e => exact run_bind_error hadapt
  | ok files => exact run_bind_ok hadapt

end Below

section Generate

variable {a : GenerateArguments} {s : σ}

/-- Once the text is there, how its commit ends is how the run ends. -/
theorem generate_run_of_generates {root : String} {out : Output} (h : Generates a s root out)
    {c : Except CommitError (List CommittedFile)} {s' : σ}
    (hcommit : commitOn root a.mode out.files s = (c, s')) :
    (generate a : ExceptT Failure (StateM σ) Report).run s =
      ((c.mapError Failure.commit).map (Report.succeeded a.mode out), s') := by
  obtain ⟨o, dir, v, hconf, rfl, hview, hout⟩ := h
  obtain ⟨r, hplan, hr⟩ := plan_run a s
  obtain ⟨r', hload, hr'⟩ := loadView_run a.model s
  rw [(hr (a.amend o) _).2 ⟨o, dir, hconf, rfl, rfl⟩] at hplan
  rw [(hr' v).2 hview] at hload
  exact (run_bind_ok hplan).trans
    ((run_bind_ok hload).trans (generateBelow_run_of_output hout hcommit))

/-- A run that comes to no text looks only, and reports no success. -/
theorem generate_run_of_not_generates (h : ∀ root out, ¬ Generates a s root out) :
    ∃ r, (generate a : ExceptT Failure (StateM σ) Report).run s = (r, s) ∧
      ∀ report, r = .ok report → report.ok = false := by
  obtain ⟨r, hplan, hr⟩ := plan_run a s
  rcases r with e | ⟨o, root⟩
  · exact ⟨.error e, run_bind_error hplan, nofun⟩
  obtain ⟨r', hload, hr'⟩ := loadView_run a.model s
  rcases r' with e | e | v
  · exact ⟨.error e, (run_bind_ok hplan).trans (run_bind_error hload), nofun⟩
  · refine ⟨.ok (.refused a.mode e.diagnostic), (run_bind_ok hplan).trans (run_bind_ok hload), ?_⟩
    rintro _ ⟨⟩
    rfl
  · obtain ⟨o', dir, hconf, rfl, rfl⟩ := (hr o root).1 rfl
    rcases hout : (Setting.on s ((a.out.or dir).getD ".") v (a.amend o')).generate with x | out
    · refine ⟨.ok (.refused a.mode x.diagnostic), (run_bind_ok hplan).trans
        ((run_bind_ok hload).trans (generateBelow_run_of_dead hout)), ?_⟩
      rintro _ ⟨⟩
      rfl
    · exact (h _ out ⟨o', dir, v, hconf, rfl, (hr' v).1 rfl, hout⟩).elim

end Generate

/-! ## Ends of a run -/

section Ends

omit [Disk.Steady σ]

variable {a : GenerateArguments} {s s' : σ}

theorem generateOn_of_report {r : Report}
    (h : (generate a : ExceptT Failure (StateM σ) Report).run s = (.ok r, s')) :
    generateOn a s = (r.outcome a.reportJson, s') := by
  unfold generateOn Command.run
  simp only [bind, StateT.bind, h]
  rfl

theorem generateOn_of_failure {f : Failure}
    (h : (generate a : ExceptT Failure (StateM σ) Report).run s = (.error f, s')) :
    generateOn a s = (f.outcome, s') := by
  unfold generateOn Command.run
  simp only [bind, StateT.bind, h]
  rfl

end Ends

/-- The line says how a run with that status has ended. -/
def IsReport (line : String) (exitCode : Nat) : Prop :=
  ∃ members, Json.Document.read (Text.bytes line) = ⟨Json.tree (.object members), false⟩ ∧
    (members.map (·.1)).Nodup ∧ ("exit_code", Json.number exitCode) ∈ members ∧
    ("ok", Json.bool (exitCode = 0)) ∈ members

theorem Report.isReport (r : Report) : IsReport (r.toJson.compact ++ "\n") r.exitCode := by
  refine ⟨_, Json.Document.read_compact_line r.toJson, by simp, by simp, ?_⟩
  cases hok : r.ok <;> simp [exitCode, hok]

section Effects

variable {a : GenerateArguments} {s : σ}

/-- A run whose commit ends well reports success. -/
theorem generateOn_of_committed {root : String} {out : Output} (h : Generates a s root out)
    {files : List CommittedFile} {s' : σ}
    (hcommit : commitOn root a.mode out.files s = (.ok files, s')) :
    generateOn a s = ((Report.succeeded a.mode out files).outcome a.reportJson, s') :=
  generateOn_of_report (generate_run_of_generates h hcommit)

theorem generateOn_of_commit_failed {root : String} {out : Output} (h : Generates a s root out)
    {e : CommitError} {s' : σ} (hcommit : commitOn root a.mode out.files s = (.error e, s')) :
    generateOn a s = ((Failure.commit e).outcome, s') :=
  generateOn_of_failure (generate_run_of_generates h hcommit)

/-- A run that comes to no text leaves the disk as it is, and ends in a failure or in a report of
one. -/
theorem generateOn_of_not_generates (h : ∀ root out, ¬ Generates a s root out) :
    (∃ f : Failure, generateOn a s = (f.outcome, s)) ∨
      ∃ r : Report, r.ok = false ∧ generateOn a s = (r.outcome a.reportJson, s) := by
  obtain ⟨r, hrun, hr⟩ := generate_run_of_not_generates h
  rcases r with f | r
  · exact .inl ⟨f, generateOn_of_failure hrun⟩
  · exact .inr ⟨r, hr r rfl, generateOn_of_report hrun⟩

/-- The three ways in which a run ends. -/
theorem generateOn_cases (a : GenerateArguments) (s : σ) :
    (∃ root out files s', Generates a s root out ∧
      commitOn root a.mode out.files s = (.ok files, s') ∧
      generateOn a s = ((Report.succeeded a.mode out files).outcome a.reportJson, s')) ∨
    (∃ root out e s', Generates a s root out ∧
      commitOn root a.mode out.files s = (.error e, s') ∧
      generateOn a s = ((Failure.commit e).outcome, s')) ∨
    (∀ root out, ¬ Generates a s root out) ∧
      ((∃ f : Failure, generateOn a s = (f.outcome, s)) ∨
        ∃ r : Report, r.ok = false ∧ generateOn a s = (r.outcome a.reportJson, s)) := by
  by_cases h : ∃ root out, Generates a s root out
  · obtain ⟨root, out, h⟩ := h
    rcases hcommit : commitOn root a.mode out.files s with ⟨e | files, s'⟩
    · exact .inr (.inl ⟨root, out, e, s', h, hcommit, generateOn_of_commit_failed h hcommit⟩)
    · exact .inl ⟨root, out, files, s', h, hcommit, generateOn_of_committed h hcommit⟩
  · have hnot : ∀ root out, ¬ Generates a s root out := fun root out hgen => h ⟨root, out, hgen⟩
    exact .inr (.inr ⟨hnot, generateOn_of_not_generates hnot⟩)

/-- The status is zero exactly if the run commits what it has come to. -/
theorem exitCode_generateOn_eq_zero_iff :
    (generateOn a s).1.exitCode = 0 ↔ ∃ root out files, Generates a s root out ∧
      (commitOn root a.mode out.files s).1 = .ok files := by
  constructor
  · intro hzero
    rcases generateOn_cases a s with ⟨root, out, files, s', h, hcommit, -⟩ |
      ⟨root, out, e, s', -, -, hend⟩ | ⟨-, ⟨f, hend⟩ | ⟨r, hr, hend⟩⟩
    · exact ⟨root, out, files, h, by rw [hcommit]⟩
    · rw [hend] at hzero; cases hzero
    · rw [hend] at hzero; cases hzero
    · rw [hend] at hzero
      simp [Report.outcome, Report.exitCode, hr] at hzero
  · rintro ⟨root, out, files, h, hfiles⟩
    rw [generateOn_of_committed h (Prod.ext hfiles rfl)]
    rfl

theorem exitCode_generateOn (a : GenerateArguments) (s : σ) :
    (generateOn a s).1.exitCode = 0 ∨ (generateOn a s).1.exitCode = 2 := by
  rcases generateOn_cases a s with ⟨root, out, files, s', -, -, hend⟩ |
    ⟨root, out, e, s', -, -, hend⟩ | ⟨-, ⟨f, hend⟩ | ⟨r, hr, hend⟩⟩
  · rw [hend]; exact .inl rfl
  · rw [hend]; exact .inr rfl
  · rw [hend]; exact .inr rfl
  · rw [hend]
    simp [Report.outcome, Report.exitCode, hr]

theorem disk_generateOn_of_generates {root : String} {out : Output} (h : Generates a s root out) :
    (generateOn a s).2 = (commitOn root a.mode out.files s).2 := by
  rcases hcommit : commitOn root a.mode out.files s with ⟨e | files, s'⟩
  · rw [generateOn_of_commit_failed h hcommit]
  · rw [generateOn_of_committed h hcommit]

theorem commitOn_check (root : String) (files : List GeneratedFile) (s : σ) :
    (commitOn root .check files s).2 = s :=
  looks_commit_check root files s

/-- A run that comes to no text, or that checks, leaves the disk as it is. -/
theorem disk_generateOn_of_unwritten
    (h : (∀ root out, ¬ Generates a s root out) ∨ a.check = true) : (generateOn a s).2 = s := by
  by_cases hgen : ∃ root out, Generates a s root out
  · obtain ⟨root, out, hgen⟩ := hgen
    have hmode : a.mode = .check := by
      rcases h with hnot | hcheck
      · exact (hnot root out hgen).elim
      · rw [GenerateArguments.mode, if_pos hcheck]
    rw [disk_generateOn_of_generates hgen, hmode, commitOn_check]
  · rcases generateOn_of_not_generates fun root out h => hgen ⟨root, out, h⟩ with
      ⟨f, hend⟩ | ⟨r, -, hend⟩
    · rw [hend]
    · rw [hend]

omit [Disk.Steady σ] in
/-- The report is made last, so asking for it changes nothing but what is printed. -/
theorem generateOn_asking (a : GenerateArguments) (asked : Bool) (s : σ) :
    (generateOn { a with reportJson := asked } s).1.exitCode = (generateOn a s).1.exitCode ∧
      (generateOn { a with reportJson := asked } s).2 = (generateOn a s).2 := by
  rcases hrun : (generate a : ExceptT Failure (StateM σ) Report).run s with ⟨f | r, s'⟩
  · have hrun' : (generate { a with reportJson := asked } :
        ExceptT Failure (StateM σ) Report).run s = (.error f, s') := hrun
    rw [generateOn_of_failure hrun, generateOn_of_failure hrun']
    exact ⟨rfl, rfl⟩
  · have hrun' : (generate { a with reportJson := asked } :
        ExceptT Failure (StateM σ) Report).run s = (.ok r, s') := hrun
    rw [generateOn_of_report hrun, generateOn_of_report hrun']
    exact ⟨rfl, rfl⟩

omit [Disk.Steady σ] in
/-- Whatever is printed is a report that was asked for. -/
theorem isReport_stdout_generateOn (h : (generateOn a s).1.stdout ≠ "") :
    a.reportJson = true ∧ IsReport (generateOn a s).1.stdout (generateOn a s).1.exitCode := by
  rcases hrun : (generate a : ExceptT Failure (StateM σ) Report).run s with ⟨f | r, s'⟩
  · rw [generateOn_of_failure hrun] at h
    exact (h rfl).elim
  · rw [generateOn_of_report hrun] at h ⊢
    simp only [Report.outcome] at h ⊢
    cases hasked : a.reportJson with
    | false => simp [hasked] at h
    | true => exact ⟨rfl, r.isReport⟩

end Effects

/-- The status of a run is zero exactly if it comes to a text and commits it, and two otherwise. A
run that comes to no text leaves the disk as it is, and so does one that checks; any other leaves it
as its commit does. Whether a report is asked for changes neither the status nor the disk. What is
printed, if anything, is a report that was asked for, and it tells the status; a run that ends well
prints it whenever it is asked for. -/
theorem generate_effects (a : GenerateArguments) (s : σ) :
    ((generateOn a s).1.exitCode = 0 ↔ ∃ root out files, Generates a s root out ∧
      (commitOn root a.mode out.files s).1 = .ok files) ∧
    ((generateOn a s).1.exitCode = 0 ∨ (generateOn a s).1.exitCode = 2) ∧
    ((∀ root out, ¬ Generates a s root out) ∨ a.check = true → (generateOn a s).2 = s) ∧
    (∀ root out, Generates a s root out →
      (generateOn a s).2 = (commitOn root a.mode out.files s).2) ∧
    (∀ asked, (generateOn { a with reportJson := asked } s).1.exitCode =
        (generateOn a s).1.exitCode ∧
      (generateOn { a with reportJson := asked } s).2 = (generateOn a s).2) ∧
    ((generateOn a s).1.stdout ≠ "" →
      a.reportJson = true ∧ IsReport (generateOn a s).1.stdout (generateOn a s).1.exitCode) ∧
    (a.reportJson = true → (generateOn a s).1.exitCode = 0 → (generateOn a s).1.stdout ≠ "") := by
  refine ⟨exitCode_generateOn_eq_zero_iff, exitCode_generateOn a s, disk_generateOn_of_unwritten,
    fun root out => disk_generateOn_of_generates, fun asked => generateOn_asking a asked s,
    isReport_stdout_generateOn, ?_⟩
  intro hasked hzero hnone
  obtain ⟨root, out, files, h, hfiles⟩ := exitCode_generateOn_eq_zero_iff.1 hzero
  rw [generateOn_of_committed h (Prod.ext hfiles rfl), hasked] at hnone
  simp [Report.outcome] at hnone

/-- A disk with the model of a thread and the store it calls. -/
def storeDisk : Files where
  contents? path := if path = "store.json" then some (Text.bytes threadAndStore.toText) else none

/-- A run that reads the model and asks for a report. -/
def storeArguments : GenerateArguments :=
  { model := "store.json", reportJson := true }

theorem generate_effects_of_store :
    (∃ out files, Generates storeArguments storeDisk "." out ∧
      (commitOn "." .write out.files storeDisk).1 = .ok files ∧
      (generateOn storeArguments storeDisk).1.exitCode = 0 ∧
      IsReport (generateOn storeArguments storeDisk).1.stdout 0) ∧
    (generateOn { storeArguments with check := true } storeDisk).2 = storeDisk ∧
    (generateOn { storeArguments with model := "none.json" } storeDisk).1.exitCode = 2 ∧
    (generateOn { storeArguments with model := "none.json" } storeDisk).2 = storeDisk := by
  refine ⟨?_, ?_, ?_⟩
  · have hholds : Disk.Holds View.ofText storeDisk "store.json" threadAndStore :=
      ⟨_, rfl, View.ofText_eq_ok_iff.2 ⟨threadAndStore.document,
        threadAndStore.document.ofText_toJson.1, View.trim_supportedVersion, by decide⟩⟩
    have hlive :
        (Setting.on storeDisk "." threadAndStore (storeArguments.amend {})).fault? = none := by
      rw [← Setting.fault?_inMemory]
      exact (congrArg Setting.fault? (storeDisk.inMemory_setting ..)).trans (by decide)
    have hout := Setting.generate_of_live _ hlive
    have hgen : Generates storeArguments storeDisk "." _ :=
      ⟨{}, none, threadAndStore, .absent, rfl, hholds, hout⟩
    obtain ⟨files, hcommit⟩ := Commit.commit_run_write "." (Output.concat _).files storeDisk
    obtain ⟨hzero, -, -, -, -, hreport, hprints⟩ := generate_effects storeArguments storeDisk
    have hcode := hzero.2 ⟨_, _, files, hgen, congrArg Prod.fst hcommit⟩
    obtain ⟨-, hline⟩ := hreport (hprints rfl hcode)
    rw [hcode] at hline
    exact ⟨_, files, hgen, congrArg Prod.fst hcommit, hcode, hline⟩
  · exact (generate_effects _ storeDisk).2.2.1 (.inr rfl)
  · have hnot : ∀ root out,
        ¬ Generates { storeArguments with model := "none.json" } storeDisk root out := by
      rintro root out ⟨o, dir, v, -, -, ⟨bytes, hbytes, -⟩, -⟩
      cases hbytes
    obtain ⟨hzero, hcode, hkeep, -⟩ :=
      generate_effects { storeArguments with model := "none.json" } storeDisk
    refine ⟨hcode.resolve_left fun h => ?_, hkeep (.inl hnot)⟩
    obtain ⟨root, out, -, hgen, -⟩ := hzero.1 h
    exact hnot root out hgen

end AdaGlue.CommandLine
