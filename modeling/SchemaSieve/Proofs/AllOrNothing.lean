import SchemaSieve.Command.Run
import SchemaSieve.Proofs.Replacing

/-!
# All or nothing

A run of the `filter` command reads its configuration and its source, filters, and writes at the end
only. So it fails at one of these stages and leaves all files as they were, or it succeeds and has
replaced the target with the text that a run without writing shows.
-/

namespace SchemaSieve

open Command

variable {α β : Type} {s : Store}

theorem run_bind_stateM (x : StateM Store α) (f : α → StateM Store β) (s : Store) :
    (x >>= f).run s = (f (x.run s).1).run (x.run s).2 := rfl

/-- The computation leaves a store as it is. -/
def ReadsOnly (x : StateM Store α) : Prop := ∀ s, (x.run s).2 = s

namespace ReadsOnly

theorem pure (a : α) : ReadsOnly (Pure.pure a : StateM Store α) := fun _ => rfl

theorem bind {x : StateM Store α} {f : α → StateM Store β} (hx : ReadsOnly x)
    (hf : ∀ a, ReadsOnly (f a)) : ReadsOnly (x >>= f) := by
  intro s
  rw [run_bind_stateM, hf, hx]

/-- What comes behind such a computation starts from the same store. -/
theorem run_bind {x : StateM Store α} (hx : ReadsOnly x) (f : α → StateM Store β) (s : Store) :
    (x >>= f).run s = (f (x.run s).1).run s := by
  rw [run_bind_stateM, hx]

theorem read (p : Path) : ReadsOnly (Files.read p) := fun _ => rfl

theorem isFile (p : Path) : ReadsOnly (Files.isFile p) := by
  refine bind (x := get) (fun _ => rfl) fun s => ?_
  split
  · exact pure true
  · exact pure false

theorem readText (p : Path) : ReadsOnly (Files.readText p) := by
  refine bind (read p) fun result => ?_
  cases result with
  | error e => exact pure _
  | ok bytes =>
      dsimp only
      split
      · exact pure _
      · exact pure _

theorem readSource (p : Path) : ReadsOnly (Files.readSource p) := by
  refine bind (isFile p) fun b => ?_
  split
  · refine bind (readText p) fun result => ?_
    split
    · exact pure _
    · exact pure _
    · exact pure _
  · exact pure _

theorem loadConfig (call : FilterCall) : ReadsOnly call.loadConfig := by
  rw [FilterCall.loadConfig]
  split
  · refine bind (readText _) fun result => ?_
    split
    · exact pure _
    · split
      · exact pure _
      · exact pure _
  · exact pure _

end ReadsOnly

namespace Command.FilterCall

variable {call : FilterCall} {text : String}

/-- The configuration that the command finds. -/
def configAt (call : FilterCall) (s : Store) : Except ConfigError Config :=
  ((call.loadConfig : StateM Store _).run s).1.result

/-- The text of the source that the command finds. -/
def sourceAt (call : FilterCall) (s : Store) : Except SourceError String :=
  ((Files.readSource call.source : StateM Store _).run s).1

/-- What the command does to a text, given a configuration. -/
def job (call : FilterCall) (c : Config) : Job := c.job call.preserve call.logRemovals

/-- The stages at which a run of the command fails: at its configuration, at its source, at the
filters, or where the target is written. -/
inductive Fails (call : FilterCall) (s : Store) : Prop
  | config (e : ConfigError) (h : call.configAt s = .error e)
  | source (c : Config) (hc : call.configAt s = .ok c) (e : SourceError)
      (h : call.sourceAt s = .error e)
  | filters (c : Config) (hc : call.configAt s = .ok c) (content : String)
      (hs : call.sourceAt s = .ok content) (e : Failure)
      (h : ((call.job c).sift content).result = .error e)
  | output (c : Config) (hc : call.configAt s = .ok c) (content : String)
      (hs : call.sourceAt s = .ok content) (text : String)
      (ht : ((call.job c).sift content).result = .ok text) (hdry : call.dryRun = false)
      (e : OutputError)
      (h : ((Files.writeWithBackup call.target text : StateM Store _).run s).1.result = .error e)

/-- The text that the command makes of its source. -/
def Yields (call : FilterCall) (s : Store) (text : String) : Prop :=
  ∃ c content, call.configAt s = .ok c ∧ call.sourceAt s = .ok content ∧
    ((call.job c).sift content).result = .ok text

theorem run_of_config_error {e : ConfigError} (h : call.configAt s = .error e) :
    ∃ message log, (call.run : StateM Store _).run s = ((.failed message, log), s) := by
  rw [FilterCall.run, (ReadsOnly.loadConfig call).run_bind]
  change ((call.loadConfig : StateM Store _).run s).1.result = .error e at h
  rw [h]
  exact ⟨_, _, rfl⟩

theorem run_of_config {c : Config} (h : call.configAt s = .ok c) :
    ∃ log, (call.run : StateM Store _).run s
      = let r := (if call.dryRun then call.rehearse (call.job c) else call.perform (call.job c)
          : StateM Store _).run s
        ((r.1.1, log), r.2) := by
  rw [FilterCall.run, (ReadsOnly.loadConfig call).run_bind]
  change ((call.loadConfig : StateM Store _).run s).1.result = .ok c at h
  rw [h]
  cases call.dryRun <;> exact ⟨_, rfl⟩

theorem run_rehearse (call : FilterCall) (job : Job) (s : Store) :
    (call.rehearse job : StateM Store _).run s
      = (match call.sourceAt s with
          | .error e => (.failed e.message, [])
          | .ok content =>
            match (job.sift content).result with
            | .error e => (call.failedToFilter e.message, (job.sift content).log)
            | .ok text => (.rendered text, (job.sift content).log), s) := by
  rw [rehearse, (ReadsOnly.readSource _).run_bind]
  change (match call.sourceAt s with
    | .error e => _
    | .ok content => _ : StateM Store _).run s = _
  cases call.sourceAt s with
  | error e => rfl
  | ok content =>
      dsimp only
      cases (job.sift content).result <;> rfl

theorem run_siftFile (job : Job) (source target : Path) (s : Store) :
    ∃ log, (job.siftFile source target : StateM Store _).run s
      = match ((Files.readSource source : StateM Store _).run s).1 with
        | .error e => (⟨.error (.source e), log⟩, s)
        | .ok content =>
          match (job.sift content).result with
          | .error e => (⟨.error (.filter e), log⟩, s)
          | .ok text =>
            let w := (Files.writeWithBackup target text : StateM Store _).run s
            match w.1.result with
            | .error e => (⟨.error (.output e), log⟩, w.2)
            | .ok backup? => (⟨.ok ⟨target, backup?⟩, log⟩, w.2) := by
  rw [Job.siftFile, (ReadsOnly.readSource source).run_bind]
  cases ((Files.readSource source : StateM Store _).run s).1 with
  | error e => exact ⟨_, rfl⟩
  | ok content =>
      dsimp only
      cases (job.sift content).result with
      | error e => exact ⟨_, rfl⟩
      | ok text =>
          dsimp only
          rw [run_bind_stateM]
          obtain ⟨⟨result, log⟩, t⟩ := (Files.writeWithBackup target text : StateM Store _).run s
          cases result <;> exact ⟨_, rfl⟩

theorem run_perform (call : FilterCall) (job : Job) (s : Store) :
    ∃ log, (call.perform job : StateM Store _).run s
      = match call.sourceAt s with
        | .error e => ((call.failedToFilter (SiftError.source e).message, log), s)
        | .ok content =>
          match (job.sift content).result with
          | .error e => ((call.failedToFilter (SiftError.filter e).message, log), s)
          | .ok text =>
            let w := (Files.writeWithBackup call.target text : StateM Store _).run s
            match w.1.result with
            | .error e => ((call.failedToFilter (SiftError.output e).message, log), w.2)
            | .ok backup? => ((.written ⟨call.target, backup?⟩, log), w.2) := by
  obtain ⟨log, hsift⟩ := run_siftFile job call.source call.target s
  refine ⟨log, ?_⟩
  rw [perform, run_bind_stateM, hsift, ← sourceAt]
  cases call.sourceAt s with
  | error e => rfl
  | ok content =>
      dsimp only
      cases (job.sift content).result with
      | error e => rfl
      | ok text =>
          dsimp only
          obtain ⟨⟨result, log⟩, t⟩ :=
            (Files.writeWithBackup call.target text : StateM Store _).run s
          cases result <;> rfl

/-- A run that fails at a stage says so and leaves all files as they were. -/
theorem run_of_fails (h : call.Fails s) :
    ∃ message log, (call.run : StateM Store _).run s = ((.failed message, log), s) := by
  cases h with
  | config e h => exact run_of_config_error h
  | source c hc e h =>
      obtain ⟨log, hrun⟩ := run_of_config hc
      have hrehearse := run_rehearse call (call.job c) s
      obtain ⟨log', hperform⟩ := run_perform call (call.job c) s
      simp only [h] at hrehearse hperform
      cases hdry : call.dryRun with
      | true => exact ⟨_, log, by rw [hrun, hdry, if_pos rfl, hrehearse]⟩
      | false => exact ⟨_, log, by rw [hrun, hdry, if_neg (by simp), hperform]; rfl⟩
  | filters c hc content hs e h =>
      obtain ⟨log, hrun⟩ := run_of_config hc
      have hrehearse := run_rehearse call (call.job c) s
      obtain ⟨log', hperform⟩ := run_perform call (call.job c) s
      simp only [hs, h] at hrehearse hperform
      cases hdry : call.dryRun with
      | true => exact ⟨_, log, by rw [hrun, hdry, if_pos rfl, hrehearse]; rfl⟩
      | false => exact ⟨_, log, by rw [hrun, hdry, if_neg (by simp), hperform]; rfl⟩
  | output c hc content hs text ht hdry e h =>
      obtain ⟨log, hrun⟩ := run_of_config hc
      obtain ⟨log', hperform⟩ := run_perform call (call.job c) s
      simp only [hs, ht, h] at hperform
      rcases Files.replaced_or_error call.target text s with ⟨-, -, hsame⟩ | ⟨backup?, hok, -⟩
      · exact ⟨_, log, by rw [hrun, hdry, if_neg (by simp), hperform, hsame]; rfl⟩
      · rw [h] at hok
        cases hok

theorem exists_yields (h : ¬call.Fails s) : ∃ text, call.Yields s text := by
  cases hc : call.configAt s with
  | error e => exact absurd (.config e hc) h
  | ok c =>
      cases hs : call.sourceAt s with
      | error e => exact absurd (.source c hc e hs) h
      | ok content =>
          cases ht : ((call.job c).sift content).result with
          | error e => exact absurd (.filters c hc content hs e ht) h
          | ok text => exact ⟨text, c, content, hc, hs, ht⟩

/-- Without writing the text is shown, and all files stay as they were. -/
theorem run_of_dryRun (hdry : call.dryRun = true) (h : call.Yields s text) :
    ∃ log, (call.run : StateM Store _).run s = ((.rendered text, log), s) := by
  obtain ⟨c, content, hc, hs, ht⟩ := h
  obtain ⟨log, hrun⟩ := run_of_config hc
  have hrehearse := run_rehearse call (call.job c) s
  simp only [hs, ht] at hrehearse
  exact ⟨log, by rw [hrun, hdry, if_pos rfl, hrehearse]⟩

/-- A run that does not fail has replaced the target. -/
theorem run_of_not_fails (hdry : call.dryRun = false) (hfails : ¬call.Fails s)
    (h : call.Yields s text) :
    ∃ file log t, (call.run : StateM Store _).run s = ((.written file, log), t) ∧
      s.Replaced t call.target text.toUTF8 := by
  obtain ⟨c, content, hc, hs, ht⟩ := h
  obtain ⟨log, hrun⟩ := run_of_config hc
  obtain ⟨log', hperform⟩ := run_perform call (call.job c) s
  rcases Files.replaced_or_error call.target text s with ⟨e, herror, -⟩ | ⟨backup?, hok, hreplaced⟩
  · exact absurd (.output c hc content hs text ht hdry e herror) hfails
  · simp only [hs, ht, hok] at hperform
    exact ⟨_, log, _, by rw [hrun, hdry, if_neg (by simp), hperform], hreplaced⟩

end Command.FilterCall

namespace Command

variable {arguments : List String} {call : FilterCall} {verbose : Bool}

theorem run_filter (h : Invocation.ofArguments arguments = .ok (.filter call verbose))
    (setting? : Option String) (s : Store) :
    let r := (call.run : StateM Store _).run s
    (run arguments setting? : StateM Store Outcome).run s
      = ({ r.1.1.outcome with log := startLog verbose setting? r.1.2 }, r.2) := by
  rw [run, h]
  rfl

/-- A run of the command either leaves all files as they were, or has done all that it is to do. -/
structure AllOrNothing (call : FilterCall) (s : Store) (r : Outcome × Store) : Prop where
  failed : call.Fails s → r.1.exitCode = 1 ∧ r.2 = s
  rehearsed : call.dryRun = true → r.2 = s
  succeeded : ¬call.Fails s → r.1.exitCode = 0
  /-- The target holds what the same command shows when it is not to write. -/
  replaced : ¬call.Fails s → call.dryRun = false → ∃ text,
    s.Replaced r.2 call.target text.toUTF8 ∧
      ∀ (arguments : List String) (verbose : Bool) (setting? : Option String),
        Invocation.ofArguments arguments = .ok (.filter { call with dryRun := true } verbose) →
        ((run arguments setting? : StateM Store Outcome).run s).1.exitCode = 0 ∧
          ((run arguments setting? : StateM Store Outcome).run s).1.stdout = text

/-- **All or nothing on disk.** -/
theorem allOrNothing_run_filter
    (h : Invocation.ofArguments arguments = .ok (.filter call verbose))
    (setting? : Option String) (s : Store) :
    AllOrNothing call s ((run arguments setting? : StateM Store Outcome).run s) := by
  have hrun := run_filter h setting? s
  rw [hrun]
  refine ⟨?_, ?_, ?_, ?_⟩
  · intro hfails
    obtain ⟨message, log, hcall⟩ := call.run_of_fails hfails
    rw [hcall]
    exact ⟨rfl, rfl⟩
  · intro hdry
    by_cases hfails : call.Fails s
    · obtain ⟨message, log, hcall⟩ := call.run_of_fails hfails
      rw [hcall]
    · obtain ⟨text, hyields⟩ := FilterCall.exists_yields hfails
      obtain ⟨log, hcall⟩ := FilterCall.run_of_dryRun hdry hyields
      rw [hcall]
  · intro hfails
    obtain ⟨text, hyields⟩ := FilterCall.exists_yields hfails
    cases hdry : call.dryRun with
    | true =>
        obtain ⟨log, hcall⟩ := FilterCall.run_of_dryRun hdry hyields
        rw [hcall]
        rfl
    | false =>
        obtain ⟨file, log, t, hcall, -⟩ := FilterCall.run_of_not_fails hdry hfails hyields
        rw [hcall]
        rfl
  · intro hfails hdry
    obtain ⟨text, hyields⟩ := FilterCall.exists_yields hfails
    obtain ⟨file, log, t, hcall, hreplaced⟩ := FilterCall.run_of_not_fails hdry hfails hyields
    rw [hcall]
    refine ⟨text, hreplaced, fun arguments' verbose' setting'? h' => ?_⟩
    have hyields' : ({ call with dryRun := true } : FilterCall).Yields s text := hyields
    obtain ⟨log', hcall'⟩ := FilterCall.run_of_dryRun rfl hyields'
    rw [run_filter h' setting'? s, hcall']
    exact ⟨rfl, rfl⟩

/-- The source is the target, and the header of the text is dropped. -/
theorem replaced_of_source_as_target :
    let old := "# all\ntype A \x7b\n  a: Int\n\x7d\n"
    let new := "type A \x7b\n  a: Int\n\x7d\n"
    let s : Store := ({ workingDirectory := ["work"] } : Store).addFile ["work", "api"] old.toUTF8
    let r := (run ["filter", "api", "api"] none : StateM Store Outcome).run s
    AllOrNothing { source := ⟨"api"⟩, target := ⟨"api"⟩ } s r ∧ s.Replaced r.2 ⟨"api"⟩ new.toUTF8 ∧
      ((run ["filter", "api", "api", "--dry-run"] none : StateM Store Outcome).run s).1.stdout
        = new := by
  intro old new s r
  have hcall : Invocation.ofArguments ["filter", "api", "api"]
      = .ok (.filter { source := ⟨"api"⟩, target := ⟨"api"⟩ } false) := by decide +kernel
  have hrehearsal : Invocation.ofArguments ["filter", "api", "api", "--dry-run"]
      = .ok (.filter { dryRun := true, source := ⟨"api"⟩, target := ⟨"api"⟩ } false) := by
    decide +kernel
  have hall := allOrNothing_run_filter hcall none s
  have hexit : r.1.exitCode = 0 := by decide +kernel
  have hfails : ¬FilterCall.Fails { source := ⟨"api"⟩, target := ⟨"api"⟩ } s := by
    intro hfails
    have hone := (hall.failed hfails).1
    rw [hexit] at hone
    exact absurd hone (by decide)
  obtain ⟨text, hreplaced, hshown⟩ := hall.replaced hfails rfl
  have hstdout := (hshown _ _ none hrehearsal).2
  have hnew : ((run ["filter", "api", "api", "--dry-run"] none : StateM Store Outcome).run
      s).1.stdout = new := by decide +kernel
  rw [hstdout] at hnew
  rw [hnew] at hreplaced hstdout
  exact ⟨hall, hreplaced, hstdout⟩

end Command

end SchemaSieve
