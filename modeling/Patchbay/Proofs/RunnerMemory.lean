import Patchbay.Runner
import Mathlib.Algebra.Ring.Nat

namespace Patchbay

/-- The program that an engine plays that has never failed: the last one it evaluated, unless it was
hushed since. -/
def Engine.inForce? (engine : Engine) : Option String :=
  match engine.log.head? with
  | some (.evaluate program) => some program
  | _ => none

/-- Two programs that sound alike: they agree but for comments and blanks, and in the tempo. -/
def Program.SoundsLike (program other : String) : Prop :=
  comparisonForm program = comparisonForm other ∧ lastTempo? program = lastTempo? other

structure Engine.Plays (engine : Engine) (program : String) : Prop where
  silent : Program.comparisonForm program = "" → engine.inForce? = none
  playing : Program.comparisonForm program ≠ "" →
    ∃ playing, engine.inForce? = some playing ∧ Program.SoundsLike playing program

namespace Runner

open Program

variable {runner : Runner} {program other : String}

structure Remembers (runner : Runner) : Prop where
  working : runner.engine.failure = none
  status : runner.status = .running ↔ runner.engine.inForce?.isSome
  form : runner.lastEvaluated = runner.engine.inForce?.map comparisonForm
  tempo : ∀ program, runner.engine.inForce? = some program → runner.lastTempo = lastTempo? program

structure Follows (runner : Runner) (program : String) : Prop extends Remembers runner where
  active : runner.halted = false
  waiting : ∀ timer, runner.pending = some timer →
    runner.timed ∧ timer.due ≤ runner.clock + runner.settings.debounce ∧
      SoundsLike timer.program program ∧ comparisonForm program ≠ ""
  arrived : runner.pending = none → runner.engine.Plays program

structure Stopped (runner : Runner) : Prop extends Remembers runner where
  stopped : runner.halted = true
  idle : runner.pending = none
  silent : runner.engine.inForce? = none

theorem evaluate_of_working (h : runner.engine.failure = none) (program : String) :
    (runner.evaluate program).1 =
      { runner with
        engine := runner.engine.evaluate program
        status := .running
        lastEvaluated := some (comparisonForm program)
        lastTempo := lastTempo? program } := by
  rw [evaluate, h]

theorem Remembers.evaluate (h : runner.Remembers) (program : String) :
    (runner.evaluate program).1.Remembers := by
  rw [evaluate_of_working h.working]
  exact ⟨h.working, ⟨fun _ => rfl, fun _ => rfl⟩, rfl, by rintro _ ⟨⟩; rfl⟩

theorem Remembers.reset_hush (h : runner.Remembers) : runner.reset.hush.Remembers :=
  ⟨h.working, ⟨nofun, nofun⟩, rfl, nofun⟩

theorem Remembers.reset (h : runner.Remembers) (hsilent : runner.engine.inForce? = none) :
    runner.reset.Remembers := by
  refine ⟨h.working, ⟨nofun, fun hsome => ?_⟩, ?_, fun playing hplaying => ?_⟩
  · rw [show runner.reset.engine.inForce? = none from hsilent] at hsome
    cases hsome
  · rw [show runner.reset.engine.inForce? = none from hsilent]
    rfl
  · cases hsilent.symm.trans hplaying

theorem Remembers.follows_evaluate (h : runner.Remembers) (hactive : runner.halted = false)
    (hpending : runner.pending = none) (hsounds : SoundsLike program other)
    (hform : comparisonForm other ≠ "") : (runner.evaluate program).1.Follows other := by
  refine ⟨h.evaluate program, ?_, ?_, ?_⟩
  · rwa [evaluate_of_working h.working]
  · intro timer htimer
    rw [evaluate_of_working h.working, hpending] at htimer
    cases htimer
  · intro _
    rw [evaluate_of_working h.working]
    exact ⟨fun hempty => absurd hempty hform, fun _ => ⟨program, rfl, hsounds⟩⟩

theorem Remembers.follows_schedule (h : runner.Remembers) (hactive : runner.halted = false)
    (hform : comparisonForm program ≠ "") : (runner.schedule program).1.Follows program := by
  have hsounds : SoundsLike program program := ⟨rfl, rfl⟩
  unfold schedule
  simp only
  split
  · next htimed =>
    refine ⟨⟨h.working, h.status, h.form, h.tempo⟩, hactive, ?_, fun hnone => ?_⟩
    · rintro _ ⟨⟩
      exact ⟨htimed, Nat.le_refl _, hsounds, hform⟩
    · cases hnone
  · exact Remembers.follows_evaluate ⟨h.working, h.status, h.form,
      h.tempo⟩ hactive rfl hsounds hform

theorem Remembers.cancelPending (h : runner.Remembers) : runner.cancelPending.Remembers :=
  ⟨h.working, h.status, h.form, h.tempo⟩

theorem Remembers.follows_submit (h : runner.Remembers) (hactive : runner.halted = false)
    (program : String) : (runner.submit program).1.Follows program := by
  have hlatest : Remembers { runner with latest := some program } :=
    ⟨h.working, h.status, h.form, h.tempo⟩
  unfold submit
  lift_lets
  intro next content tempo
  have hnext : next.Remembers := hlatest
  have hactive' : next.halted = false := hactive
  clear_value next
  rw [if_neg (Bool.eq_false_iff.mp hactive')]
  by_cases hform : content = ""
  · rw [if_pos (String.isEmpty_iff.mpr hform)]
    split
    · exact ⟨hnext.reset_hush, hactive', nofun,
        fun _ => ⟨fun _ => rfl, fun hne => absurd hform hne⟩⟩
    · next hidle =>
      have hsilent : next.engine.inForce? = none := by
        cases hplaying : next.engine.inForce? with
        | none => rfl
        | some playing => exact absurd (.inl (hnext.status.mpr (by rw [hplaying]; rfl))) hidle
      exact ⟨hnext.reset hsilent, hactive', nofun,
        fun _ => ⟨fun _ => hsilent, fun hne => absurd hform hne⟩⟩
  · rw [if_neg fun hempty => hform (String.isEmpty_iff.mp hempty)]
    cases hlast : next.lastEvaluated with
    | none => exact hnext.follows_schedule hactive' hform
    | some last =>
      obtain ⟨playing, hplaying, rfl⟩ := Option.map_eq_some_iff.mp (hnext.form.symm.trans hlast)
      simp only
      split
      · next hsame =>
        refine ⟨hnext.cancelPending, hactive', nofun,
          fun _ => ⟨fun hempty => absurd hempty hform, ?_⟩⟩
        exact fun _ =>
          ⟨playing, hplaying, hsame.1, (hnext.tempo playing hplaying).symm.trans hsame.2.symm⟩
      · split
        · exact hnext.cancelPending.follows_evaluate hactive' rfl ⟨rfl, rfl⟩ hform
        · exact hnext.follows_schedule hactive' hform

theorem Remembers.stop (h : runner.Remembers) : runner.stop.Stopped :=
  ⟨⟨h.working, ⟨nofun, nofun⟩, rfl, nofun⟩, rfl, rfl, rfl⟩

theorem submit_of_halted (h : runner.halted = true) (program : String) :
    runner.submit program = ({ runner with latest := some program }, .halted) := by
  unfold submit
  dsimp only
  rw [if_pos h]

theorem Stopped.submit (h : runner.Stopped) (program : String) :
    (runner.submit program).1.Stopped := by
  rw [submit_of_halted h.stopped]
  exact ⟨⟨h.working, h.status, h.form, h.tempo⟩, h.stopped, h.idle, h.silent⟩

theorem Stopped.resume (h : runner.Stopped) (program : String) :
    (runner.resume (some program)).1.Follows program := by
  let next : Runner := { runner with halted := false, latest := some program }
  have hnext : next.Remembers := ⟨h.working, h.status, h.form, h.tempo⟩
  have hresume : (runner.resume (some program)).1 =
      if comparisonForm program =
        "" then next.reset else (next.cancelPending.evaluate program).1 := by
    simp only [Runner.resume, Option.some_or, String.isEmpty_iff, next]
    split <;> rfl
  rw [hresume]
  split
  · next hform =>
    exact ⟨hnext.reset h.silent, rfl, nofun,
      fun _ => ⟨fun _ => h.silent, fun hne => absurd hform hne⟩⟩
  · next hform => exact hnext.cancelPending.follows_evaluate rfl rfl ⟨rfl, rfl⟩ hform

theorem sleep_untimed (h : runner.timed = false) (milliseconds : Nat) :
    runner.sleep milliseconds = runner := by
  rw [sleep, if_neg (Bool.eq_false_iff.mp h)]

section Timed

variable {milliseconds : Nat} {timer : Timer}

theorem sleep_of_idle (h : runner.timed) (hpending : runner.pending = none) (milliseconds : Nat) :
    runner.sleep milliseconds = { runner with clock := runner.clock + milliseconds } := by
  rw [sleep, if_pos h]
  simp only [hpending]

theorem sleep_of_due (h : runner.timed) (hpending : runner.pending = some timer)
    (hdue : timer.due ≤ runner.clock + milliseconds) :
    runner.sleep milliseconds =
      ({ runner with clock := runner.clock + milliseconds, pending := none }.evaluate
        timer.program).1 := by
  rw [sleep, if_pos h]
  simp only [hpending, if_pos hdue, fire, Option.map_some, if_true]

theorem sleep_of_late (h : runner.timed) (hpending : runner.pending = some timer)
    (hlate : runner.clock + milliseconds < timer.due) :
    runner.sleep milliseconds = { runner with clock := runner.clock + milliseconds } := by
  rw [sleep, if_pos h]
  simp only [hpending, if_neg (Nat.not_le.mpr hlate)]

end Timed

theorem Remembers.later (h : runner.Remembers) (milliseconds : Nat) :
    Remembers { runner with clock := runner.clock + milliseconds } :=
  ⟨h.working, h.status, h.form, h.tempo⟩

theorem Stopped.sleep (h : runner.Stopped) (milliseconds : Nat) :
    (runner.sleep milliseconds).Stopped := by
  cases htimed : runner.timed with
  | false => rwa [sleep_untimed htimed]
  | true =>
    rw [sleep_of_idle htimed h.idle]
    exact ⟨h.later milliseconds, h.stopped, h.idle, h.silent⟩

theorem Follows.sleep (h : runner.Follows program) (milliseconds : Nat) :
    (runner.sleep milliseconds).Follows program := by
  cases htimed : runner.timed with
  | false => rwa [sleep_untimed htimed]
  | true =>
    cases hpending : runner.pending with
    | none =>
      rw [sleep_of_idle htimed hpending]
      refine ⟨h.later milliseconds, h.active, fun timer htimer => ?_, fun _ => h.arrived hpending⟩
      cases hpending.symm.trans htimer
    | some timer =>
      obtain ⟨_, hdue, hsounds, hform⟩ := h.waiting timer hpending
      by_cases hpast : timer.due ≤ runner.clock + milliseconds
      · rw [sleep_of_due htimed hpending hpast]
        exact Remembers.follows_evaluate ⟨h.working, h.status, h.form,
          h.tempo⟩ h.active rfl hsounds hform
      · rw [sleep_of_late htimed hpending (Nat.not_le.mp hpast)]
        refine ⟨h.later milliseconds, h.active, fun other hother => ?_, fun hnone => ?_⟩
        · obtain rfl := Option.some.inj (hpending.symm.trans hother)
          exact ⟨htimed, by simp only; omega, hsounds, hform⟩
        · cases hpending.symm.trans hnone

section Setup

def setup (runner : Runner) : RunnerSettings × Bool :=
  (runner.settings, runner.timed)

theorem settings_of_setup {next : Runner} (h : next.setup = runner.setup) :
    next.settings = runner.settings :=
  congrArg Prod.fst h

theorem timed_of_setup {next : Runner} (h : next.setup = runner.setup) :
    next.timed = runner.timed :=
  congrArg Prod.snd h

variable (runner : Runner) (program : String)

theorem pending_evaluate : (runner.evaluate program).1.pending = runner.pending := by
  unfold evaluate
  split <;> rfl

theorem clock_evaluate : (runner.evaluate program).1.clock = runner.clock := by
  unfold evaluate
  split <;> rfl

theorem setup_evaluate : (runner.evaluate program).1.setup = runner.setup := by
  unfold evaluate
  split <;> rfl

theorem setup_schedule : (runner.schedule program).1.setup = runner.setup := by
  unfold schedule
  simp only
  split
  · rfl
  · exact setup_evaluate _ program

theorem setup_submit : (runner.submit program).1.setup = runner.setup := by
  unfold submit
  lift_lets
  intro next content tempo
  split
  · rfl
  · split
    · split <;> rfl
    · split
      · exact setup_schedule next program
      · split
        · rfl
        · split
          · exact setup_evaluate next.cancelPending program
          · exact setup_schedule next program

theorem setup_resume (program : Option String) :
    (runner.resume program).1.setup = runner.setup := by
  unfold resume
  lift_lets
  intro next
  split
  · rfl
  · split
    · rfl
    · exact setup_evaluate _ _

theorem setup_sleep (milliseconds : Nat) : (runner.sleep milliseconds).setup = runner.setup := by
  unfold sleep
  split
  · simp only
    split
    · split
      · unfold fire
        split
        · exact setup_evaluate _ _
        · rfl
      · rfl
    · rfl
  · rfl

end Setup

section Deadline

variable {timer : Timer}

theorem lt_due_of_sleep (h : runner.timed) {milliseconds : Nat}
    (htimer : (runner.sleep milliseconds).pending = some timer) :
    runner.pending = some timer ∧ runner.clock + milliseconds < timer.due := by
  cases hpending : runner.pending with
  | none =>
    rw [sleep_of_idle h hpending] at htimer
    cases hpending.symm.trans htimer
  | some other =>
    by_cases hpast : other.due ≤ runner.clock + milliseconds
    · rw [sleep_of_due h hpending hpast, pending_evaluate] at htimer
      cases htimer
    · rw [sleep_of_late h hpending (Nat.not_le.mp hpast)] at htimer
      obtain rfl := Option.some.inj (hpending.symm.trans htimer)
      exact ⟨rfl, Nat.not_le.mp hpast⟩

theorem clock_sleep (h : runner.timed) (milliseconds : Nat) :
    (runner.sleep milliseconds).clock = runner.clock + milliseconds := by
  cases hpending : runner.pending with
  | none => rw [sleep_of_idle h hpending]
  | some timer =>
    by_cases hpast : timer.due ≤ runner.clock + milliseconds
    · rw [sleep_of_due h hpending hpast, clock_evaluate]
    · rw [sleep_of_late h hpending (Nat.not_le.mp hpast)]

theorem pending_foldl_sleep (h : runner.timed) (waits : List Nat)
    (htimer : (waits.foldl sleep runner).pending = some timer) :
    runner.pending = some timer ∧ (waits.foldl sleep runner).clock = runner.clock + waits.sum := by
  induction waits generalizing runner with
  | nil => exact ⟨htimer, rfl⟩
  | cons wait rest ih =>
    have htimed : (runner.sleep wait).timed := (timed_of_setup (setup_sleep runner wait)).trans h
    obtain ⟨hpending, hclock⟩ := ih htimed htimer
    refine ⟨(lt_due_of_sleep h hpending).1, ?_⟩
    rw [List.foldl_cons, hclock, clock_sleep h, List.sum_cons, Nat.add_assoc]

end Deadline

end Runner

end Patchbay
