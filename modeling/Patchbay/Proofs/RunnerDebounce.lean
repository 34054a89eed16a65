import Patchbay.Proofs.RunnerConsistency

namespace Patchbay.Runner

open Program

variable {runner : Runner} {playing : Option String} {program : String} {waits : List Nat}

/-- What a runner shows when it has settled on a program: that it plays it, or is idle if there is
nothing to play. -/
structure Shows (runner : Runner) (program : String) : Prop where
  blank : comparisonForm program = "" → runner.status = .idle ∧ runner.lastEvaluated = none
  sounding : comparisonForm program ≠ "" → runner.status = .running ∧
    runner.lastEvaluated = some (comparisonForm program) ∧ runner.lastTempo = lastTempo? program

def Action.program? : Action → Option String
  | .submit program => some program
  | .resume given => given
  | .stop | .sleep _ => none

def latestAfter (latest : Option String) (actions : List Action) : Option String :=
  actions.foldl (fun latest action => action.program?.or latest) latest

section Setup

theorem setup_act (runner : Runner) (action : Action) :
    (runner.act action).setup = runner.setup := by
  cases action with
  | submit program => exact runner.setup_submit program
  | stop => rfl
  | resume given => exact runner.setup_resume given
  | sleep milliseconds => exact runner.setup_sleep milliseconds

theorem setup_run (runner : Runner) (actions : List Action) :
    (runner.run actions).setup = runner.setup := by
  induction actions generalizing runner with
  | nil => rfl
  | cons action rest ih => exact (ih (runner.act action)).trans (runner.setup_act action)

theorem foldl_sleep_eq_run (runner : Runner) (waits : List Nat) :
    waits.foldl sleep runner = runner.run (waits.map .sleep) := by
  rw [run, List.foldl_map]
  rfl

end Setup

section Settling

/-- A runner with timers, on an engine that does not fail, is on its way to the latest program. -/
structure Settling (runner : Runner) : Prop where
  working : runner.engine.failure = none
  timed : runner.timed = true
  consistent : ∃ playing, runner.Consistent playing
  due : ∀ timer, runner.pending = some timer → timer.due ≤ runner.clock + runner.settings.debounce
  arrived : runner.halted = false → runner.pending = none →
    ∀ program, runner.latest = some program → runner.Shows program

theorem settling_fresh (settings : RunnerSettings) : Settling { settings } :=
  ⟨rfl, rfl, ⟨none, consistent_fresh settings true⟩, nofun, fun _ _ => nofun⟩

theorem settling_evaluate (hworking : runner.engine.failure = none) (htimed : runner.timed = true)
    (h : runner.Consistent playing) (hactive : runner.halted = false)
    (hpending : runner.pending = none)
    (hlatest : runner.latest = some program) (hform : comparisonForm program ≠ "") :
    (runner.evaluate program).1.Settling := by
  have hnext := h.evaluate hactive hpending hlatest hform
  unfold KeepsConsistent at hnext
  rw [evaluate_of_working hworking] at hnext ⊢
  refine ⟨hworking, htimed, ⟨_, hnext⟩, fun timer htimer => ?_, fun _ _ other hother => ?_⟩
  · cases hpending.symm.trans htimer
  · obtain rfl := Option.some.inj (hlatest.symm.trans hother)
    exact ⟨fun hempty => absurd hempty hform, fun _ => ⟨rfl, rfl, rfl⟩⟩

theorem shows_of_blank (hform : comparisonForm program = "") (hstatus : runner.status = .idle)
    (hlast : runner.lastEvaluated = none) : runner.Shows program :=
  ⟨fun _ => ⟨hstatus, hlast⟩, fun hne => absurd hform hne⟩

theorem Settling.submit (h : runner.Settling) (program : String) :
    (runner.submit program).1.Settling := by
  obtain ⟨playing, hconsistent⟩ := h.consistent
  have hnext : ∃ playing, (runner.submit program).1.Consistent playing :=
    ⟨_, hconsistent.submit program⟩
  have hcase := runner.submitted program
  generalize runner.submit program = result at hcase hnext ⊢
  cases hcase with
  | halted hhalted =>
    exact ⟨h.working, h.timed, hnext, h.due, fun hactive => nomatch hhalted.symm.trans hactive⟩
  | hushed _ hform _ | forgotten _ hform _ _ =>
    refine ⟨h.working, h.timed, hnext, nofun, ?_⟩
    rintro _ _ _ ⟨⟩
    exact shows_of_blank hform rfl rfl
  | same _ hform hlast htempo =>
    refine ⟨h.working, h.timed, hnext, nofun, ?_⟩
    rintro _ _ _ ⟨⟩
    have hrunning : runner.status = .running := hconsistent.status.mpr (by rw [hlast]; rfl)
    exact ⟨fun hempty => absurd hempty hform, fun _ => ⟨hrunning, hlast, htempo⟩⟩
  | evaluated generation hactive hform _ =>
    exact settling_evaluate h.working h.timed (hconsistent.take_submitted generation hactive hform)
      hactive rfl rfl hform
  | scheduled _ _ _ _ =>
    refine ⟨h.working, h.timed, hnext, ?_, fun _ => nofun⟩
    rintro _ ⟨⟩
    exact Nat.le_refl _

theorem Settling.resume (h : runner.Settling) (given : Option String) :
    (runner.resume given).1.Settling := by
  obtain ⟨playing, hconsistent⟩ := h.consistent
  have hnext : ∃ playing, (runner.resume given).1.Consistent playing :=
    ⟨_, hconsistent.resume given⟩
  have hcase := runner.resumed given
  generalize runner.resume given = result at hcase hnext ⊢
  cases hcase with
  | nothing hnone =>
    refine ⟨h.working, h.timed, hnext, h.due, fun _ _ program hlatest => ?_⟩
    cases (Option.or_eq_none_iff.mp hnone).2.symm.trans hlatest
  | forgotten program _ hform =>
    refine ⟨h.working, h.timed, hnext, nofun, ?_⟩
    rintro _ _ _ ⟨⟩
    exact shows_of_blank hform rfl rfl
  | evaluated program _ hform =>
    exact settling_evaluate h.working h.timed (hconsistent.take_resumed hform) rfl rfl rfl hform

theorem Settling.sleep (h : runner.Settling) (milliseconds : Nat) :
    (runner.sleep milliseconds).Settling := by
  obtain ⟨playing, hconsistent⟩ := h.consistent
  have hnext : ∃ playing, (runner.sleep milliseconds).Consistent playing :=
    ⟨_, hconsistent.sleep milliseconds⟩
  have hcase := runner.slept milliseconds
  generalize runner.sleep milliseconds = next at hcase hnext ⊢
  cases hcase with
  | untimed _ => exact h
  | waited _ _ =>
    refine ⟨h.working, h.timed, hnext, fun timer htimer => ?_,
      fun hactive hpending program hlatest => ?_⟩
    · have hdue := h.due timer htimer
      simp only
      omega
    · obtain ⟨hblank, hsounding⟩ := h.arrived hactive hpending program hlatest
      exact ⟨hblank, hsounding⟩
  | fired timer _ hpending _ =>
    obtain ⟨_, hlatest, hform⟩ := hconsistent.waiting timer hpending
    exact settling_evaluate h.working h.timed (hconsistent.take_pending hpending _)
      (hconsistent.active_of_pending hpending) rfl hlatest hform

theorem Settling.act (h : runner.Settling) (action : Action) : (runner.act action).Settling := by
  cases action with
  | submit program => exact h.submit program
  | stop =>
    exact ⟨h.working, h.timed, ⟨none, consistent_of_idle rfl rfl rfl none⟩, nofun, nofun⟩
  | resume given => exact h.resume given
  | sleep milliseconds => exact h.sleep milliseconds

theorem Settling.run (h : runner.Settling) (actions : List Action) :
    (runner.run actions).Settling := by
  induction actions generalizing runner with
  | nil => exact h
  | cons action rest ih => exact ih (h.act action)

theorem Settling.pending_sleep (h : runner.Settling) (waits : List Nat) {last : Nat}
    (hpassed : runner.settings.debounce ≤ waits.sum + last) :
    ((runner.run (waits.map .sleep)).sleep last).pending = none := by
  cases hpending : ((runner.run (waits.map .sleep)).sleep last).pending with
  | none => rfl
  | some timer =>
    obtain ⟨hbefore, hlate⟩ := Runner.lt_due_of_sleep (h.run _).timed hpending
    rw [← foldl_sleep_eq_run] at hbefore hlate
    obtain ⟨hfirst, hclock⟩ := pending_foldl_sleep h.timed waits hbefore
    have hdue := h.due timer hfirst
    omega

end Settling

section Latest

theorem latest_evaluate (runner : Runner) (program : String) :
    (runner.evaluate program).1.latest = runner.latest := by
  unfold evaluate
  split <;> rfl

theorem latest_act (runner : Runner) (action : Action) :
    (runner.act action).latest = action.program?.or runner.latest := by
  cases action with
  | submit program =>
    have hcase := runner.submitted program
    rw [act]
    generalize runner.submit program = result at hcase ⊢
    cases hcase with
    | halted | hushed | forgotten | same | scheduled => rfl
    | evaluated => exact latest_evaluate _ program
  | stop => rfl
  | resume given =>
    have hcase := runner.resumed given
    rw [act]
    generalize runner.resume given = result at hcase ⊢
    cases hcase with
    | nothing hnone =>
      rw [Action.program?, hnone]
      exact (Option.or_eq_none_iff.mp hnone).2
    | forgotten program hsome => exact hsome.symm
    | evaluated program hsome => exact (latest_evaluate _ program).trans hsome.symm
  | sleep milliseconds =>
    have hcase := runner.slept milliseconds
    rw [act]
    generalize runner.sleep milliseconds = next at hcase ⊢
    cases hcase with
    | untimed | waited => rfl
    | fired timer => exact latest_evaluate _ timer.program

theorem latest_run (runner : Runner) (actions : List Action) :
    (runner.run actions).latest = latestAfter runner.latest actions := by
  induction actions generalizing runner with
  | nil => rfl
  | cons action rest ih =>
    rw [run, List.foldl_cons, ← run, ih, latest_act]
    rfl

theorem latest_run_sleep (runner : Runner) (waits : List Nat) :
    (runner.run (waits.map .sleep)).latest = runner.latest := by
  rw [latest_run]
  induction waits with
  | nil => rfl
  | cons wait rest ih => exact ih

end Latest

section Burst

structure Edit where
  program : String
  waits : List Nat

def edit (runner : Runner) (edit : Edit) : Runner :=
  edit.waits.foldl sleep (runner.submit edit.program).1

def outcomes (runner : Runner) : List Edit → List Outcome
  | [] => []
  | edit :: rest => (runner.submit edit.program).2 :: (runner.edit edit).outcomes rest

/-- A program was handed in without reaching the engine; it may wait there, and only it, for all of
the debounce. -/
structure Held (runner : Runner) (program : String) (next : Runner) : Prop where
  engine : next.engine = runner.engine
  setup : next.setup = runner.setup
  pending : ∀ timer, next.pending = some timer →
    timer.program = program ∧ timer.due = next.clock + next.settings.debounce

theorem held_submit (hquiet : (runner.submit program).2 = .scheduled ∨
    (runner.submit program).2 = .unchanged) : runner.Held program (runner.submit program).1 := by
  have hcase := runner.submitted program
  generalize runner.submit program = result at hcase hquiet ⊢
  cases hcase with
  | halted | hushed => simp at hquiet
  | forgotten | same => exact ⟨rfl, rfl, nofun⟩
  | evaluated generation =>
    have hloud :=
      evaluated { runner with latest := some program, pending := none, generation } program
    generalize evaluate _ program = result at hloud hquiet
    cases hloud with
    | accepted => simp at hquiet
    | refused => split at hquiet <;> simp at hquiet
  | scheduled =>
    refine ⟨rfl, rfl, ?_⟩
    rintro _ ⟨⟩
    exact ⟨rfl, rfl⟩

theorem foldl_sleep_of_early (htimed : runner.timed = true)
    (hearly : ∀ timer, runner.pending = some timer → runner.clock + waits.sum < timer.due) :
    waits.foldl sleep runner = { runner with clock := runner.clock + waits.sum } := by
  induction waits generalizing runner with
  | nil => rfl
  | cons wait rest ih =>
    rw [List.sum_cons] at hearly
    have hslept : runner.sleep wait = { runner with clock := runner.clock + wait } := by
      have hcase := runner.slept wait
      generalize runner.sleep wait = next at hcase ⊢
      cases hcase with
      | untimed huntimed => cases htimed.symm.trans huntimed
      | waited => rfl
      | fired timer _ hpending hdue =>
        have hlate := hearly timer hpending
        omega
    rw [List.foldl_cons, hslept, List.sum_cons, ← Nat.add_assoc]
    refine ih htimed fun timer hpending => ?_
    have hlate := hearly timer hpending
    simp only
    omega

theorem engine_evaluate (runner : Runner) (program : String) :
    (runner.evaluate program).1.engine = runner.engine.evaluate program := by
  unfold evaluate
  split <;> rfl

theorem engine_foldl_sleep_evaluate (runner : Runner) (htimed : runner.timed = true)
    (hpending : runner.pending = none) (program : String) (waits : List Nat) :
    (waits.foldl sleep (runner.evaluate program).1).engine = runner.engine.evaluate program := by
  have hnone := (runner.pending_evaluate program).trans hpending
  have hstill : (runner.evaluate program).1.timed = true :=
    (timed_of_setup (runner.setup_evaluate program)).trans htimed
  rw [foldl_sleep_of_early hstill fun timer htimer => nomatch hnone.symm.trans htimer]
  exact engine_evaluate runner program

/-- However much time passes, at most the pending program is evaluated, and only once. -/
theorem calls_foldl_sleep (htimed : runner.timed = true)
    (hpending : ∀ timer, runner.pending = some timer → timer.program = program) (waits : List Nat) :
    (waits.foldl sleep runner).engine.calls = runner.engine.calls ∨
      (waits.foldl sleep runner).engine.calls = runner.engine.calls ++ [.evaluate program] := by
  induction waits generalizing runner with
  | nil => exact .inl rfl
  | cons wait rest ih =>
    rw [List.foldl_cons]
    have hcase := runner.slept wait
    generalize runner.sleep wait = next at hcase ⊢
    cases hcase with
    | untimed huntimed => cases htimed.symm.trans huntimed
    | waited => exact ih htimed hpending
    | fired timer _ hsome _ =>
      obtain rfl := hpending timer hsome
      refine .inr ?_
      rw [engine_foldl_sleep_evaluate { runner with clock := runner.clock + wait, pending := none }
        htimed rfl]
      exact Engine.calls_evaluate _ _

theorem edit_of_early (htimed : runner.timed = true) {edit : Edit}
    (hquiet : (runner.submit edit.program).2 = .scheduled ∨
      (runner.submit edit.program).2 = .unchanged)
    (hearly : edit.waits.sum < runner.settings.debounce) :
    (runner.edit edit).engine = runner.engine ∧ (runner.edit edit).setup = runner.setup := by
  have hheld := held_submit hquiet
  have hslept : runner.edit edit = { (runner.submit edit.program).1 with
      clock := (runner.submit edit.program).1.clock + edit.waits.sum } := by
    refine foldl_sleep_of_early ((timed_of_setup hheld.setup).trans htimed) fun timer htimer => ?_
    have hdue := (hheld.pending timer htimer).2
    have hsettings : (runner.submit edit.program).1.settings = runner.settings :=
      settings_of_setup hheld.setup
    rw [hsettings] at hdue
    omega
  rw [hslept]
  exact ⟨hheld.engine, hheld.setup⟩

theorem calls_burst (htimed : runner.timed = true) (edits : List Edit) (last : Edit)
    (hearly : ∀ edit ∈ edits, edit.waits.sum < runner.settings.debounce)
    (hquiet : ∀ outcome ∈ runner.outcomes (edits ++ [last]),
      outcome = .scheduled ∨ outcome = .unchanged) :
    ((edits ++ [last]).foldl edit runner).engine.calls = runner.engine.calls ∨
      ((edits ++ [last]).foldl edit runner).engine.calls =
        runner.engine.calls ++ [.evaluate last.program] := by
  induction edits generalizing runner with
  | nil =>
    -- Nothing but the last program can be waiting, whatever was before the burst.
    have hheld := held_submit (hquiet _ (List.mem_singleton.mpr rfl))
    rw [← hheld.engine]
    exact calls_foldl_sleep ((timed_of_setup hheld.setup).trans htimed)
      (fun timer htimer => (hheld.pending timer htimer).1) last.waits
  | cons first rest ih =>
    -- What the first edit leaves waiting is replaced by the next one before it is due.
    obtain ⟨hengine, hsetup⟩ := edit_of_early htimed (hquiet _ List.mem_cons_self)
      (hearly first List.mem_cons_self)
    have hsettings : (runner.edit first).settings = runner.settings := settings_of_setup hsetup
    rw [← hengine]
    refine ih ((timed_of_setup hsetup).trans htimed) (fun edit hedit => ?_) fun outcome houtcome =>
      hquiet outcome (List.mem_cons_of_mem _ houtcome)
    rw [hsettings]
    exact hearly edit (List.mem_cons_of_mem _ hedit)

end Burst

/-- With timers, and on an engine that does not fail, a runner settles on the latest program when
the debounce has passed since the last action, in however many waits. Edits that follow one
another faster than the debounce, none of them heard at once, come to one evaluation at most, of
the last one. -/
theorem settles_on_latest (settings : RunnerSettings) (actions : List Action) :
    let runner := run { settings } actions
    (∀ (waits : List Nat) (extra : Nat),
      let settled := (runner.run (waits.map .sleep)).sleep (settings.debounce - waits.sum + extra)
      settled.pending = none ∧
        (settled.halted = false →
          ∀ program, latestAfter none actions = some program → settled.Shows program)) ∧
    ∀ (edits : List Edit) (last : Edit),
      (∀ edit ∈ edits, edit.waits.sum < settings.debounce) →
      (∀ outcome ∈ runner.outcomes (edits ++ [last]), outcome = .scheduled ∨ outcome = .unchanged) →
      let later := (edits ++ [last]).foldl edit runner
      later.engine.calls = runner.engine.calls ∨
        later.engine.calls = runner.engine.calls ++ [.evaluate last.program] := by
  intro runner
  have h : runner.Settling := (settling_fresh settings).run actions
  have hsettings : runner.settings = settings := settings_of_setup (setup_run { settings } actions)
  constructor
  · intro waits extra settled
    have hwaited := h.run (waits.map .sleep)
    have hpending : settled.pending = none := by
      refine h.pending_sleep waits ?_
      rw [hsettings]
      omega
    have hlatest : settled.latest = latestAfter none actions :=
      calc settled.latest
        _ = (runner.run (waits.map .sleep)).latest := latest_act _ (.sleep _)
        _ = runner.latest := runner.latest_run_sleep waits
        _ = latestAfter none actions := latest_run _ actions
    exact ⟨hpending, fun hactive program hprogram =>
      (hwaited.sleep _).arrived hactive hpending program (hlatest.trans hprogram)⟩
  · intro edits last hearly hquiet
    exact calls_burst h.timed edits last (hsettings ▸ hearly) hquiet

theorem rapid_edits_settle_on_last :
    let kick : Edit := ⟨"$: sound(\"bd\")", [10]⟩
    let hats : Edit := ⟨"$: sound(\"hh\")", [30]⟩
    let settled := ((run {} [.submit kick.program, .submit hats.program]).sleep 10).sleep 20
    ([kick, hats].foldl edit {}).engine.calls = [.evaluate hats.program] ∧
      settled.pending = none ∧ settled.Shows hats.program := by
  have hnothing : run {} [] = {} := rfl
  have hwait (runner : Runner) : runner.run ([10].map .sleep) = runner.sleep 10 := rfl
  have hrest : RunnerSettings.debounce {} - [10].sum + 0 = 20 := rfl
  have hsettles :=
    (settles_on_latest {} [.submit "$: sound(\"bd\")", .submit "$: sound(\"hh\")"]).1 [10] 0
  have hburst := (settles_on_latest {} []).2 [⟨"$: sound(\"bd\")", [10]⟩] ⟨"$: sound(\"hh\")", [30]⟩
    (by decide) (by decide +kernel)
  rw [hnothing] at hburst
  simp only [hwait, hrest] at hsettles
  obtain ⟨hpending, hshows⟩ := hsettles
  refine ⟨?_, hpending, hshows (by decide +kernel) _ rfl⟩
  cases hburst with
  | inl hnone => exact absurd hnone (by decide +kernel)
  | inr hlast => exact hlast

end Patchbay.Runner
