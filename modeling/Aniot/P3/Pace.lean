import Aniot.P3.Chronometer

/-! Whether the chronometer runs fast.

Time is in microseconds. The chronometer's timer fires one period after it was started
and every period after that, and an event is handled when it is posted, so the queue is
always empty and is left out. What happens at the instant the timer is due may come
before it fires or after.

A pause leaves the timer running and a resume does not restart it: its phase goes on. A
period counts whole if the chronometer is active when it ends and not at all if it is
paused then, however long it was active within it. `uncounted` sums
the phases at which active time has been left uncounted, `borrowed` those at which time
that was not active has been taken in; the count is fast when the second is ahead
(`never_fast`, `outruns_runs_fast`). Only a reset stops the timer. -/
namespace Aniot.P3
open Esp

def microsPeriodicChronometer : Nat := 1000000

/-- The chronometer in time. -/
structure Pace where
  chrono : State
  now : Nat
  /-- When the timer was started, or last fired. -/
  since : Nat
  /-- How long the handler's `isTimerActive` was true since the last reset, or since the start. -/
  activeTime : Nat
  /-- The phases of the timer at the pauses since then, and the time active without it. -/
  uncounted : Nat
  /-- The phases of the timer at the resumes since then. -/
  borrowed : Nat

inductive PaceAction where
  | appMain
  | elapse (micros : Nat)
  | fire
  | startStop
  | reset

/-- The event is posted and handled. -/
def State.handles (status : MachineStatus) (run : Nat) (s : State) : State :=
  handleStatus ⟨status, s.epoch, run⟩ (s.handling ⟨status, s.epoch, run⟩)

/-- The timer fires `n` times. -/
def ticks (run : Nat) : Nat → State → State
  | 0, s => s
  | n + 1, s => ticks run n (s.handles .countTimer run)

/-- How far the timer is in its period. -/
def Pace.phase (s : Pace) : Nat := s.now - s.since

/-- Time passes; what fires is what is due before its end. -/
def Pace.elapse (micros : Nat) (s : Pace) : Pace :=
  let active := if s.chrono.handlerCreated && s.chrono.isTimerActive then micros else 0
  match s.chrono.periodicTimerChrono with
  | .running run =>
    let fired := (s.phase + micros - 1) / microsPeriodicChronometer
    {s with
      chrono := ticks run fired s.chrono
      now := s.now + micros
      since := s.since + fired * microsPeriodicChronometer
      activeTime := s.activeTime + active}
  | _ =>
    {s with
      now := s.now + micros
      activeTime := s.activeTime + active
      uncounted := s.uncounted + active}

/-- The timer fires if it is due now. -/
def Pace.fire (s : Pace) : Pace :=
  match s.chrono.periodicTimerChrono with
  | .running run =>
    if s.phase = microsPeriodicChronometer then
      {s with chrono := ticks run 1 s.chrono, since := s.since + microsPeriodicChronometer}
    else s
  | _ => s

/-- The timer's period begins now, unless it has begun already. -/
def Pace.restart (s : Pace) (chrono : State) : Pace :=
  {s with
    chrono := chrono
    since := if s.chrono.periodicTimerChrono.isRunning then s.since else s.now}

def Pace.startStop (s : Pace) : Pace :=
  if s.chrono.handlerCreated then
    let phase := if s.chrono.periodicTimerChrono.isRunning then s.phase else 0
    {s.restart (s.chrono.handles .startStopTimer s.chrono.epoch) with
      uncounted := s.uncounted + if s.chrono.isTimerActive then phase else 0
      borrowed := s.borrowed + if s.chrono.isTimerActive then 0 else phase}
  else s

def Pace.reset (s : Pace) : Pace :=
  if s.chrono.handlerCreated then
    {s with
      chrono := s.chrono.handles .resetTimer s.chrono.epoch
      activeTime := 0
      uncounted := 0
      borrowed := 0}
  else s

def Pace.step (s : Pace) : PaceAction → Pace
  | .appMain => s.restart (P3.appMain s.chrono)
  | .elapse micros => s.elapse micros
  | .fire => s.fire
  | .startStop => s.startStop
  | .reset => s.reset

/-- The chronometer in time, from reset. -/
def pace : Machine Pace PaceAction where
  start :=
    { chrono := State.start
      now := 0
      since := 0
      activeTime := 0
      uncounted := 0
      borrowed := 0 }
  step := Pace.step

/-- The chronometer is resumed with the timer still running, and the phases at the resumes
come to more than those at the pauses. -/
def outruns (s : Pace) : PaceAction → Bool
  | .startStop =>
    s.chrono.handlerCreated && !s.chrono.isTimerActive && s.chrono.periodicTimerChrono.isRunning &&
      s.uncounted < s.borrowed + s.phase
  | _ => false

/-! ### What the events do -/

theorem handles_countTimer (run : Nat) (s : State) :
    (s.handles .countTimer run).appMain = s.appMain ∧
    (s.handles .countTimer run).isTimerActive = s.isTimerActive ∧
    (s.handles .countTimer run).periodicTimerChrono = s.periodicTimerChrono ∧
    (s.handles .countTimer run).countTimer = s.countTimer + if s.isTimerActive then 1 else 0 := by
  cases hon : s.isTimerActive <;> simp [State.handles, handleStatus, State.handling, hon]

theorem handles_startStopTimer (run : Nat) (s : State) :
    (s.handles .startStopTimer run).appMain = s.appMain ∧
    (s.handles .startStopTimer run).isTimerActive = !s.isTimerActive ∧
    (s.handles .startStopTimer run).countTimer = s.countTimer ∧
    (s.handles .startStopTimer run).periodicTimerChrono =
      if s.isTimerActive then s.periodicTimerChrono else s.periodicTimerChrono.startPeriodic s.epoch := by
  cases hon : s.isTimerActive <;>
    simp [State.handles, handleStatus, State.handling, hon, State.epoch, List.countP_append]

theorem handles_resetTimer (run : Nat) (s : State) :
    (s.handles .resetTimer run).appMain = s.appMain ∧
    (s.handles .resetTimer run).isTimerActive = false ∧
    (s.handles .resetTimer run).countTimer = 0 ∧
    (s.handles .resetTimer run).periodicTimerChrono = s.periodicTimerChrono.stop := by
  simp [State.handles, handleStatus, State.handling]

theorem handles_created (status : MachineStatus) (run : Nat) (s : State) :
    (s.handles status run).handlerCreated = s.handlerCreated := by
  obtain ⟨active, count, counted, timer, heq⟩ := handleStatus_frame ⟨status, s.epoch, run⟩
    (s.handling ⟨status, s.epoch, run⟩)
  rw [State.handles, heq]
  rfl

theorem ticks_eq (run n : Nat) (s : State) :
    (ticks run n s).appMain = s.appMain ∧
    (ticks run n s).handlerCreated = s.handlerCreated ∧
    (ticks run n s).isTimerActive = s.isTimerActive ∧
    (ticks run n s).periodicTimerChrono = s.periodicTimerChrono ∧
    (ticks run n s).countTimer = s.countTimer + if s.isTimerActive then n else 0 := by
  induction n generalizing s with
  | zero => simp [ticks]
  | succ n ih =>
    obtain ⟨hm, hon, htimer, hcount⟩ := handles_countTimer run s
    obtain ⟨hm', hcreated', hon', htimer', hcount'⟩ := ih (s.handles .countTimer run)
    rw [ticks, hm', hcreated', hon', htimer', hcount', hm, hon, htimer, hcount, handles_created]
    refine ⟨rfl, rfl, rfl, rfl, ?_⟩
    split <;> omega

/-! ### Where the count stands -/

/-- The timer runs and what it counts is counted. -/
def Pace.counting (s : Pace) : Bool :=
  s.chrono.isTimerActive && s.chrono.periodicTimerChrono.isRunning

/-- The active time is what has been counted, and what has not yet. -/
structure PaceInv (s : Pace) : Prop where
  handler : s.chrono.appMain ≠ .createHandler → s.chrono.handlerCreated = true
  created : s.chrono.appMain ≠ .startChrono → s.chrono.appMain ≠ .deleted →
    s.chrono.periodicTimerChrono = .null
  phase : s.chrono.periodicTimerChrono.isRunning = true →
    s.since ≤ s.now ∧ s.now ≤ s.since + microsPeriodicChronometer
  time : s.activeTime + s.borrowed =
    s.chrono.countTimer * microsPeriodicChronometer + s.uncounted + if s.counting then s.phase else 0

theorem pace_start_inv : PaceInv pace.start := ⟨fun h => absurd rfl h, fun _ _ => rfl, nofun, rfl⟩

/-- The timer is there only after the handler. -/
theorem PaceInv.handler_created {s : Pace} (h : PaceInv s)
    (hrunning : s.chrono.periodicTimerChrono.isRunning = true) : s.chrono.handlerCreated = true := by
  refine h.handler fun hm => ?_
  rw [h.created (by rw [hm]; nofun) (by rw [hm]; nofun)] at hrunning
  cases hrunning

theorem isRunning_running {ρ : Type} {t : Timer ρ} {run : ρ} (h : t = .running run) :
    t.isRunning = true := by
  rw [h]
  rfl

/-- What fires before the end of some time leaves the timer in its period. -/
theorem fired_phase (phase micros : Nat) :
    (phase + micros - 1) / microsPeriodicChronometer * microsPeriodicChronometer ≤ phase + micros ∧
    phase + micros ≤
      (phase + micros - 1) / microsPeriodicChronometer * microsPeriodicChronometer +
        microsPeriodicChronometer := by
  unfold microsPeriodicChronometer
  omega

theorem counting_active {s : Pace} (hrunning : s.chrono.periodicTimerChrono.isRunning = true) :
    s.counting = s.chrono.isTimerActive := by
  rw [Pace.counting, hrunning, Bool.and_true]

theorem counting_still {s : Pace} (hstill : s.chrono.periodicTimerChrono.isRunning = false) :
    s.counting = false := by
  rw [Pace.counting, hstill, Bool.and_false]

/-- Time passes and the timer fires `n` times, so that it stands in its period again. -/
theorem ticks_inv {s : Pace} {run : Nat} (h : PaceInv s)
    (htimer : s.chrono.periodicTimerChrono = .running run) (n micros : Nat)
    (hlow : n * microsPeriodicChronometer ≤ s.phase + micros)
    (hhigh : s.phase + micros ≤ n * microsPeriodicChronometer + microsPeriodicChronometer) :
    PaceInv {s with
      chrono := ticks run n s.chrono
      now := s.now + micros
      since := s.since + n * microsPeriodicChronometer
      activeTime := s.activeTime +
        if s.chrono.handlerCreated && s.chrono.isTimerActive then micros else 0} := by
  have hrunning : s.chrono.periodicTimerChrono.isRunning = true := isRunning_running htimer
  obtain ⟨hm, hcreated, hon, htimer', hcount⟩ := ticks_eq run n s.chrono
  obtain ⟨hsince, hnow⟩ := h.phase hrunning
  have htime := h.time
  rw [counting_active hrunning, Pace.phase] at htime
  rw [Pace.phase] at hlow hhigh
  rw [h.handler_created hrunning, Bool.true_and]
  refine ⟨?_, ?_, fun _ => ?_, ?_⟩
  · rw [hm, hcreated]
    exact h.handler
  · rw [hm, htimer']
    exact h.created
  · dsimp only
    omega
  · rw [counting_active (by dsimp only; rw [htimer']; exact hrunning)]
    simp only [Pace.phase, hon, hcount]
    cases hactive : s.chrono.isTimerActive with
    | false => simpa [hactive] using htime
    | true =>
      simp only [hactive, if_true, Nat.add_mul] at htime ⊢
      omega

theorem elapse_inv {s : Pace} (h : PaceInv s) (micros : Nat) : PaceInv (s.elapse micros) := by
  unfold Pace.elapse
  dsimp only
  split
  · next run htimer =>
    obtain ⟨hlow, hhigh⟩ := fired_phase s.phase micros
    exact ticks_inv h htimer _ micros hlow hhigh
  · next hnot =>
    have hstill : s.chrono.periodicTimerChrono.isRunning = false := by
      cases htimer : s.chrono.periodicTimerChrono with
      | running run => exact absurd htimer (hnot run)
      | _ => rfl
    have htime := h.time
    rw [counting_still hstill] at htime
    refine ⟨h.handler, h.created, fun hrunning => absurd hrunning (by rw [hstill]; nofun), ?_⟩
    rw [counting_still (by exact hstill)]
    simp only [Bool.false_eq_true, if_false] at htime ⊢
    omega

theorem fire_inv {s : Pace} (h : PaceInv s) : PaceInv s.fire := by
  unfold Pace.fire
  split
  · next run htimer =>
    split
    · next hdue =>
      have hticks := ticks_inv h htimer 1 0 (by rw [hdue, Nat.one_mul, Nat.add_zero])
        (by rw [hdue]; omega)
      simpa only [Nat.one_mul, Nat.add_zero, ite_self] using hticks
    · exact h
  · exact h

/-- Where the period of a timer stands that was running, or has just been started. -/
theorem restart_phase {s : Pace} (h : PaceInv s) (chrono : State) :
    (s.restart chrono).since ≤ s.now ∧ s.now ≤ (s.restart chrono).since + microsPeriodicChronometer := by
  cases hrunning : s.chrono.periodicTimerChrono.isRunning with
  | true =>
    rw [Pace.restart, hrunning]
    exact h.phase hrunning
  | false =>
    rw [Pace.restart, hrunning]
    exact ⟨Nat.le_refl _, Nat.le_add_right _ _⟩

theorem startStop_inv {s : Pace} (h : PaceInv s) : PaceInv s.startStop := by
  unfold Pace.startStop
  split
  · obtain ⟨hm, hon, hcount, htimer⟩ := handles_startStopTimer s.chrono.epoch s.chrono
    have htime := h.time
    refine ⟨?_, ?_, fun _ => restart_phase h (s.chrono.handles .startStopTimer s.chrono.epoch), ?_⟩
    · dsimp only [Pace.restart]
      rw [hm, handles_created]
      exact h.handler
    · dsimp only [Pace.restart]
      rw [hm, htimer]
      intro hstart hdone
      rw [h.created hstart hdone]
      split <;> rfl
    · simp only [Pace.counting, Pace.phase, Pace.restart, hon, hcount, htimer] at htime ⊢
      cases hactive : s.chrono.isTimerActive with
      | true =>
        simp [hactive] at htime ⊢
        omega
      | false =>
        cases hrunning : s.chrono.periodicTimerChrono.isRunning with
        | true =>
          simp [hactive, hrunning, Timer.startPeriodic_of_running hrunning] at htime ⊢
          omega
        | false =>
          simp [hactive] at htime ⊢
          omega
  · exact h

/-- What `app_main` does to the timer and what it leaves alone. -/
theorem appMain_timer (s : State) :
    (P3.appMain s).isTimerActive = s.isTimerActive ∧ (P3.appMain s).countTimer = s.countTimer ∧
    ((P3.appMain s).periodicTimerChrono = s.periodicTimerChrono ∧
        (s.appMain = .startChrono ∨ s.appMain = .deleted → (P3.appMain s).appMain = .deleted) ∨
      s.appMain = .createChrono ∧ (P3.appMain s).appMain = .startChrono ∧
        (P3.appMain s).periodicTimerChrono = s.periodicTimerChrono.create ∨
      s.appMain = .startChrono ∧ (P3.appMain s).appMain = .deleted ∧
        (P3.appMain s).periodicTimerChrono = s.periodicTimerChrono.startPeriodic s.epoch) := by
  unfold P3.appMain
  split
  case h_6 hm => exact ⟨rfl, rfl, .inr (.inl ⟨hm, rfl, rfl⟩)⟩
  case h_7 hm => exact ⟨rfl, rfl, .inr (.inr ⟨hm, rfl, rfl⟩)⟩
  case h_8 hm => exact ⟨rfl, rfl, .inl ⟨rfl, fun _ => hm⟩⟩
  all_goals next hm => exact ⟨rfl, rfl, .inl ⟨rfl, by rw [hm]; simp⟩⟩

theorem appMain_inv {s : Pace} (h : PaceInv s) : PaceInv (s.restart (P3.appMain s.chrono)) := by
  obtain ⟨hon, hcount, htimer⟩ := appMain_timer s.chrono
  have htime := h.time
  refine ⟨fun _ => appMain_created h.handler, ?_, fun _ => restart_phase h (P3.appMain s.chrono), ?_⟩
  · dsimp only [Pace.restart]
    intro hstart hdone
    rcases htimer with ⟨hkeeps, hlater⟩ | ⟨_, hm, _⟩ | ⟨_, hm, _⟩
    · rw [hkeeps]
      exact h.created (fun hm => hdone (hlater (.inl hm))) (fun hm => hdone (hlater (.inr hm)))
    · exact absurd hm hstart
    · exact absurd hm hdone
  · simp only [Pace.counting, Pace.phase, Pace.restart, hon, hcount] at htime ⊢
    rcases htimer with ⟨hkeeps, -⟩ | ⟨hm, -, hcreates⟩ | ⟨hm, -, hstarts⟩
    · rw [hkeeps]
      cases hrunning : s.chrono.periodicTimerChrono.isRunning with
      | true => simpa [hrunning] using htime
      | false => simpa [hrunning] using htime
    · have hnull := h.created (by rw [hm]; nofun) (by rw [hm]; nofun)
      simpa [hcreates, hnull, Timer.isRunning] using htime
    · rw [hstarts]
      cases hrunning : s.chrono.periodicTimerChrono.isRunning with
      | true => simpa [hrunning, Timer.startPeriodic_of_running hrunning] using htime
      | false => simpa [hrunning] using htime

theorem reset_inv {s : Pace} (h : PaceInv s) : PaceInv s.reset := by
  unfold Pace.reset
  split
  · obtain ⟨hm, hon, hcount, htimer⟩ := handles_resetTimer s.chrono.epoch s.chrono
    have hstill : (s.chrono.handles .resetTimer s.chrono.epoch).periodicTimerChrono.isRunning = false := by
      rw [htimer, Timer.isRunning_stop]
    refine ⟨?_, ?_, ?_, ?_⟩
    · rw [hm, handles_created]
      exact h.handler
    · rw [hm, htimer]
      intro hstart hdone
      rw [h.created hstart hdone]
      rfl
    · intro hrunning
      rw [hstill] at hrunning
      cases hrunning
    · rw [counting_still (by exact hstill)]
      dsimp only
      rw [hcount, Nat.zero_mul]
      rfl
  · exact h

theorem pace_step_inv {s : Pace} (h : PaceInv s) (a : PaceAction) : PaceInv (s.step a) := by
  cases a with
  | appMain => exact appMain_inv h
  | elapse micros => exact elapse_inv h micros
  | fire => exact fire_inv h
  | startStop => exact startStop_inv h
  | reset => exact reset_inv h

theorem pace_inv (actions : List PaceAction) : PaceInv (pace.run actions) :=
  Machine.run_invariant pace pace_start_inv (fun _ a h => pace_step_inv h a) actions

/-! ### Fast or not -/

/-- No more has been taken in than was left uncounted, and no step but an outrunning one
changes that. -/
theorem step_borrowed {s : Pace} {a : PaceAction} (hC : outruns s a = false)
    (h : s.borrowed ≤ s.uncounted) : (s.step a).borrowed ≤ (s.step a).uncounted := by
  cases a with
  | appMain => exact h
  | elapse micros =>
    simp only [Pace.step, Pace.elapse]
    split
    · exact h
    · exact Nat.le_trans h (Nat.le_add_right _ _)
  | fire =>
    simp only [Pace.step, Pace.fire]
    split
    · split <;> exact h
    · exact h
  | startStop =>
    simp only [Pace.step, Pace.startStop]
    split
    · next hcreated =>
      simp only [outruns, hcreated, Bool.true_and] at hC
      cases hactive : s.chrono.isTimerActive with
      | true => simpa using Nat.le_trans h (Nat.le_add_right _ _)
      | false =>
        cases hrunning : s.chrono.periodicTimerChrono.isRunning with
        | true => simpa [hactive, hrunning] using hC
        | false => simpa using h
    · exact h
  | reset =>
    simp only [Pace.step, Pace.reset]
    split
    · exact Nat.le_refl 0
    · exact h

/-- The count is slow as long as no more has been taken in than was left uncounted. -/
theorem not_fast {s : Pace} (h : PaceInv s) (hborrowed : s.borrowed ≤ s.uncounted) :
    s.chrono.countTimer * microsPeriodicChronometer ≤ s.activeTime := by
  have htime := h.time
  omega

/-- **In a run in which the resumes never outrun the pauses, the chronometer never shows more
than the time it was active.** -/
theorem never_fast (actions : List PaceAction)
    (hC : pace.Meets (fun s a => outruns s a = false) pace.start actions) :
    let s := pace.run actions
    s.chrono.countTimer * microsPeriodicChronometer ≤ s.activeTime := by
  intro s
  have hstep (t : Pace) (a : PaceAction) (hC : outruns t a = false) (h : t.borrowed ≤ t.uncounted) :
      (t.step a).borrowed ≤ (t.step a).uncounted := step_borrowed hC h
  have hborrowed : s.borrowed ≤ s.uncounted := Machine.Meets.invariant hstep hC (Nat.le_refl 0)
  exact not_fast (pace_inv actions) hborrowed

/-- A pause in the middle of a period, and a resume at the same phase of a later one. -/
theorem never_fast_same_phase :
    let s := pace.run (List.replicate 7 .appMain ++
      [.elapse 1500000, .startStop, .elapse 2000000, .startStop, .elapse 700000])
    s.chrono.countTimer * microsPeriodicChronometer ≤ s.activeTime :=
  never_fast _ (by decide)

/-- A resume on a running timer takes its phase in. -/
theorem resume_running {s : Pace} (hcreated : s.chrono.handlerCreated = true)
    (hactive : s.chrono.isTimerActive = false)
    (hrunning : s.chrono.periodicTimerChrono.isRunning = true) :
    s.startStop.chrono.periodicTimerChrono = s.chrono.periodicTimerChrono ∧
    s.startStop.phase = s.phase ∧ s.startStop.uncounted = s.uncounted ∧
    s.startStop.borrowed = s.borrowed + s.phase := by
  obtain ⟨_, _, _, htimer⟩ := handles_startStopTimer s.chrono.epoch s.chrono
  rw [hactive] at htimer
  rw [if_neg Bool.false_ne_true, Timer.startPeriodic_of_running hrunning] at htimer
  simp only [Pace.startStop, if_pos hcreated, hactive, hrunning, Pace.restart, Pace.phase,
    Bool.false_eq_true, if_false, if_true, Nat.add_zero]
  exact ⟨htimer, trivial, trivial, trivial⟩

/-- Time passes up to the instant the timer is due, and it fires. -/
theorem elapse_fire {s : Pace} {run : Nat} (htimer : s.chrono.periodicTimerChrono = .running run)
    (hphase : s.phase ≤ microsPeriodicChronometer) (hsince : s.since ≤ s.now) :
    let t := (s.elapse (microsPeriodicChronometer - s.phase)).fire
    t.phase = 0 ∧ t.uncounted = s.uncounted ∧ t.borrowed = s.borrowed := by
  have hfired : (s.phase + (microsPeriodicChronometer - s.phase) - 1) / microsPeriodicChronometer = 0 := by
    rw [Nat.add_sub_of_le hphase]
    rfl
  have helapse : s.elapse (microsPeriodicChronometer - s.phase) =
      {s with
        now := s.now + (microsPeriodicChronometer - s.phase)
        activeTime := s.activeTime +
          if s.chrono.handlerCreated && s.chrono.isTimerActive then microsPeriodicChronometer - s.phase
          else 0} := by
    simp only [Pace.elapse, htimer, hfired, ticks, Nat.zero_mul, Nat.add_zero]
  have hdue : s.now + (microsPeriodicChronometer - s.phase) = s.since + microsPeriodicChronometer := by
    rw [Pace.phase] at hphase ⊢
    omega
  intro t
  have ht : t = {s.elapse (microsPeriodicChronometer - s.phase) with
      chrono := ticks run 1 s.chrono
      since := s.since + microsPeriodicChronometer} := by
    show (s.elapse (microsPeriodicChronometer - s.phase)).fire = _
    rw [helapse]
    simp only [Pace.fire, htimer, Pace.phase]
    rw [Pace.phase] at hdue
    apply if_pos
    rw [hdue, Nat.add_sub_cancel_left]
  rw [ht, helapse]
  refine ⟨?_, rfl, rfl⟩
  show s.now + (microsPeriodicChronometer - s.phase) - (s.since + microsPeriodicChronometer) = 0
  rw [hdue, Nat.sub_self]

/-- Where a resume outruns the pauses, the chronometer is fast when the timer next fires. -/
theorem outruns_runs_fast (actions : List PaceAction)
    (hout : outruns (pace.run actions) .startStop = true) :
    let s := pace.run (actions ++ [.startStop,
      .elapse (microsPeriodicChronometer - (pace.run actions).phase), .fire])
    s.activeTime < s.chrono.countTimer * microsPeriodicChronometer := by
  intro s
  have hs : PaceInv s := pace_inv _
  have hrun : s = ((pace.run actions).startStop.elapse
      (microsPeriodicChronometer - (pace.run actions).phase)).fire := pace.run_append _ _
  have hinv := pace_inv actions
  generalize pace.run actions = u at hout hrun hinv
  simp only [outruns, Bool.and_eq_true, Bool.not_eq_true', decide_eq_true_eq] at hout
  obtain ⟨⟨⟨hcreated, hactive⟩, hrunning⟩, hmore⟩ := hout
  obtain ⟨htimer, hphase, huncounted, hborrowed⟩ := resume_running hcreated hactive hrunning
  obtain ⟨run, hrunning'⟩ : ∃ run, u.startStop.chrono.periodicTimerChrono = .running run := by
    rw [htimer]
    cases ht : u.chrono.periodicTimerChrono with
    | running run => exact ⟨run, rfl⟩
    | _ => rw [ht] at hrunning; cases hrunning
  have hnext := (startStop_inv hinv).phase (isRunning_running hrunning')
  have hfires := elapse_fire hrunning' (by rw [Pace.phase]; omega) hnext.1
  rw [hphase, ← hrun] at hfires
  obtain ⟨hphase', huncounted', hborrowed'⟩ := hfires
  have htime := hs.time
  rw [hphase', ite_self, Nat.add_zero] at htime
  omega

/-- Paused at the start of a period and resumed just before its end. -/
theorem resume_counts_pause :
    ¬ ∀ actions, let s := pace.run actions
      s.chrono.countTimer * microsPeriodicChronometer ≤ s.activeTime :=
  fun h => absurd (h (List.replicate 7 .appMain ++
    [.startStop, .elapse 900000, .startStop, .elapse 100000, .fire])) (by decide)

end Aniot.P3
