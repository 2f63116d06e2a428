import Aniot.P3.Chronometer

/-! Whether a tick outlives the reset that stopped its timer.

The handler stops the timer when it handles a reset, so ticks posted before that may
still be waiting behind it. They are harmless while the chronometer stays stopped: a
tick counts only when it is active. A press handled before them makes it active again,
and then they count for a run they do not belong to. `Fresh` is kept by every step
that does not restart the chronometer with such a tick waiting. -/
namespace Aniot.P3
open Esp

/-- The handler is about to restart the chronometer while a tick of a run started before
the last handled reset waits in the queue, or for its callback to post it. -/
def restartsStale (s : State) : Action → Bool
  | .handler =>
    match s.handler with
    | .receiving => false
    | .handling e =>
      e.status = .startStopTimer && !s.isTimerActive &&
        (s.tick.any (· ≠ s.epoch) ||
          s.queueOut.items.any fun p => p.status = .countTimer && p.run ≠ s.epoch)
  | _ => false

/-- The ticks that may still be counted are those of the run since the last reset. -/
def Waiting (s : State) : Prop :=
  (∀ run, s.tick = some run → run = s.epoch) ∧
    ∀ e ∈ s.handler.held ++ s.queueOut.items, e.status = .countTimer → e.run = s.epoch

structure Fresh (s : State) : Prop where
  length : s.countTimer = s.counted.length
  timer : ∀ run, s.periodicTimerChrono = .running run → run = s.epoch
  /-- A tick was fired before it was posted, and posted by now. -/
  tick : ∀ run, s.tick = some run → run ≤ s.epoch
  marks : ∀ e ∈ s.handler.held ++ s.queueOut.items, e.run ≤ e.epoch ∧ e.epoch ≤ s.epoch
  active : s.isTimerActive = true → Waiting s
  counted : ∀ e ∈ s.counted, e.epoch = s.epoch ∧ e.run = s.epoch

theorem sendMachineState_fresh {status : MachineStatus} {run : Nat} {s : State} (h : Fresh s)
    (hrun : run ≤ s.epoch)
    (hactive : s.isTimerActive = true → status = .countTimer → run = s.epoch) :
    Fresh (sendMachineState status run s) := by
  rcases sendMachineState_cases status run s with ⟨q, hq, heq⟩ | ⟨_, heq⟩ <;> rw [heq]
  · have hmem : ∀ e ∈ s.handler.held ++ q.items,
        e ∈ s.handler.held ++ s.queueOut.items ∨ e = ⟨status, s.epoch, run⟩ := by
      intro e he
      rw [hq, ← List.append_assoc] at he
      exact (List.mem_append.mp he).imp_right List.mem_singleton.mp
    refine ⟨h.length, h.timer, h.tick, fun e he => ?_, fun hon => ⟨(h.active hon).1, fun e he => ?_⟩,
      h.counted⟩
    · rcases hmem e he with he | rfl
      · exact h.marks e he
      · exact ⟨hrun, Nat.le_refl _⟩
    · rcases hmem e he with he | rfl
      · exact (h.active hon).2 e he
      · exact hactive hon
  · exact ⟨h.length, h.timer, h.tick, h.marks, h.active, h.counted⟩

theorem epoch_handling (s : State) (e : Posted) :
    (s.handling e).epoch = s.epoch + if e.status = .resetTimer then 1 else 0 := by
  simp [State.epoch, State.handling, List.countP_append, List.countP_singleton]

theorem waiting_handling {s : State} {e : Posted} (he : e.status ≠ .resetTimer) (h : Waiting s) :
    Waiting (s.handling e) := by
  have hepoch : (s.handling e).epoch = s.epoch := by rw [epoch_handling, if_neg he, Nat.add_zero]
  unfold Waiting
  rw [hepoch]
  exact ⟨h.1, fun p hp => h.2 p (List.mem_append_right _ hp)⟩

theorem fresh_handling {s : State} {e : Posted} (he : e.status ≠ .resetTimer) (h : Fresh s) :
    Fresh (s.handling e) := by
  have hepoch : (s.handling e).epoch = s.epoch := by rw [epoch_handling, if_neg he, Nat.add_zero]
  refine ⟨h.length, ?_, ?_, ?_, fun hon => waiting_handling he (h.active hon), ?_⟩ <;> rw [hepoch]
  · exact h.timer
  · exact h.tick
  · exact fun p hp => h.marks p (List.mem_append_right _ hp)
  · exact h.counted

/-- At a restart that meets the condition nothing waits from an earlier run. -/
theorem waiting_restart {e : Posted} {s : State} (hh : s.handler = .handling e)
    (hstatus : e.status = .startStopTimer) (hoff : s.isTimerActive = false)
    (hC : restartsStale s .handler = false) : Waiting (s.handling e) := by
  have hepoch : (s.handling e).epoch = s.epoch := by simp [epoch_handling, hstatus]
  simp only [restartsStale, hh, hstatus, hoff, decide_true, Bool.not_false, Bool.true_and,
    Bool.or_eq_false_iff, List.any_eq_false] at hC
  obtain ⟨htick, hqueue⟩ := hC
  unfold Waiting
  rw [hepoch]
  refine ⟨fun run hr => ?_, fun p hp hp' => ?_⟩
  · rw [show s.tick = some run from hr] at htick
    simpa using htick
  · simpa [hp'] using hqueue p hp

theorem handleStatus_fresh {e : Posted} {s : State} (h : Fresh s) (hh : s.handler = .handling e)
    (hC : restartsStale s .handler = false) : Fresh (handleStatus e (s.handling e)) := by
  have hheld : e ∈ s.handler.held ++ s.queueOut.items := by simp [hh, HandlerTask.held]
  unfold handleStatus
  cases hstatus : e.status with
  | countTimer =>
    have hne : e.status ≠ .resetTimer := by rw [hstatus]; nofun
    have ht := fresh_handling hne h
    dsimp only
    split
    · next hon =>
      have hrun : e.run = s.epoch := (h.active hon).2 e hheld hstatus
      have hmarks := h.marks e hheld
      have hepoch : (s.handling e).epoch = s.epoch := by rw [epoch_handling, if_neg hne, Nat.add_zero]
      refine ⟨?_, ht.timer, ht.tick, ht.marks, ht.active, fun p hp => ?_⟩
      · show s.countTimer + 1 = (s.counted ++ [e]).length
        rw [h.length, List.length_append, List.length_singleton]
      · rcases List.mem_append.mp hp with hp | hp
        · exact ht.counted p hp
        · rw [List.mem_singleton.mp hp]
          show e.epoch = (s.handling e).epoch ∧ e.run = (s.handling e).epoch
          omega
    · exact ht
  | startStopTimer =>
    have hne : e.status ≠ .resetTimer := by rw [hstatus]; nofun
    have ht := fresh_handling hne h
    dsimp only
    split
    · next hon =>
      have hoff : s.isTimerActive = false := by simpa [State.handling] using hon
      have hwaiting := waiting_restart hh hstatus hoff hC
      exact ⟨ht.length, fun run hr => (Timer.startPeriodic_mark hr).elim id (ht.timer run), ht.tick,
        ht.marks, fun _ => hwaiting, ht.counted⟩
    · next hoff => exact ⟨ht.length, ht.timer, ht.tick, ht.marks, fun hon => absurd hon hoff, ht.counted⟩
  | resetTimer =>
    have hepoch : (s.handling e).epoch = s.epoch + 1 := by rw [epoch_handling, if_pos hstatus]
    refine ⟨rfl, fun run hr => absurd hr Timer.stop_not_running, fun run hr => ?_, fun p hp => ?_,
      nofun, nofun⟩
    · show run ≤ (s.handling e).epoch
      have := h.tick run hr
      omega
    · have := h.marks p (List.mem_append_right _ hp)
      show p.run ≤ p.epoch ∧ p.epoch ≤ (s.handling e).epoch
      omega

theorem moves_fresh {s : State} {a : Action} {s' : State} (hC : restartsStale s a = false)
    (h : Fresh s) (hm : Moves s a s') : Fresh s' := by
  cases hm with
  | launches hm =>
    refine ⟨h.length, fun run hr => ?_, h.tick, h.marks, h.active, h.counted⟩
    exact (Timer.startPeriodic_mark hr).elim id (h.timer run)
  | creates hm => exact ⟨h.length, nofun, h.tick, h.marks, h.active, h.counted⟩
  | presses ht =>
    exact sendMachineState_fresh ⟨h.length, h.timer, h.tick, h.marks, h.active, h.counted⟩ le_rfl nofun
  | fires run htick htimer =>
    have hrun := h.timer run htimer
    refine ⟨h.length, h.timer, fun r hr => ?_, h.marks, fun hon => ⟨fun r hr => ?_, (h.active hon).2⟩,
      h.counted⟩
    · exact (Option.some.inj hr ▸ hrun).le
    · exact Option.some.inj hr ▸ hrun
  | ticks run htick =>
    refine sendMachineState_fresh ⟨h.length, h.timer, nofun, h.marks,
      fun hon => ⟨nofun, (h.active hon).2⟩, h.counted⟩ (h.tick run htick) fun hon _ => ?_
    exact (h.active hon).1 run htick
  | resets value => exact sendMachineState_fresh h le_rfl nofun
  | receives e q hh hq =>
    have hmem : ∀ p ∈ e :: q.items, p ∈ s.handler.held ++ s.queueOut.items := by
      intro p hp
      rw [hq]
      exact List.mem_append_right _ hp
    exact ⟨h.length, h.timer, h.tick, fun p hp => h.marks p (hmem p hp),
      fun hon => ⟨(h.active hon).1, fun p hp => (h.active hon).2 p (hmem p hp)⟩, h.counted⟩
  | handles e hh => exact handleStatus_fresh h hh hC
  | _ => exact ⟨h.length, h.timer, h.tick, h.marks, h.active, h.counted⟩

theorem start_fresh : Fresh State.start :=
  ⟨rfl, nofun, nofun, nofun, fun _ => ⟨nofun, nofun⟩, nofun⟩

/-- **In a run that never restarts the chronometer with a tick of an earlier run waiting,
the count is that of ticks fired and posted since the last handled reset, by the run of
the timer started since.** -/
theorem count_is_fresh (b : Build) (actions : List Action)
    (hC : (chronometer b).Meets (fun s a => restartsStale s a = false) State.start actions) :
    let s := (chronometer b).run actions
    s.countTimer = s.counted.length ∧ ∀ e ∈ s.counted, e.epoch = s.epoch ∧ e.run = s.epoch := by
  intro s
  have hfresh : Fresh s :=
    Machine.Meets.invariant (fun s a hC h => moves_fresh hC h (step_moves b s a)) hC start_fresh
  exact ⟨hfresh.length, hfresh.counted⟩

/-- The hall sensor's build, started; a magnet passes, and the pad is touched. -/
def resetThenPress : List Action :=
  List.replicate 7 .appMain ++ [.sensor 0, .isr 1, .touch, .touch]

/-- The timer fires after the handler is done with both. -/
theorem count_is_fresh_restarted :
    let s := (chronometer ⟨false, fun _ => 0⟩).run
      (resetThenPress ++ List.replicate 4 .handler ++ [.chrono, .chrono, .handler, .handler])
    s.countTimer = s.counted.length ∧ ∀ e ∈ s.counted, e.epoch = s.epoch ∧ e.run = s.epoch :=
  count_is_fresh _ _ (by decide)

/-- The timer fires before the handler comes to either: stopped, then restarted, the
chronometer counts the tick of the old run. -/
theorem stale_tick_counted :
    ¬ ∀ (b : Build) (actions : List Action),
      let s := (chronometer b).run actions
      ∀ e ∈ s.counted, e.epoch = s.epoch ∧ e.run = s.epoch :=
  fun h => absurd (h ⟨false, fun _ => 0⟩
    (resetThenPress ++ [.chrono, .chrono] ++ List.replicate 6 .handler)) (by decide)

end Aniot.P3
