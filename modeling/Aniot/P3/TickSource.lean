import Aniot.P3.Chronometer

/-! An active chronometer has a running tick source.

The handler runs before the chronometer's timer exists, so its first starts and stops
may find NULL. `Sourced` says what `app_main` has reached: from `esp_timer_create` on
the handle is not NULL, and from the start on an active chronometer's timer runs. A
press that stops the chronometer leaves the timer running; a reset stops both. -/
namespace Aniot.P3
open Esp

structure Sourced (s : State) : Prop where
  created : s.appMain = .startChrono ∨ s.appMain = .deleted → s.periodicTimerChrono ≠ .null
  running : s.appMain = .deleted → s.isTimerActive = true →
    ∃ run, s.periodicTimerChrono = .running run

theorem sendMachineState_sourced {status : MachineStatus} {run : Nat} {s : State} (h : Sourced s) :
    Sourced (sendMachineState status run s) := by
  rcases sendMachineState_cases status run s with ⟨q, _, heq⟩ | ⟨_, heq⟩ <;> rw [heq] <;>
    exact ⟨h.created, h.running⟩

theorem handleStatus_sourced (e : Posted) {s : State} (h : Sourced s) : Sourced (handleStatus e s) := by
  obtain ⟨hcreated, hrunning⟩ := h
  unfold handleStatus
  split
  · split <;> exact ⟨hcreated, hrunning⟩
  · dsimp only
    split
    · exact ⟨fun hm hnull => hcreated hm (Timer.startPeriodic_null.mp hnull),
        fun hm _ => Timer.startPeriodic_running _ (hcreated (.inr hm))⟩
    · next hoff => exact ⟨hcreated, fun _ hon => absurd hon hoff⟩
  · exact ⟨fun hm hnull => hcreated hm (Timer.stop_null.mp hnull), fun _ hon => absurd hon nofun⟩

theorem moves_sourced (s : State) (a : Action) (s' : State) (h : Sourced s) (hm : Moves s a s') :
    Sourced s' := by
  cases hm with
  | starts hm => exact ⟨fun h => absurd h (by simpa using hm), fun h => absurd h hm.2⟩
  | creates hm => exact ⟨fun _ => nofun, nofun⟩
  | launches hm =>
    have hnull : s.periodicTimerChrono ≠ .null := h.created (.inl hm)
    exact ⟨fun _ hstart => hnull (Timer.startPeriodic_null.mp hstart),
      fun _ _ => Timer.startPeriodic_running _ hnull⟩
  | presses ht => exact sendMachineState_sourced ⟨h.created, h.running⟩
  | ticks run htick => exact sendMachineState_sourced ⟨h.created, h.running⟩
  | resets value => exact sendMachineState_sourced h
  | handles e hh => exact handleStatus_sourced e ⟨h.created, h.running⟩
  | _ => exact ⟨h.created, h.running⟩

/-- **Once `app_main` has started the chronometer's timer, the timer runs whenever the
handler is between two events with the chronometer active.** -/
theorem active_has_tick_source (b : Build) (actions : List Action) :
    let s := (chronometer b).run actions
    s.appMain = .deleted → s.handler = .receiving → s.isTimerActive = true →
      ∃ run, s.periodicTimerChrono = .running run := by
  intro s hdone _ hactive
  have hsourced : Sourced s := chronometer_invariant ⟨nofun, nofun⟩ moves_sourced b actions
  exact hsourced.running hdone hactive

/-- After a reset and a press, in the hall sensor's build. -/
theorem restarted_has_tick_source :
    ∃ run, ((chronometer ⟨false, fun _ => 0⟩).run (List.replicate 7 .appMain ++
      [.sensor 0, .handler, .handler, .isr 1, .touch, .touch, .handler, .handler])).periodicTimerChrono =
        .running run :=
  active_has_tick_source _ _ (by decide) (by decide) (by decide)

end Aniot.P3
