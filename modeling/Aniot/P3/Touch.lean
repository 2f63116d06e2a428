import Aniot.P3.Chronometer

/-! The touch flag, between the interrupt that sets it and the task that sends for it.

The sends are the times the flag went from false to true, short of the one the task
has still to send for. This holds for any interleaving, since only the interrupt sets
the flag and the task clears it only after its send. -/
namespace Aniot.P3

/-- The flag of the pad that starts and stops the chronometer. -/
def State.flag (s : State) : Bool := s.sPadActivated touchPadPin0

/-- The flag is set and the task has not sent for it. -/
def State.unsent (s : State) : Nat := if s.flag && s.touch ≠ .clearing then 1 else 0

/-- The flag is set until the task has sent for it and clears it. -/
def Armed (s : State) : Prop := s.touch ≠ .checking → s.flag = true

/-- The task is at its check whenever the flag is false. -/
theorem checking_of_flag {s : State} (h : Armed s) (hf : s.flag = false) : s.touch = .checking := by
  by_contra hne
  rw [h hne] at hf
  cases hf

/-! ### What a step does to the flag -/

/-- What a step may do to the flag, to the touch task and to the number of its sends. -/
inductive Hands (s : State) : Action → State → Prop where
  | keeps (a : Action) (s' : State) (ht : s'.touch = s.touch) (hf : s'.flag = s.flag)
      (hp : s'.presses = s.presses) : Hands s a s'
  | sets (padIntr : BitVec 32) (s' : State) (ht : s'.touch = s.touch)
      (hf : s'.flag = (padIntr.getLsbD 0 || s.flag)) (hp : s'.presses = s.presses) :
      Hands s (.isr padIntr) s'
  | finds (s' : State) (ht : s.touch = .checking) (hflag : s.flag = true) (ht' : s'.touch = .sending)
      (hf : s'.flag = s.flag) (hp : s'.presses = s.presses) : Hands s .touch s'
  | sends (s' : State) (ht : s.touch = .sending) (ht' : s'.touch = .clearing) (hf : s'.flag = s.flag)
      (hp : s'.presses = s.presses + 1) : Hands s .touch s'
  | clears (s' : State) (ht : s.touch = .clearing) (ht' : s'.touch = .checking) (hf : s'.flag = false)
      (hp : s'.presses = s.presses) : Hands s .touch s'

theorem moves_hands {s : State} {a : Action} {s' : State} (hm : Moves s a s') : Hands s a s' := by
  cases hm with
  | interrupts padIntr hisr => exact .sets padIntr _ rfl rfl rfl
  | finds ht hpad => exact .finds _ ht hpad rfl rfl rfl
  | presses ht =>
    obtain ⟨q, accepted, refused, heq⟩ := sendMachineState_frame .startStopTimer s.epoch
      {s with touch := .clearing, presses := s.presses + 1}
    rw [heq]
    exact .sends _ ht rfl rfl rfl
  | clears ht => exact .clears _ ht rfl (by simp [State.flag]) rfl
  | ticks run htick =>
    obtain ⟨q, accepted, refused, heq⟩ := sendMachineState_frame .countTimer run {s with tick := none}
    rw [heq]
    exact .keeps _ _ rfl rfl rfl
  | resets value =>
    obtain ⟨q, accepted, refused, heq⟩ := sendMachineState_frame .resetTimer s.epoch s
    rw [heq]
    exact .keeps _ _ rfl rfl rfl
  | handles e hh =>
    obtain ⟨active, count, ticks, timer, heq⟩ := handleStatus_frame e (s.handling e)
    rw [heq]
    exact .keeps _ _ rfl rfl rfl
  | _ => exact .keeps _ _ rfl rfl rfl

/-! ### Sends and rises -/

theorem hands_armed {s : State} {a : Action} {s' : State} (h : Armed s) (hh : Hands s a s') :
    Armed s' := by
  intro ht'
  cases hh with
  | keeps a s' ht hf hp => rw [hf, h (ht ▸ ht')]
  | sets padIntr s' ht hf hp => rw [hf, h (ht ▸ ht'), Bool.or_true]
  | finds s' ht hflag _ hf hp => rw [hf, hflag]
  | sends s' ht _ hf hp => rw [hf, h (by rw [ht]; nofun)]
  | clears s' ht htouch hf hp => exact absurd htouch ht'

/-- The step takes the flag from false to true. -/
def rises (b : Build) (s : State) (a : Action) : Bool := !s.flag && (step b s a).flag

/-- A rise adds a send to make, a send takes it off; nothing else changes their sum. -/
theorem hands_count {s : State} {a : Action} {s' : State} (h : Armed s) (hh : Hands s a s') :
    s'.presses + s'.unsent = s.presses + s.unsent + if !s.flag && s'.flag then 1 else 0 := by
  unfold State.unsent
  cases hh with
  | keeps a s' ht hf hp => rw [ht, hf, hp]; cases s.flag <;> simp
  | sets padIntr s' ht hf hp =>
    rw [ht, hf, hp]
    cases hflag : s.flag with
    | true => simp
    | false =>
      rw [checking_of_flag h hflag]
      cases padIntr.getLsbD 0 <;> simp
  | finds s' ht hflag ht' hf hp => rw [hf, hp, hflag, ht, ht']; simp
  | sends s' ht ht' hf hp => rw [hf, hp, h (by rw [ht]; nofun), ht, ht']; simp
  | clears s' ht ht' hf hp => rw [hf, hp, h (by rw [ht]; nofun), ht]; simp

/-- **The touch task sends once for each rise of its pad's flag, but for the last if the
flag is set and not sent for yet; and only its own bit of the interrupt's word raises
it.** -/
theorem touch_handoff_exact (b : Build) (actions : List Action) :
    let s := (chronometer b).run actions
    s.presses + (if s.flag && s.touch ≠ .clearing then 1 else 0) =
      (chronometer b).countSteps (rises b) State.start actions ∧
    ∀ a, rises b s a = true → ∃ padIntr : BitVec 32, a = .isr padIntr ∧ padIntr.getLsbD 0 = true := by
  intro s
  refine ⟨?_, fun a ha => ?_⟩
  · have hcount := Machine.runFrom_count (M := chronometer b) (P := rises b)
      (f := fun s => s.presses + s.unsent)
      (fun s a h => hands_armed h (moves_hands (step_moves b s a)))
      (fun s a h => hands_count h (moves_hands (step_moves b s a)))
      (s := State.start) (fun h => absurd rfl h) actions
    exact hcount.trans (Nat.zero_add _)
  · rw [rises, Bool.and_eq_true, Bool.not_eq_true'] at ha
    have hh := moves_hands (step_moves b s a)
    generalize step b s a = s' at ha hh
    cases hh with
    | sets padIntr s' ht hf hp =>
      rw [hf, ha.1, Bool.or_false] at ha
      exact ⟨padIntr, rfl, ha.2⟩
    | keeps a s' ht hf hp => rw [hf, ha.1] at ha; cases ha.2
    | finds s' ht hflag _ hf hp => rw [hf, ha.1] at ha; cases ha.2
    | sends s' ht _ hf hp => rw [hf, ha.1] at ha; cases ha.2
    | clears s' ht _ hf hp => rw [hf] at ha; cases ha.2

end Aniot.P3
