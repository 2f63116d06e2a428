import Aniot.P3.Touch

/-! One toggle for each press of the pad.

To the chronometer this adds the finger: the pad is pressed and released, its interrupt
fires at least once in each press and never outside one, and between a release and the
next press the touch task finds the flag false once. The task waits a fixed time after
its send and clears the flag, whether the pad has been released by then or not; an
interrupt of the same press after that sets the flag again, and the press is sent for
twice (`sends_eq`). -/
namespace Aniot.P3

/-- The chronometer and the finger on its pad. -/
structure Pad where
  chrono : State
  pressed : Bool
  /-- The interrupt has fired in this press. -/
  fired : Bool
  /-- The task has cleared the flag since the press began. -/
  served : Bool
  /-- The task has found the flag false since the last release. -/
  rested : Bool
  count : Nat
  /-- How often the interrupt found the flag already cleared in its press. -/
  late : Nat

inductive PadAction where
  | press
  | release
  | runs (a : Action)

/-- The interrupt fires for this pad. -/
def Action.fires : Action → Bool
  | .isr padIntr => padIntr.getLsbD 0
  | _ => false

/-- An interrupt of the press finds the flag cleared by the task in that press. -/
def firesLate (s : Pad) : PadAction → Bool
  | .runs a => a.fires && s.pressed && s.served && !s.chrono.flag
  | _ => false

def Pad.step (b : Build) (s : Pad) : PadAction → Pad
  | .press =>
    if !s.pressed && s.rested then
      {s with pressed := true, fired := false, served := false, rested := false, count := s.count + 1}
    else s
  | .release => if s.pressed && s.fired then {s with pressed := false} else s
  | .runs a =>
    if a.fires && !s.pressed then s
    else
      {s with
        chrono := P3.step b s.chrono a
        fired := s.fired || a.fires
        served := s.served || (a matches .touch && s.chrono.touch = .clearing)
        rested := s.rested ||
          (a matches .touch && !s.pressed && s.chrono.touch = .checking && !s.chrono.flag)
        late := s.late + if firesLate s (.runs a) then 1 else 0 }

/-- The pad, once `app_main` has set everything up. -/
def pad (b : Build) : Machine Pad PadAction where
  start :=
    { chrono := (chronometer b).run (List.replicate 7 .appMain)
      pressed := false
      fired := false
      served := false
      rested := true
      count := 0
      late := 0 }
  step := Pad.step b

/-! ### The touch task and the interrupt, once they are there -/

/-- The interrupt is registered and the task created. -/
structure Started (s : State) : Prop where
  isr : s.isrRegistered = true
  task : s.touchCreated = true

theorem moves_started {s : State} {a : Action} {s' : State} (h : Started s) (ha : a ≠ .appMain)
    (hm : Moves s a s') : Started s' := by
  cases hm with
  | starts hm => exact absurd rfl ha
  | presses ht =>
    obtain ⟨q, accepted, refused, heq⟩ := sendMachineState_frame .startStopTimer s.epoch
      {s with touch := .clearing, presses := s.presses + 1}
    rw [heq]
    exact ⟨h.isr, h.task⟩
  | ticks run htick =>
    obtain ⟨q, accepted, refused, heq⟩ := sendMachineState_frame .countTimer run {s with tick := none}
    rw [heq]
    exact ⟨h.isr, h.task⟩
  | resets value =>
    obtain ⟨q, accepted, refused, heq⟩ := sendMachineState_frame .resetTimer s.epoch s
    rw [heq]
    exact ⟨h.isr, h.task⟩
  | handles e hh =>
    obtain ⟨active, count, ticks, timer, heq⟩ := handleStatus_frame e (s.handling e)
    rw [heq]
    exact ⟨h.isr, h.task⟩
  | _ => exact ⟨h.isr, h.task⟩

theorem step_started (b : Build) {s : State} (h : Started s) (a : Action) : Started (step b s a) := by
  by_cases ha : a = .appMain
  · subst ha
    simp only [step, appMain]
    split
    case h_2 => exact ⟨rfl, h.task⟩
    case h_3 => exact ⟨h.isr, rfl⟩
    all_goals exact ⟨h.isr, h.task⟩
  · exact moves_started h ha (step_moves b s a)

/-- An interrupt sets the flag if it is for this pad, and does nothing else to the flag
or the task. -/
theorem isr_started (b : Build) {s : State} (h : Started s) (padIntr : BitVec 32) :
    (step b s (.isr padIntr)).flag = (padIntr.getLsbD 0 || s.flag) ∧
      (step b s (.isr padIntr)).touch = s.touch ∧ (step b s (.isr padIntr)).presses = s.presses := by
  rw [show step b s (.isr padIntr) = rtcIntrTouchPad padIntr s from rfl, rtcIntrTouchPad, if_pos h.isr]
  exact ⟨rfl, rfl, rfl⟩

/-- The task, where it stands: it waits, finds the flag, sends or clears. -/
theorem touch_started (b : Build) {s : State} (h : Started s) :
    (s.touch = .checking ∧ s.flag = false ∧ step b s .touch = s) ∨
    (s.touch = .checking ∧ s.flag = true ∧ step b s .touch = {s with touch := .sending}) ∨
    (s.touch = .sending ∧ (step b s .touch).touch = .clearing ∧ (step b s .touch).flag = s.flag ∧
      (step b s .touch).presses = s.presses + 1) ∨
    (s.touch = .clearing ∧ (step b s .touch).touch = .checking ∧ (step b s .touch).flag = false ∧
      (step b s .touch).presses = s.presses) := by
  simp only [step, touchpadReadTask, if_pos h.task]
  cases ht : s.touch with
  | checking =>
    cases hf : s.flag with
    | false => exact .inl ⟨rfl, rfl, if_neg (by rw [← State.flag, hf]; exact Bool.false_ne_true)⟩
    | true => exact .inr (.inl ⟨rfl, rfl, if_pos hf⟩)
  | sending =>
    obtain ⟨q, accepted, refused, heq⟩ := sendMachineState_frame .startStopTimer s.epoch
      {s with touch := .clearing, presses := s.presses + 1}
    dsimp only
    rw [heq]
    exact .inr (.inr (.inl ⟨rfl, rfl, rfl, rfl⟩))
  | clearing => exact .inr (.inr (.inr ⟨rfl, rfl, by simp [State.flag], rfl⟩))

/-- Whoever else moves leaves the flag, the task and its sends alone. -/
theorem others_touch (b : Build) (s : State) {a : Action} (ht : a ≠ .touch) (hi : a.fires = false) :
    (step b s a).flag = s.flag ∧ (step b s a).touch = s.touch ∧ (step b s a).presses = s.presses := by
  have hh := moves_hands (step_moves b s a)
  generalize step b s a = s' at hh
  cases hh with
  | keeps a s' htouch hf hp => exact ⟨hf, htouch, hp⟩
  | sets padIntr s' htouch hf hp =>
    rw [show padIntr.getLsbD 0 = false from hi, Bool.false_or] at hf
    exact ⟨hf, htouch, hp⟩
  | _ => exact absurd rfl ht

/-! ### Sends, presses and late interrupts -/

/-- The pad is pressed and its interrupt has not fired yet. -/
def Pad.owed (s : Pad) : Nat := if s.pressed && !s.fired then 1 else 0

/-- The flag is false and the task at its check. -/
def State.Quiet (s : State) : Prop := s.flag = false ∧ s.touch = .checking

structure PadInv (s : Pad) : Prop where
  started : Started s.chrono
  armed : Armed s.chrono
  unfired : s.pressed = true → s.fired = false → s.chrono.Quiet ∧ s.served = false
  resting : s.rested = true → s.pressed = false ∧ s.chrono.Quiet
  released : s.pressed = false → s.rested = false → s.fired = true
  served : s.fired = true → s.rested = false → s.chrono.flag = false → s.served = true
  sends : s.chrono.presses + s.chrono.unsent + s.owed = s.count + s.late

theorem press_inv {b : Build} {s : Pad} (h : PadInv s) : PadInv (s.step b .press) := by
  simp only [Pad.step]
  split
  · next hidle =>
    simp only [Bool.and_eq_true, Bool.not_eq_true'] at hidle
    have hquiet := (h.resting hidle.2).2
    refine ⟨h.started, h.armed, fun _ _ => ⟨hquiet, rfl⟩, nofun, nofun, nofun, ?_⟩
    have hsends := h.sends
    simp only [Pad.owed, hidle.1, Bool.false_and, Bool.not_false, Bool.and_true, if_true,
      Bool.false_eq_true, if_false] at hsends ⊢
    omega
  · exact h

theorem rested_of_pressed {s : Pad} (h : PadInv s) (hpressed : s.pressed = true) : s.rested = false := by
  by_contra hne
  have hreleased := (h.resting (by simpa using hne)).1
  rw [hpressed] at hreleased
  cases hreleased

theorem release_inv {b : Build} {s : Pad} (h : PadInv s) : PadInv (s.step b .release) := by
  simp only [Pad.step]
  split
  · next hfired =>
    simp only [Bool.and_eq_true] at hfired
    have hrested := rested_of_pressed h hfired.1
    refine ⟨h.started, h.armed, nofun, fun hr => ?_, fun _ _ => hfired.2, h.served, ?_⟩
    · rw [hrested] at hr
      cases hr
    · have hsends := h.sends
      simp only [Pad.owed, hfired.2, Bool.not_true, Bool.and_false] at hsends ⊢
      exact hsends
  · exact h

/-- An interrupt in a press sends the task off for it, the first time or too late, or finds
the flag set. -/
theorem fires_sends {b : Build} {s : Pad} (h : PadInv s) (hpressed : s.pressed = true)
    {padIntr : BitVec 32} (hbit : padIntr.getLsbD 0 = true) :
    (step b s.chrono (.isr padIntr)).presses + (step b s.chrono (.isr padIntr)).unsent =
      s.count + (s.late + if firesLate s (.runs (.isr padIntr)) then 1 else 0) := by
  have hsends := h.sends
  obtain ⟨hflag, htouch, hpresses⟩ := isr_started b h.started padIntr
  rw [hbit, Bool.true_or] at hflag
  simp only [firesLate, Action.fires, hbit, hpressed, Bool.true_and]
  cases hf : s.chrono.flag with
  | true =>
    have hfired : s.fired = true := by
      by_contra hne
      have hquiet := (h.unfired hpressed (by simpa using hne)).1.1
      rw [hf] at hquiet
      cases hquiet
    simp only [State.unsent, Pad.owed, hflag, htouch, hpresses, hf, hfired, Bool.not_true,
      Bool.and_false, Bool.false_eq_true, if_false, Nat.add_zero] at hsends ⊢
    exact hsends
  | false =>
    have hchecking := checking_of_flag h.armed hf
    simp only [State.unsent, Pad.owed, hflag, htouch, hpresses, hf, hchecking, hpressed] at hsends ⊢
    cases hfired : s.fired with
    | false =>
      have hserved := (h.unfired hpressed hfired).2
      simp [hfired, hserved] at hsends ⊢
      omega
    | true =>
      have hserved := h.served hfired (rested_of_pressed h hpressed) hf
      simp [hfired, hserved] at hsends ⊢
      omega

/-- The interrupt fires in a press. -/
theorem fires_inv {b : Build} {s : Pad} (h : PadInv s) (hpressed : s.pressed = true)
    {padIntr : BitVec 32} (hbit : padIntr.getLsbD 0 = true) :
    PadInv (s.step b (.runs (.isr padIntr))) := by
  have hfires : (Action.isr padIntr).fires = true := hbit
  have hflag : (step b s.chrono (.isr padIntr)).flag = true := by
    rw [(isr_started b h.started padIntr).1, hbit, Bool.true_or]
  have hsends := fires_sends (b := b) h hpressed hbit
  simp only [Pad.step, hfires, hpressed, rested_of_pressed h hpressed, Bool.not_true, Bool.and_false,
    Bool.false_eq_true, if_false, Bool.or_true, Bool.or_false, Bool.false_and]
  refine ⟨step_started b h.started (.isr padIntr), fun _ => hflag, nofun, nofun, nofun,
    fun _ _ hf => ?_, hsends⟩
  dsimp only at hf
  rw [hflag] at hf
  cases hf

/-- The touch task's step, with what it tells the finger's side. -/
theorem step_touch (b : Build) (s : Pad) :
    s.step b (.runs .touch) = {s with
      chrono := step b s.chrono .touch
      served := s.served || s.chrono.touch = .clearing
      rested := s.rested || (!s.pressed && s.chrono.touch = .checking && !s.chrono.flag)} := by
  simp [Pad.step, Action.fires, firesLate, Bool.and_assoc]

/-- Neither before the first interrupt of a press nor at rest is the task on its way. -/
theorem not_quiet {s : Pad} (h : PadInv s) (hbusy : ¬ s.chrono.Quiet) :
    (s.pressed = true → s.fired = true) ∧ s.rested = false := by
  refine ⟨fun hpressed => ?_, ?_⟩
  · by_contra hne
    exact hbusy (h.unfired hpressed (by simpa using hne)).1
  · by_contra hne
    exact hbusy (h.resting (by simpa using hne)).2

/-- The touch task moves. -/
theorem touch_inv {b : Build} {s : Pad} (h : PadInv s) : PadInv (s.step b (.runs .touch)) := by
  have hstarted := step_started b h.started .touch
  have hsends := h.sends
  rw [step_touch]
  rcases touch_started b h.started with ⟨htouch, hflag, hstep⟩ | ⟨htouch, hflag, hstep⟩ |
    ⟨htouch, htouch', hflag', hpresses⟩ | ⟨htouch, htouch', hflag', hpresses⟩
  · -- it waits, and has now rested if the pad is released
    rw [hstep]
    simp only [htouch, hflag, reduceCtorEq, decide_false, decide_true, Bool.or_false, Bool.and_true,
      Bool.not_false]
    refine ⟨h.started, h.armed, h.unfired, fun hr => ⟨?_, hflag, htouch⟩, fun hp hr => ?_,
      fun hf hr hfl => ?_, hsends⟩
    · rcases Bool.or_eq_true_iff.mp hr with hr | hr
      · exact (h.resting hr).1
      · simpa using hr
    · simp [show s.pressed = false from hp] at hr
    · exact h.served hf (Bool.or_eq_false_iff.mp hr).1 hfl
  · -- it finds the flag
    obtain ⟨hfired, hrested⟩ := not_quiet h fun hq => by
      rw [hq.1] at hflag
      cases hflag
    rw [hstep] at hstarted ⊢
    simp only [htouch, hflag, hrested, reduceCtorEq, decide_false, Bool.or_false, Bool.not_true,
      Bool.and_false]
    refine ⟨hstarted, fun _ => hflag, fun hp hf => ?_, fun hr => absurd hr Bool.false_ne_true,
      fun hp hr => h.released hp hrested, fun hf hr hfl => ?_, ?_⟩
    · rw [hfired hp] at hf
      cases hf
    · rw [show s.chrono.flag = false from hfl] at hflag
      cases hflag
    · simp only [State.unsent, State.flag] at hflag hsends ⊢
      simpa [Pad.owed, hflag, htouch] using hsends
  · -- it sends
    obtain ⟨hfired, hrested⟩ := not_quiet h fun hq => by
      rw [hq.2] at htouch
      cases htouch
    have hset : s.chrono.flag = true := h.armed (by rw [htouch]; decide)
    rw [hset] at hflag'
    simp only [htouch, hrested, reduceCtorEq, decide_false, Bool.or_false, Bool.and_false, Bool.false_and]
    refine ⟨hstarted, fun _ => hflag', fun hp hf => ?_, fun hr => absurd hr Bool.false_ne_true,
      fun hp hr => h.released hp hrested, fun hf hr hfl => ?_, ?_⟩
    · rw [hfired hp] at hf
      cases hf
    · rw [show (step b s.chrono .touch).flag = false from hfl] at hflag'
      cases hflag'
    · simp only [State.unsent, hset, htouch, hflag', htouch', hpresses] at hsends ⊢
      simp [Pad.owed] at hsends ⊢
      omega
  · -- it clears the flag, in this press if the pad is still pressed
    obtain ⟨hfired, hrested⟩ := not_quiet h fun hq => by
      rw [hq.2] at htouch
      cases htouch
    simp only [htouch, hrested, reduceCtorEq, decide_true, decide_false, Bool.or_true, Bool.and_false,
      Bool.false_and, Bool.or_false]
    refine ⟨hstarted, fun hne => absurd htouch' hne, fun hp hf => ?_,
      fun hr => absurd hr Bool.false_ne_true, fun hp hr => h.released hp hrested, fun _ _ _ => rfl, ?_⟩
    · rw [hfired hp] at hf
      cases hf
    · simp only [State.unsent, htouch, hflag', hpresses] at hsends ⊢
      simpa [Pad.owed] using hsends

/-- Someone else moves. -/
theorem others_inv {b : Build} {s : Pad} (h : PadInv s) {a : Action} (ht : a ≠ .touch)
    (hi : a.fires = false) : PadInv (s.step b (.runs a)) := by
  obtain ⟨hflag, htouch, hpresses⟩ := others_touch b s.chrono ht hi
  have hquiet : s.chrono.Quiet → (step b s.chrono a).Quiet := by
    intro hq
    rw [State.Quiet, hflag, htouch]
    exact hq
  have hkeeps : s.step b (.runs a) = {s with chrono := step b s.chrono a} := by
    simp only [Pad.step, firesLate, hi]
    cases a <;> simp_all
  rw [hkeeps]
  refine ⟨step_started b h.started a, fun hne => ?_, fun hp hf => ?_, fun hr => ?_, h.released,
    fun hf hr hfl => h.served hf hr (hflag ▸ hfl), ?_⟩
  · rw [htouch] at hne
    rw [hflag]
    exact h.armed hne
  · exact ⟨hquiet (h.unfired hp hf).1, (h.unfired hp hf).2⟩
  · exact ⟨(h.resting hr).1, hquiet (h.resting hr).2⟩
  · have hunsent : (step b s.chrono a).unsent = s.chrono.unsent := by
      rw [State.unsent, hflag, htouch]
      rfl
    show (step b s.chrono a).presses + (step b s.chrono a).unsent + s.owed = s.count + s.late
    rw [hunsent, hpresses]
    exact h.sends

theorem pad_step_inv {b : Build} {s : Pad} (h : PadInv s) (a : PadAction) : PadInv (s.step b a) := by
  cases a with
  | press => exact press_inv h
  | release => exact release_inv h
  | runs a =>
    cases hfires : a.fires with
    | true =>
      cases hpressed : s.pressed with
      | false =>
        have hstill : s.step b (.runs a) = s := by simp [Pad.step, hfires, hpressed]
        rw [hstill]
        exact h
      | true =>
        cases a with
        | isr padIntr => exact fires_inv h hpressed hfires
        | _ => cases hfires
    | false =>
      by_cases ht : a = .touch
      · subst ht
        exact touch_inv h
      · exact others_inv h ht hfires

theorem pad_start_inv (b : Build) : PadInv (pad b).start :=
  ⟨⟨rfl, rfl⟩, fun h => absurd rfl h, nofun, fun _ => ⟨rfl, rfl, rfl⟩, nofun, nofun, rfl⟩

theorem pad_inv (b : Build) (actions : List PadAction) : PadInv ((pad b).run actions) :=
  Machine.run_invariant (pad b) (pad_start_inv b) (fun _ a h => pad_step_inv h a) actions

theorem step_late (b : Build) (s : Pad) (a : PadAction) :
    (s.step b a).late = s.late + if firesLate s a then 1 else 0 := by
  cases a with
  | press =>
    simp only [Pad.step]
    split <;> rfl
  | release =>
    simp only [Pad.step]
    split <;> rfl
  | runs a =>
    simp only [Pad.step]
    split
    · next hidle =>
      simp only [Bool.and_eq_true, Bool.not_eq_true'] at hidle
      simp [firesLate, hidle.2]
    · rfl

/-- Once the pad is released and the task has rested, it has sent once for each press and
once for each late interrupt. -/
theorem sends_eq (b : Build) (actions : List PadAction) :
    let s := (pad b).run actions
    s.rested = true →
      s.chrono.presses = s.count + (pad b).countSteps firesLate (pad b).start actions := by
  intro s hrested
  have hinv : PadInv s := pad_inv b actions
  obtain ⟨hpressed, hflag, -⟩ := hinv.resting hrested
  have hstep : ∀ s a, PadInv s → PadInv ((pad b).step s a) := fun _ a h => pad_step_inv h a
  have hlate : s.late = 0 + (pad b).countSteps firesLate (pad b).start actions :=
    Machine.runFrom_count hstep (fun s a _ => step_late b s a) (pad_start_inv b) actions
  have hsends := hinv.sends
  simp only [State.unsent, Pad.owed, hflag, hpressed, Bool.false_and, Bool.false_eq_true, if_false,
    Nat.add_zero] at hsends
  omega

/-- **Whenever the task is idle again after a release, it has sent once for each press
exactly if no interrupt has come in a press after the task's clear in that press.** -/
theorem one_send_per_press_iff (b : Build) (actions : List PadAction)
    (hrested : ((pad b).run actions).rested = true) :
    ((pad b).run actions).chrono.presses = ((pad b).run actions).count ↔
      (pad b).Meets (fun s a => firesLate s a = false) (pad b).start actions := by
  rw [sends_eq b actions hrested, Machine.meets_iff_countSteps]
  omega

/-- A press and its interrupt, and the task's test, send and clear. -/
def pressAndServe : List PadAction := [.press, .runs (.isr 1), .runs .touch, .runs .touch, .runs .touch]

theorem one_send_per_press_short :
    ((pad ⟨false, fun _ => 0⟩).run (pressAndServe ++ [.release, .runs .touch])).chrono.presses =
        ((pad ⟨false, fun _ => 0⟩).run (pressAndServe ++ [.release, .runs .touch])).count ↔
      (pad ⟨false, fun _ => 0⟩).Meets (fun s a => firesLate s a = false) (pad ⟨false, fun _ => 0⟩).start
        (pressAndServe ++ [.release, .runs .touch]) :=
  one_send_per_press_iff _ _ (by decide)

/-- The pad is still pressed when the task clears the flag, and its interrupt fires again. -/
theorem long_press_sent_twice :
    ¬ ∀ (b : Build) (actions : List PadAction),
      ((pad b).run actions).rested = true →
        ((pad b).run actions).chrono.presses = ((pad b).run actions).count :=
  fun h => absurd (h ⟨false, fun _ => 0⟩ (pressAndServe ++ [.runs (.isr 1), .release] ++
    List.replicate 4 (.runs .touch))) (by decide)

end Aniot.P3
