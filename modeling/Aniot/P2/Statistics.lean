import Mathlib.Data.Nat.Basic
import Aniot.Machine.History
import Aniot.P2.Pipeline

/-! When the controller shows the statistics.

The counter starts at two, counts the passes, and goes back to two when it reaches the quotient
of the intervals. So the statistics come after every pass whose number is a multiple of
that quotient less two, and after no other, whatever the tasks do in between
(`statistics_cadence`): with the intervals of `types.h` every eight passes. -/
namespace Aniot.P2
variable {R : Type} {cfg : Config R}

/-- The controller is at the end of a pass. -/
def completes (s : State cfg) : Action cfg.numberSensors → Bool
  | .controller _ =>
    match s.controller with
    | .selecting => false
    | .visiting _ k => cfg.numberSensors ≤ k
  | _ => false

/-- For a pass that ends, whether the statistics are shown. -/
def passes (s : State cfg) (a : Action cfg.numberSensors) : List Bool :=
  if completes s a then [cfg.stadisticsInterval / cfg.controllerInterval ≤ s.statisticsCounter + 1]
  else []

/-- How many passes there are from one show of the statistics to the next. -/
def Config.statisticsPasses (cfg : Config R) : Nat :=
  max 1 (cfg.stadisticsInterval / cfg.controllerInterval - 2)

theorem statisticsPasses_pos (cfg : Config R) : 0 < cfg.statisticsPasses := Nat.le_max_left 1 _

/-- The remainder of the number of passes counts up to one less than the divisor. -/
theorem succ_mod {n p : Nat} (hp : 0 < p) :
    (n + 1) % p = if n % p + 1 = p then 0 else n % p + 1 := by
  have hlt := Nat.mod_lt n hp
  have hsplit : n + 1 = p * (n / p) + (n % p + 1) := by
    rw [← Nat.add_assoc, Nat.div_add_mod]
  split
  · next hlast => rw [hsplit, hlast, Nat.mul_add_mod, Nat.mod_self]
  · rw [hsplit, Nat.mul_add_mod, Nat.mod_eq_of_lt (by omega)]

/-- The counter reaches the quotient at the end of each pass whose number is a multiple. -/
theorem reaches_iff (cfg : Config R) (n : Nat) :
    cfg.stadisticsInterval / cfg.controllerInterval ≤ 2 + n % cfg.statisticsPasses + 1 ↔
      cfg.statisticsPasses ∣ n + 1 := by
  have hlt := Nat.mod_lt n (statisticsPasses_pos cfg)
  have hpasses : cfg.statisticsPasses =
      max 1 (cfg.stadisticsInterval / cfg.controllerInterval - 2) := rfl
  rw [Nat.dvd_iff_mod_eq_zero, succ_mod (statisticsPasses_pos cfg)]
  generalize n % cfg.statisticsPasses = r at hlt
  split <;> omega

section Runs
variable [Zero R] [Add R] [Mul R] [IntCast R]

theorem step_statisticsCounter (s : State cfg) (a : Action cfg.numberSensors) :
    (step s a).statisticsCounter =
      if completes s a then
        if cfg.stadisticsInterval / cfg.controllerInterval ≤ s.statisticsCounter + 1 then 2
        else s.statisticsCounter + 1
      else s.statisticsCounter := by
  cases a with
  | sensor i espRandom now timedOut => rfl
  | filter i timedOut =>
    simp only [step, completes, Bool.false_eq_true, if_false]
    split
    · rfl
    · unfold State.notify
      dsimp only
      split <;> rfl
  | controller timedOut =>
    show (controllerTask timedOut s).statisticsCounter = _
    cases hc : s.controller with
    | selecting =>
      have hinside : completes s (.controller timedOut) = false := by rw [completes, hc]
      rw [hinside, if_neg Bool.false_ne_true, controllerTask, hc]
      dsimp only
      split
      · rfl
      · cases timedOut <;> rfl
    | visiting readingQueue k =>
      by_cases hk : k < cfg.numberSensors
      · have hinside : completes s (.controller timedOut) = false := by
          rw [completes, hc]
          exact decide_eq_false (Nat.not_le_of_lt hk)
        rw [hinside, if_neg Bool.false_ne_true, controllerTask, hc]
        dsimp only
        rw [dif_pos hk]
        split
        · split
          · rfl
          · cases timedOut <;> rfl
        · rfl
      · have hend : completes s (.controller timedOut) = true := by
          rw [completes, hc]
          exact decide_eq_true (Nat.le_of_not_lt hk)
        rw [hend, if_pos rfl, controllerTask, hc]
        dsimp only
        rw [dif_neg hk]

/-- What the passes so far have shown, and what the counter has counted since. -/
structure Counted (shown : List Bool) (s : State cfg) : Prop where
  multiples : shown = (List.range shown.length).map fun k => decide (cfg.statisticsPasses ∣ k + 1)
  counter : s.statisticsCounter = 2 + shown.length % cfg.statisticsPasses

theorem step_counted (shown : List Bool) (s : State cfg) (a : Action cfg.numberSensors)
    (h : Counted shown s) : Counted (shown ++ passes s a) ((pipeline cfg).step s a) := by
  have hcounter := step_statisticsCounter s a
  cases hends : completes s a with
  | false =>
    rw [hends, if_neg Bool.false_ne_true] at hcounter
    rw [passes, hends, if_neg Bool.false_ne_true, List.append_nil]
    exact ⟨h.multiples, hcounter.trans h.counter⟩
  | true =>
    rw [hends, if_pos rfl] at hcounter
    have hlength : (shown ++ passes s a).length = shown.length + 1 := by
      rw [passes, hends, if_pos rfl, List.length_append, List.length_singleton]
    have hreaches := reaches_iff cfg shown.length
    rw [← h.counter] at hreaches
    constructor
    · rw [hlength, List.range_succ, List.map_append, ← h.multiples, passes, hends, if_pos rfl]
      exact congrArg (shown ++ [·]) (decide_eq_decide.mpr hreaches)
    · refine hcounter.trans ?_
      rw [hlength]
      by_cases hshow : cfg.stadisticsInterval / cfg.controllerInterval ≤ s.statisticsCounter + 1
      · rw [if_pos hshow, Nat.dvd_iff_mod_eq_zero.mp (hreaches.mp hshow)]
      · have hmore := hreaches.not.mp hshow
        rw [Nat.dvd_iff_mod_eq_zero, succ_mod (statisticsPasses_pos cfg)] at hmore
        rw [if_neg hshow, succ_mod (statisticsPasses_pos cfg), h.counter]
        split at hmore
        · exact absurd rfl hmore
        · next hlast => rw [if_neg hlast, Nat.add_assoc]

/-- **Whatever the tasks do in between, the controller shows the statistics at the end of each pass
whose number is a multiple of the passes from one show to the next, and of no other.** -/
theorem statistics_cadence (cfg : Config R) (actions : List (Action cfg.numberSensors)) :
    let shown := (pipeline cfg).emitted passes (State.start cfg) actions
    shown = (List.range shown.length).map fun k => decide (cfg.statisticsPasses ∣ k + 1) := by
  intro shown
  have hstart : Counted [] (State.start cfg) := ⟨rfl, by rw [List.length_nil, Nat.zero_mod]; rfl⟩
  exact (Machine.runFrom_history step_counted hstart actions).multiples

end Runs

/-- The intervals of `types.h` leave eight passes from one show to the next. -/
example : (typesH 2).statisticsPasses = 8 := by decide

end Aniot.P2
