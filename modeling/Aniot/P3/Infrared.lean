import Mathlib.Analysis.SpecialFunctions.Pow.Real
import Aniot.P3.Events

/-! What resets the chronometer of `p3-cont/src/main.c`.

Only the sensor's callback posts a reset, one for each reading it takes to be near
(`resetsPosted_eq`). With the infrared sensor near means that `12.3 * raw ^ 1.1` is at most
ten. That is zero for a raw reading of zero and over twelve for every other, so a reset is
posted for each reading of zero and for no other (`infrared_resets`). Of `pow`, of the
product and of the conversion to `float` no more is used than that they are right to
within one. -/
namespace Aniot.P3

def isReset (e : Posted) : Bool := e.status = .resetTimer

/-- The resets posted so far. -/
def State.resetsPosted (s : State) : Nat := s.accepted.countP isReset + s.refused.countP isReset

/-- The sensor's callback takes the reading to be near. -/
def isNear (b : Build) (value : Int) : Bool :=
  if b.isInfraredActive then b.rawToCms value ≤ sensorInfraredThreshold else value ≤ sensorHallThreshold

/-- The sensor's timer runs, and the reading is near. -/
def readsNear (b : Build) (s : State) : Action → Bool
  | .sensor value => s.periodicTimerSensorHall.isRunning && isNear b value
  | _ => false

theorem sendMachineState_resets (status : MachineStatus) (run : Nat) (s : State) :
    (sendMachineState status run s).resetsPosted =
      s.resetsPosted + if status = .resetTimer then 1 else 0 := by
  unfold State.resetsPosted
  rcases sendMachineState_cases status run s with ⟨q, _, heq⟩ | ⟨_, heq⟩ <;> rw [heq] <;>
    simp only [List.countP_append, List.countP_singleton, isReset, decide_eq_true_eq] <;> omega

theorem sensorTimerCallback_resets (b : Build) (value : Int) (s : State) :
    (sensorTimerCallback b value s).resetsPosted =
      s.resetsPosted + if readsNear b s (.sensor value) then 1 else 0 := by
  unfold sensorTimerCallback readsNear isNear
  cases s.periodicTimerSensorHall with
  | running mark =>
    dsimp only
    rw [sensorInfraredTimerCallback, sensorHallTimerCallback]
    simp only [Esp.Timer.isRunning, Bool.true_and]
    split <;> split <;> simp_all [sendMachineState_resets]
  | _ => rfl

/-- Nothing else posts a reset. -/
theorem others_resets {s : State} {a : Action} {s' : State} (ha : ∀ value, a ≠ .sensor value)
    (hm : Moves s a s') : s'.resetsPosted = s.resetsPosted := by
  cases hm with
  | presses ht =>
    exact sendMachineState_resets .startStopTimer s.epoch {s with touch := .clearing, presses := s.presses + 1}
  | ticks run htick => exact sendMachineState_resets .countTimer run {s with tick := none}
  | resets value => exact absurd rfl (ha value)
  | handles e hh =>
    obtain ⟨active, count, ticks, timer, heq⟩ := handleStatus_frame e (s.handling e)
    rw [heq]
    rfl
  | _ => rfl

theorem step_resets (b : Build) (s : State) (a : Action) :
    (step b s a).resetsPosted = s.resetsPosted + if readsNear b s a then 1 else 0 := by
  cases a with
  | sensor value => exact sensorTimerCallback_resets b value s
  | _ => exact others_resets (fun _ h => Action.noConfusion h) (step_moves b s _)

/-- One for each near reading. -/
theorem resetsPosted_eq (b : Build) (actions : List Action) :
    ((chronometer b).run actions).resetsPosted =
      (chronometer b).countSteps (readsNear b) State.start actions := by
  have hcount : ((chronometer b).runFrom State.start actions).resetsPosted =
      0 + (chronometer b).countSteps (readsNear b) State.start actions :=
    Machine.runFrom_count (M := chronometer b) (f := State.resetsPosted)
      (fun _ _ (_ : True) => trivial) (fun s a _ => step_resets b s a) trivial actions
  rwa [Nat.zero_add] at hcount

/-- An accepted reset was posted. -/
theorem statuses_reset {b : Build} {actions : List Action}
    (h : ((chronometer b).run actions).resetsPosted = 0) :
    .resetTimer ∉ ((chronometer b).run actions).statuses := by
  have hstart : InOrder State.start := rfl
  have horder : InOrder ((chronometer b).run actions) := chronometer_invariant hstart moves_inOrder b actions
  intro hmem
  obtain ⟨e, he, hstatus⟩ := List.mem_map.mp hmem
  have haccepted : e ∈ ((chronometer b).run actions).accepted := by
    rw [horder]
    exact List.mem_append_left _ he
  have hnone : ((chronometer b).run actions).accepted.countP isReset = 0 := by
    rw [State.resetsPosted] at h
    omega
  exact List.countP_eq_zero.mp hnone e haccepted (decide_eq_true hstatus)

/-! ### The infrared sensor -/

def functionCmsVarA : Rat := 12.3
def functionCmsVarB : Rat := 1.1

/-- What `adc1_get_raw` returns of twelve bits at most. -/
def adcMax : Int := 4095

/-- The centimetres computed are those of the formula, to within one. -/
def FollowsFormula (rawToCms : Int → Rat) : Prop :=
  ∀ raw : Int, 0 ≤ raw → raw ≤ adcMax →
    |(rawToCms raw : ℝ) - functionCmsVarA * (raw : ℝ) ^ (functionCmsVarB : ℝ)| ≤ 1

/-- A reading of one is over twelve centimetres, and a reading of zero is none. -/
theorem isNear_iff_zero {b : Build} (hinfrared : b.isInfraredActive = true)
    (hcms : FollowsFormula b.rawToCms) {raw : Int} (hlow : 0 ≤ raw) (hhigh : raw ≤ adcMax) :
    isNear b raw = true ↔ raw = 0 := by
  have hformula := abs_le.mp (hcms raw hlow hhigh)
  rw [isNear, if_pos hinfrared, decide_eq_true_eq]
  constructor
  · intro hnear
    by_contra hne
    have hraw : (1 : ℝ) ≤ raw := by
      have : 1 ≤ raw := by omega
      exact_mod_cast this
    have hexponent : (0 : ℝ) ≤ functionCmsVarB := by norm_num [functionCmsVarB]
    have hpower : (1 : ℝ) ≤ (raw : ℝ) ^ (functionCmsVarB : ℝ) := Real.one_le_rpow hraw hexponent
    have hten : (b.rawToCms raw : ℝ) ≤ 10 := by
      have := (Rat.cast_le (K := ℝ)).mpr hnear
      rwa [sensorInfraredThreshold, Rat.cast_ofNat] at this
    have hfactor : (functionCmsVarA : ℝ) = 12.3 := by norm_num [functionCmsVarA]
    rw [hfactor] at hformula
    linarith [hformula.1]
  · rintro rfl
    have hexponent : (functionCmsVarB : ℝ) ≠ 0 := by norm_num [functionCmsVarB]
    rw [Int.cast_zero, Real.zero_rpow hexponent, mul_zero, sub_zero] at hformula
    have hone : (b.rawToCms 0 : ℝ) ≤ ((1 : Rat) : ℝ) := by
      rw [Rat.cast_one]
      exact hformula.2
    have hten : (1 : Rat) ≤ sensorInfraredThreshold := by decide
    exact le_trans (Rat.cast_le.mp hone) hten

/-- A reading of zero while the sensor's timer runs. -/
def readsZero (s : State) : Action → Bool
  | .sensor value => s.periodicTimerSensorHall.isRunning && value = 0
  | _ => false

/-- **In the infrared build each reading of zero posts a reset and no other reading does, so
without one the chronometer is never reset.** -/
theorem infrared_resets (b : Build) (hinfrared : b.isInfraredActive = true)
    (hcms : FollowsFormula b.rawToCms) (actions : List Action)
    (hadc : ∀ value, Action.sensor value ∈ actions → 0 ≤ value ∧ value ≤ adcMax) :
    let s := (chronometer b).run actions
    s.resetsPosted = (chronometer b).countSteps readsZero State.start actions ∧
      (Action.sensor 0 ∉ actions → .resetTimer ∉ s.statuses) := by
  intro s
  have hnear : s.resetsPosted = (chronometer b).countSteps (readsNear b) State.start actions :=
    resetsPosted_eq b actions
  have hzero : (chronometer b).countSteps (readsNear b) State.start actions =
      (chronometer b).countSteps readsZero State.start actions := by
    refine Machine.countSteps_congr (fun a ha s => ?_) State.start
    cases a with
    | sensor value =>
      obtain ⟨hlow, hhigh⟩ := hadc value ha
      have hiff : isNear b value = decide (value = 0) := by
        rw [Bool.eq_iff_iff, isNear_iff_zero hinfrared hcms hlow hhigh, decide_eq_true_eq]
      rw [readsNear, readsZero, hiff]
    | _ => rfl
  refine ⟨hnear.trans hzero, fun hnone => statuses_reset (hnear.trans (hzero.trans ?_))⟩
  refine Machine.meets_iff_countSteps.mp (Machine.Meets.of_forall (fun a ha s => ?_) State.start)
  cases a with
  | sensor value =>
    have hvalue : value ≠ 0 := by
      rintro rfl
      exact hnone ha
    rw [readsZero, decide_eq_false hvalue, Bool.and_false]
  | _ => rfl

/-- The formula, rounded to the grid that a `float` has of the largest of these numbers. -/
noncomputable def roundedCms (raw : Int) : Rat :=
  round (128 * ((functionCmsVarA : ℝ) * (raw : ℝ) ^ (functionCmsVarB : ℝ))) / 128

theorem roundedCms_follows : FollowsFormula roundedCms := by
  intro raw _ _
  have hround := abs_sub_round (128 * ((functionCmsVarA : ℝ) * (raw : ℝ) ^ (functionCmsVarB : ℝ)))
  rw [roundedCms]
  generalize (functionCmsVarA : ℝ) * (raw : ℝ) ^ (functionCmsVarB : ℝ) = cms at hround ⊢
  push_cast
  rw [abs_le] at hround ⊢
  constructor <;> linarith [hround.1, hround.2]

/-- The sensor started, a reading of zero and one of an object. -/
def zeroThenObject : List Action := List.replicate 5 .appMain ++ [.sensor 0, .sensor 120]

theorem infrared_resets_zero :
    let b : Build := ⟨true, roundedCms⟩
    let s := (chronometer b).run zeroThenObject
    s.resetsPosted = (chronometer b).countSteps readsZero State.start zeroThenObject ∧
      (Action.sensor 0 ∉ zeroThenObject → .resetTimer ∉ s.statuses) :=
  infrared_resets ⟨true, roundedCms⟩ rfl roundedCms_follows zeroThenObject (by
    intro value hvalue
    simp only [zeroThenObject, List.mem_append, List.mem_replicate, List.mem_cons, List.not_mem_nil,
      Action.sensor.injEq, reduceCtorEq, and_false, or_false, false_or] at hvalue
    unfold adcMax
    omega)

end Aniot.P3
