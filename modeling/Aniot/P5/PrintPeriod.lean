import Aniot.C.Arith

/-! The pause between two prints of p4 and p5.

Both take the second that a read of the sensor waits off `MILLIS_TO_PRINT`. The task of
p4, which p5 keeps beside its timer, does it in an `int` that the division by the
unsigned `portTICK_RATE_MS` then converts; `app_main` of p5 does it in an `int` of
microseconds that `esp_timer_start_periodic` takes as a `uint64_t`. A setting below one
second goes to the top of the unsigned range in both, and one of some weeks leaves the
`int` of the second (`prints_on_time_iff`). -/
namespace Aniot
open C

/-- `portTICK_RATE_MS`; `TickType_t` is unsigned, of 32 bits. -/
def portTickRateMs (freertosHz : Nat) : Nat := 1000 / freertosHz

/-- `(CONFIG_MILLIS_TO_PRINT - 1000) / portTICK_RATE_MS`, in ticks. -/
def printDelay (freertosHz : Nat) (o : Overflow) (millisToPrint : Int) : Option Nat := do
  let millis ← sub o 32 millisToPrint 1000
  return toUnsigned 32 millis / portTickRateMs freertosHz

/-- The settings that leave the range of a difference with one second alone. -/
theorem sub_thousand (o : Overflow) {m : Nat} (h : m ≤ intMax) :
    sub o 32 m 1000 = some ((m : Int) - 1000) := by
  unfold intMax at h
  apply signed_of_fits
  constructor <;> omega

/-- Below one second the delay is of years. -/
theorem printDelay_eq (freertosHz : Nat) (o : Overflow) {m : Nat} (h : m ≤ intMax) :
    printDelay freertosHz o m =
      some ((if 1000 ≤ m then m - 1000 else m + 2 ^ 32 - 1000) / portTickRateMs freertosHz) := by
  have hmillis : toUnsigned 32 ((m : Int) - 1000) = if 1000 ≤ m then m - 1000 else m + 2 ^ 32 - 1000 := by
    unfold intMax at h
    have hconverted : (toUnsigned 32 ((m : Int) - 1000) : Int) = _ :=
      toUnsigned_eq (by omega) (by omega)
    split at hconverted <;> split <;> omega
  rw [printDelay, sub_thousand o h, Option.bind_eq_bind, Option.bind_some, hmillis]
  rfl

namespace P4

def configFreertosHz : Nat := 100

/-- What `sensor_temp_task` gives `vTaskDelay`. -/
def sensorTempTaskDelay (o : Overflow) (millisToPrint : Int) : Option Nat :=
  printDelay configFreertosHz o millisToPrint

end P4

namespace P5

def configFreertosHz : Nat := 100

/-- What `sensor_temp_task` gives `vTaskDelay`. -/
def sensorTempTaskDelay (o : Overflow) (millisToPrint : Int) : Option Nat :=
  printDelay configFreertosHz o millisToPrint

/-- The period, in microseconds, that `app_main` starts the sensor's timer with. -/
def sensorReadPeriod (o : Overflow) (millisToPrint : Int) : Option Nat := do
  let micros ← mul o 32 millisToPrint 1000
  let period ← sub o 32 micros 1000000
  return toUnsigned 64 period

end P5

/-! ### When the pause is what the setting says -/

theorem delay_iff (o : Overflow) {m : Nat} (h : m ≤ intMax) :
    printDelay 100 o m = some ((m - 1000) / 10) ↔ 1000 ≤ m := by
  unfold intMax at h
  rw [printDelay_eq 100 o h, Option.some.injEq, show portTickRateMs 100 = 10 from rfl]
  split <;> omega

theorem period_undefined_iff {m : Nat} :
    P5.sensorReadPeriod .undefined m = some (1000 * (m - 1000)) ↔ 1000 ≤ m ∧ m ≤ 2147483 := by
  simp only [P5.sensorReadPeriod, mul, sub, Option.bind_eq_bind, Option.bind_eq_some_iff,
    signed_undefined, Option.pure_def, Option.some.injEq]
  constructor
  · rintro ⟨_, ⟨⟨_, hmicros⟩, rfl⟩, _, ⟨_, rfl⟩, hperiod⟩
    have hconverted : (toUnsigned 64 ((m : Int) * 1000 - 1000000) : Int) = _ :=
      toUnsigned_eq (by omega) (by omega)
    split at hconverted <;> omega
  · rintro ⟨hlong, hshort⟩
    have hconverted : (toUnsigned 64 ((m : Int) * 1000 - 1000000) : Int) = _ :=
      toUnsigned_eq (by omega) (by omega)
    rw [if_pos (by omega)] at hconverted
    refine ⟨_, ⟨⟨?_, ?_⟩, rfl⟩, _, ⟨⟨?_, ?_⟩, rfl⟩, ?_⟩ <;> omega

/-- The product may leave the type on the way to a difference that does not. -/
theorem period_wraps_iff {m : Nat} (h : m ≤ intMax) :
    P5.sensorReadPeriod .wraps m = some (1000 * (m - 1000)) ↔ 1000 ≤ m ∧ m ≤ 2148483 := by
  unfold intMax at h
  have hperiod : P5.sensorReadPeriod .wraps m =
      some (toUnsigned 64 (((m : Int) * 1000 - 1000000).bmod (2 ^ 32))) := by
    simp only [P5.sensorReadPeriod, mul, sub, signed_wraps, Option.bind_eq_bind, Option.bind_some,
      Int.bmod_sub_bmod, Option.pure_def]
  rw [hperiod, Option.some.injEq]
  by_cases hfits : Fits 32 ((m : Int) * 1000 - 1000000)
  · rw [bmod_of_fits hfits]
    obtain ⟨hlow, hhigh⟩ := hfits
    have hconverted : (toUnsigned 64 ((m : Int) * 1000 - 1000000) : Int) = _ :=
      toUnsigned_eq (by omega) (by omega)
    split at hconverted <;> omega
  · have hwrapped := mt bmod_eq_self_iff.mp hfits
    obtain ⟨hlow, hhigh⟩ := fits_bmod 32 ((m : Int) * 1000 - 1000000)
    generalize ((m : Int) * 1000 - 1000000).bmod (2 ^ 32) = period at hwrapped hlow hhigh
    have hrange : ¬ (1000 ≤ m ∧ m ≤ 2148483) := fun hm => hfits (by constructor <;> omega)
    refine iff_of_false (fun hp => ?_) hrange
    have hconverted : (toUnsigned 64 period : Int) = _ := toUnsigned_eq (by omega) (by omega)
    unfold Fits at hfits
    split at hconverted <;> omega

/-- The longest setting whose microseconds are right. -/
def maxMillisToPrint : Overflow → Nat
  | .undefined => 2147483
  | .wraps => 2148483

theorem period_iff (o : Overflow) {m : Nat} (h : m ≤ intMax) :
    P5.sensorReadPeriod o m = some (1000 * (m - 1000)) ↔ 1000 ≤ m ∧ m ≤ maxMillisToPrint o := by
  cases o with
  | undefined => exact period_undefined_iff
  | wraps => exact period_wraps_iff h

/-- The waits are what is left of the setting, in ticks of ten milliseconds and in
microseconds; so they differ by less than a tick and are no longer than the setting. -/
structure PrintsOnTime (o : Overflow) (m : Nat) : Prop where
  p4 : P4.sensorTempTaskDelay o m = some ((m - 1000) / 10)
  p5 : P5.sensorTempTaskDelay o m = some ((m - 1000) / 10)
  timer : P5.sensorReadPeriod o m = some (1000 * (m - 1000))
  agree : ∀ ticks micros, P5.sensorTempTaskDelay o m = some ticks → P5.sensorReadPeriod o m = some micros →
    10000 * ticks ≤ micros ∧ micros < 10000 * (ticks + 1) ∧ 10 * ticks ≤ m ∧ micros ≤ 1000 * m

/-- **The pauses are what the setting says exactly from one second to what the `int` of the
microseconds holds.** -/
theorem prints_on_time_iff (o : Overflow) (m : Nat) (h : m ≤ intMax) :
    PrintsOnTime o m ↔ 1000 ≤ m ∧ m ≤ maxMillisToPrint o := by
  constructor
  · intro hm
    exact (period_iff o h).mp hm.timer
  · intro hm
    have hdelay : printDelay 100 o m = some ((m - 1000) / 10) := (delay_iff o h).mpr hm.1
    have hperiod : P5.sensorReadPeriod o m = some (1000 * (m - 1000)) := (period_iff o h).mpr hm
    refine ⟨hdelay, hdelay, hperiod, fun ticks micros hticks hmicros => ?_⟩
    obtain rfl : (m - 1000) / 10 = ticks := Option.some.inj (hdelay.symm.trans hticks)
    obtain rfl : 1000 * (m - 1000) = micros := Option.some.inj (hperiod.symm.trans hmicros)
    omega

/-- The default setting. -/
theorem prints_on_time_default :
    PrintsOnTime .wraps 4000 ↔ 1000 ≤ 4000 ∧ 4000 ≤ maxMillisToPrint .wraps :=
  prints_on_time_iff .wraps 4000 (by decide)

/-- Half a second. -/
theorem half_second_wraps : ¬ ∃ o, ∀ m ≤ intMax, PrintsOnTime o m := by
  rintro ⟨o, h⟩
  have hdelay := (h 500 (by decide)).p4
  cases o <;> exact absurd hdelay (by decide)

end Aniot
