import Aniot.C.Arith
import Aniot.P5.ReadPeriods

/-! How long the board says it slept.

After a deep sleep `app_main` takes the seconds and the microseconds of the two instants
apart, scales each to milliseconds and adds, all in a `long` of 32 bits; only the sum is
widened to the `int64_t` it is kept in. After a light sleep the difference of the two
instants is taken and divided in 64 bits. The second is exact for any two instants; the
first when the microseconds lose nothing to truncation and the milliseconds stay within
the `long` (`sleep_time_exact_iff`). -/
namespace Aniot.P5
open C

/-- What the toolchain's `time_t` and the kernel's microseconds can be. -/
structure Timeval.Valid (t : Timeval) : Prop where
  sec : Fits 32 t.tvSec
  usec_nonneg : 0 ≤ t.tvUsec
  usec_lt : t.tvUsec < 1000000

/-- The instant in microseconds. -/
def Timeval.micros (t : Timeval) : Int := t.tvSec * 1000000 + t.tvUsec

/-- `sleep_time_ms` of `app_main`. -/
def sleepTimeMs (o : Overflow) (sleepEnterTime now : Timeval) : Option Int := do
  let seconds ← sub o 32 now.tvSec sleepEnterTime.tvSec
  let millis ← mul o 32 seconds 1000
  let micros ← sub o 32 now.tvUsec sleepEnterTime.tvUsec
  let rest ← div o 32 micros 1000
  add o 32 millis rest

/-- What `start_light_mode` prints as slept. -/
def lightSleepMs (o : Overflow) (tBeforeUs tAfterUs : Int) : Option Int := do
  let slept ← sub o 64 tAfterUs tBeforeUs
  div o 64 slept 1000

section Exact
variable {o : Overflow} {sleepEnterTime now : Timeval}

/-- Of the microseconds' part no result leaves the type. -/
theorem sleepTimeMs_eq (henter : sleepEnterTime.Valid) (hnow : now.Valid) :
    sleepTimeMs o sleepEnterTime now =
      (sub o 32 now.tvSec sleepEnterTime.tvSec).bind fun seconds =>
        (mul o 32 seconds 1000).bind fun millis =>
          add o 32 millis ((now.tvUsec - sleepEnterTime.tvUsec).tdiv 1000) := by
  obtain ⟨_, _, _⟩ := henter
  obtain ⟨_, _, _⟩ := hnow
  have hmicros : Fits 32 (now.tvUsec - sleepEnterTime.tvUsec) := by
    constructor <;> omega
  have hrest : Fits 32 ((now.tvUsec - sleepEnterTime.tvUsec).tdiv 1000) := by
    rw [tdiv_eq_div_add (by decide)]
    constructor <;> split <;> omega
  have hdiv : div o 32 (now.tvUsec - sleepEnterTime.tvUsec) 1000 =
      some ((now.tvUsec - sleepEnterTime.tvUsec).tdiv 1000) := by
    rw [div, if_neg (by decide), signed_of_fits hrest]
  simp only [sleepTimeMs, sub, signed_of_fits hmicros, Option.bind_eq_bind, Option.bind_some, hdiv]

theorem sleepTimeMs_wraps (henter : sleepEnterTime.Valid) (hnow : now.Valid) :
    sleepTimeMs .wraps sleepEnterTime now =
      some (((now.tvSec - sleepEnterTime.tvSec) * 1000 +
        (now.tvUsec - sleepEnterTime.tvUsec).tdiv 1000).bmod (2 ^ 32)) := by
  rw [sleepTimeMs_eq henter hnow]
  simp only [sub, mul, add, signed_wraps, Option.bind_some]
  rw [Int.bmod_mul_bmod, Int.bmod_add_bmod]

theorem sleepTimeMs_undefined (henter : sleepEnterTime.Valid) (hnow : now.Valid) {ms : Int} :
    sleepTimeMs .undefined sleepEnterTime now = some ms ↔
      Fits 32 (now.tvSec - sleepEnterTime.tvSec) ∧
      Fits 32 ((now.tvSec - sleepEnterTime.tvSec) * 1000) ∧
      Fits 32 ms ∧
      (now.tvSec - sleepEnterTime.tvSec) * 1000 +
        (now.tvUsec - sleepEnterTime.tvUsec).tdiv 1000 = ms := by
  rw [sleepTimeMs_eq henter hnow]
  simp only [sub, mul, add, Option.bind_eq_some_iff, signed_undefined]
  constructor
  · rintro ⟨_, ⟨hsec, rfl⟩, _, ⟨hmillis, rfl⟩, hsum, rfl⟩
    exact ⟨hsec, hmillis, hsum, rfl⟩
  · rintro ⟨hsec, hmillis, hsum, rfl⟩
    exact ⟨_, ⟨hsec, rfl⟩, _, ⟨hmillis, rfl⟩, hsum, rfl⟩

/-- In 64 bits nothing is lost. -/
theorem lightSleepMs_exact (henter : sleepEnterTime.Valid) (hnow : now.Valid)
    (hle : sleepEnterTime.micros ≤ now.micros) :
    lightSleepMs o sleepEnterTime.micros now.micros =
      some ((now.micros - sleepEnterTime.micros) / 1000) := by
  obtain ⟨⟨_, _⟩, _, _⟩ := henter
  obtain ⟨⟨_, _⟩, _, _⟩ := hnow
  have hslept : Fits 64 (now.micros - sleepEnterTime.micros) := by
    unfold Timeval.micros at *
    constructor <;> omega
  have hdiv : (now.micros - sleepEnterTime.micros).tdiv 1000 =
      (now.micros - sleepEnterTime.micros) / 1000 :=
    Int.tdiv_eq_ediv_of_nonneg (by omega)
  have hfits : Fits 64 ((now.micros - sleepEnterTime.micros) / 1000) := by
    obtain ⟨_, _⟩ := hslept
    constructor <;> omega
  rw [lightSleepMs, sub, signed_of_fits hslept, Option.bind_eq_bind, Option.bind_some, div,
    if_neg (by decide), hdiv, signed_of_fits hfits]

/-- The part that is truncated, against the floor of the whole. -/
theorem exact_eq (sleepEnterTime now : Timeval) :
    (now.micros - sleepEnterTime.micros) / 1000 =
      (now.tvSec - sleepEnterTime.tvSec) * 1000 + (now.tvUsec - sleepEnterTime.tvUsec) / 1000 := by
  unfold Timeval.micros
  omega

theorem wraps_exact_iff (henter : sleepEnterTime.Valid) (hnow : now.Valid)
    (hle : sleepEnterTime.micros ≤ now.micros) :
    sleepTimeMs .wraps sleepEnterTime now = some ((now.micros - sleepEnterTime.micros) / 1000) ↔
      (0 ≤ now.tvUsec - sleepEnterTime.tvUsec ∨ 1000 ∣ now.tvUsec - sleepEnterTime.tvUsec) ∧
      (now.micros - sleepEnterTime.micros) / 1000 < 2 ^ 31 := by
  have hexact := exact_eq sleepEnterTime now
  rw [sleepTimeMs_wraps henter hnow, tdiv_eq_div_add (by decide), Option.some.injEq, ← Int.add_assoc,
    ← hexact]
  have hnonneg : 0 ≤ (now.micros - sleepEnterTime.micros) / 1000 := by omega
  generalize (now.micros - sleepEnterTime.micros) / 1000 = exact at hnonneg ⊢
  split
  · next hwhole =>
    rw [Int.add_zero, bmod_eq_self_iff, and_iff_right hwhole]
    constructor
    · rintro ⟨_, hhigh⟩
      omega
    · intro hlt
      constructor <;> omega
  · next hlost =>
    -- one more than the floor is not the floor, nor is anything it wraps to
    refine iff_of_false (fun h => ?_) (fun h => hlost h.1)
    rw [Int.bmod_eq_self_sub_mul_bdiv] at h
    omega

theorem undefined_exact_iff (henter : sleepEnterTime.Valid) (hnow : now.Valid)
    (hle : sleepEnterTime.micros ≤ now.micros) :
    sleepTimeMs .undefined sleepEnterTime now = some ((now.micros - sleepEnterTime.micros) / 1000) ↔
      (0 ≤ now.tvUsec - sleepEnterTime.tvUsec ∨ 1000 ∣ now.tvUsec - sleepEnterTime.tvUsec) ∧
      (now.micros - sleepEnterTime.micros) / 1000 < 2 ^ 31 ∧
      (now.tvSec - sleepEnterTime.tvSec) * 1000 < 2 ^ 31 := by
  have hexact := exact_eq sleepEnterTime now
  have hsec : 0 ≤ now.tvSec - sleepEnterTime.tvSec := by
    have := henter.usec_nonneg
    have := hnow.usec_lt
    unfold Timeval.micros at hle
    omega
  rw [sleepTimeMs_undefined henter hnow, tdiv_eq_div_add (by decide)]
  constructor
  · rintro ⟨_, ⟨_, hmillis⟩, ⟨_, hms⟩, hsum⟩
    have hwhole : 0 ≤ now.tvUsec - sleepEnterTime.tvUsec ∨
        1000 ∣ now.tvUsec - sleepEnterTime.tvUsec := by
      by_contra hlost
      rw [if_neg hlost] at hsum
      omega
    exact ⟨hwhole, by omega, by omega⟩
  · rintro ⟨hwhole, hms, hmillis⟩
    rw [if_pos hwhole]
    refine ⟨⟨?_, ?_⟩, ⟨?_, ?_⟩, ⟨?_, ?_⟩, ?_⟩ <;> omega

end Exact

/-- **After a light sleep the milliseconds are exact. After a deep sleep they are exactly when
the microseconds of the day do not go back by a broken number of milliseconds, the sleep is
shorter than `2 ^ 31` milliseconds and, where an overflow is not even promised to wrap, its
whole seconds are.** -/
theorem sleep_time_exact_iff (o : Overflow) (sleepEnterTime now : Timeval)
    (henter : sleepEnterTime.Valid) (hnow : now.Valid)
    (hle : sleepEnterTime.micros ≤ now.micros) :
    lightSleepMs o sleepEnterTime.micros now.micros =
        some ((now.micros - sleepEnterTime.micros) / 1000) ∧
      (sleepTimeMs o sleepEnterTime now = some ((now.micros - sleepEnterTime.micros) / 1000) ↔
        (0 ≤ now.tvUsec - sleepEnterTime.tvUsec ∨ 1000 ∣ now.tvUsec - sleepEnterTime.tvUsec) ∧
        (now.micros - sleepEnterTime.micros) / 1000 < 2 ^ 31 ∧
        (o = .undefined → (now.tvSec - sleepEnterTime.tvSec) * 1000 < 2 ^ 31)) := by
  refine ⟨lightSleepMs_exact henter hnow hle, ?_⟩
  cases o with
  | undefined => simpa using undefined_exact_iff henter hnow hle
  | wraps => simpa using wraps_exact_iff henter hnow hle

/-- Ten seconds and fifty milliseconds. -/
theorem sleep_time_exact_forward :
    lightSleepMs .wraps (Timeval.micros ⟨100, 250000⟩) (Timeval.micros ⟨110, 300000⟩) =
        some ((Timeval.micros ⟨110, 300000⟩ - Timeval.micros ⟨100, 250000⟩) / 1000) ∧
      (sleepTimeMs .wraps ⟨100, 250000⟩ ⟨110, 300000⟩ =
          some ((Timeval.micros ⟨110, 300000⟩ - Timeval.micros ⟨100, 250000⟩) / 1000) ↔
        ((0 : Int) ≤ 300000 - 250000 ∨ (1000 : Int) ∣ 300000 - 250000) ∧
        (Timeval.micros ⟨110, 300000⟩ - Timeval.micros ⟨100, 250000⟩) / 1000 < 2 ^ 31 ∧
        (Overflow.wraps = .undefined → ((110 : Int) - 100) * 1000 < 2 ^ 31)) :=
  sleep_time_exact_iff .wraps ⟨100, 250000⟩ ⟨110, 300000⟩ ⟨by decide, by decide, by decide⟩
    ⟨by decide, by decide, by decide⟩ (by decide)

/-- Asleep at the end of a second and awake at the beginning of another: a millisecond more
than it slept. -/
theorem sleep_time_rounded_up :
    ¬ ∃ o, ∀ sleepEnterTime now : Timeval, sleepEnterTime.Valid → now.Valid →
      sleepEnterTime.micros ≤ now.micros →
      sleepTimeMs o sleepEnterTime now = some ((now.micros - sleepEnterTime.micros) / 1000) := by
  rintro ⟨o, h⟩
  have hmore := h ⟨100, 999999⟩ ⟨110, 0⟩ ⟨by decide, by decide, by decide⟩
    ⟨by decide, by decide, by decide⟩ (by decide)
  cases o <;> exact absurd hmore (by decide)

end Aniot.P5
