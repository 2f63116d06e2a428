import Mathlib.Data.Nat.ModEq
import Mathlib.Tactic.NormNum
import Aniot.C.Arith
import Aniot.P2.Window

/-! The filter of `p2/src/main_2.c`, and which value each of its slots holds.

`filter_task` writes its numbers round an array of `MAX_SIZE` and never moves them; the
weights belong to the slots, not to the ages. Its array is not initialised, and every
slot has been written before the first mean is taken (`received_slots`). The count only
grows, so it leaves the `int` after `INT_MAX` numbers and no mean follows
(`received_past`). Of the expression for the mean only the last product is divided, by
the sum of the weights as an `int`, which is one. -/
namespace Aniot.P2.Main2
open C

def maxSize : Nat := 5

def meanWeight1 : Rat := 5 / 100
def meanWeight2 : Rat := 10 / 100
def meanWeight3 : Rat := 15 / 100
def meanWeight4 : Rat := 25 / 100
def meanWeight5 : Rat := 45 / 100

/-- `sensor_t`. -/
structure Sensor where
  id : Int
  tag : Int
  count : Int

/-- `sensor_data_t`, with the number as the `int` that a slot holds of it. -/
structure SensorData where
  number : Int
  timestamp : Int

/-- `controller_t`. -/
structure Controller where
  sensorId : Int
  taskId : Int
  data : Rat
  timestamp : Int

/-- What `filter_task` keeps between two numbers: its copy of the sensor and its array. -/
structure FilterTask where
  sensor : Sensor
  queue : List Int
  size : queue.length = maxSize

/-- The sensor as `app_main` sets it up; the array holds anything. -/
def FilterTask.start (t : FilterTask) : FilterTask := {t with sensor := {t.sensor with count := 0}}

/-- The conversion to `int` drops the fraction. -/
def toInt (x : Rat) : Int := x.num.tdiv x.den

def total : Int := toInt (meanWeight1 + meanWeight2 + meanWeight3 + meanWeight4 + meanWeight5)

/-- The expression for the mean. -/
def mean (queue : List Int) : Option Rat := do
  let q0 : Int ← queue[0]?
  let q1 : Int ← queue[1]?
  let q2 : Int ← queue[2]?
  let q3 : Int ← queue[3]?
  let q4 : Int ← queue[4]?
  return q0 * meanWeight1 + q1 * meanWeight2 + q2 * meanWeight3 + q3 * meanWeight4 +
    q4 * meanWeight5 / total

/-- A number in its slot, and the next count. -/
def FilterTask.insert (t : FilterTask) (slot : Nat) (number count : Int) : FilterTask where
  sensor := {t.sensor with count}
  queue := t.queue.set slot number
  size := by rw [List.length_set, t.size]

/-- What `filter_task` does with a number received, up to the send. -/
def filterTask (o : Overflow) (t : FilterTask) (sensorData : SensorData) :
    Option (FilterTask × Option Controller) :=
  let slot := t.sensor.count.tmod maxSize
  -- a remainder takes the sign of the count
  if slot < 0 then none
  else do
    let count ← add o 32 t.sensor.count 1
    let t := t.insert slot.toNat sensorData.number count
    if count ≥ maxSize then do
      let data ← mean t.queue
      return (t, some
        { sensorId := t.sensor.id
          taskId := t.sensor.tag
          data
          timestamp := sensorData.timestamp })
    else return (t, none)

/-- The task after some numbers. -/
def received (o : Overflow) (t : FilterTask) (samples : List SensorData) : Option FilterTask :=
  samples.foldlM (fun t sensorData => (filterTask o t sensorData).map Prod.fst) t

/-! ### Which number a slot holds -/

/-- Each of the latest numbers is in the slot of its count. -/
def Holds (queue : List Int) (numbers : List Int) : Prop :=
  ∀ k < queue.length, k < numbers.length →
    queue[(numbers.length - 1 - k) % queue.length]? = some (latest numbers k)

theorem latest_concat_zero (numbers : List Int) (x : Int) : latest (numbers ++ [x]) 0 = x := by
  rw [latest, List.reverse_append]
  rfl

theorem latest_concat_succ (numbers : List Int) (x : Int) (k : Nat) :
    latest (numbers ++ [x]) (k + 1) = latest numbers k := by
  rw [latest, List.reverse_append]
  rfl

/-- The slot of a count is not that of any of the counts up to one round before. -/
theorem slot_ne {m n k : Nat} (hk : k + 1 < m) (hn : k < n) : (n - 1 - k) % m ≠ n % m := by
  intro heq
  have hdvd : m ∣ n - (n - 1 - k) := (Nat.modEq_iff_dvd' (by omega)).mp heq
  have hage : n - (n - 1 - k) = k + 1 := by omega
  rw [hage] at hdvd
  exact absurd (Nat.le_of_dvd (Nat.succ_pos k) hdvd) (by omega)

theorem Holds.push {queue numbers : List Int} (h : Holds queue numbers) (x : Int) :
    Holds (queue.set (numbers.length % queue.length) x) (numbers ++ [x]) := by
  intro k hk hn
  rw [List.length_set] at hk ⊢
  rw [List.length_append, List.length_singleton] at hn ⊢
  have hpos : 0 < queue.length := by omega
  cases k with
  | zero =>
    rw [latest_concat_zero, Nat.add_sub_cancel, Nat.sub_zero]
    exact List.getElem?_set_self (Nat.mod_lt _ hpos)
  | succ k =>
    rw [latest_concat_succ, show numbers.length + 1 - 1 - (k + 1) = numbers.length - 1 - k by omega,
      List.getElem?_set_ne (slot_ne hk (by omega)).symm]
    exact h k (by omega) (by omega)

/-! ### The task after some numbers -/

theorem total_eq : total = 1 := by
  have hsum : meanWeight1 + meanWeight2 + meanWeight3 + meanWeight4 + meanWeight5 = 1 := by
    norm_num [meanWeight1, meanWeight2, meanWeight3, meanWeight4, meanWeight5]
  rw [total, hsum]
  rfl

/-- A whole array has a mean. -/
theorem mean_total {queue : List Int} (h : queue.length = maxSize) : ∃ data, mean queue = some data := by
  obtain ⟨q0, queue, rfl⟩ := List.exists_cons_of_length_eq_add_one h
  obtain ⟨q1, q2, q3, q4, rfl⟩ := List.length_eq_four.mp (Nat.succ.inj h)
  exact ⟨_, rfl⟩

/-- With room in the `int` the next number goes to the slot of the count. -/
theorem filterTask_counts (o : Overflow) {t : FilterTask} {n : Nat} (hcount : t.sensor.count = n)
    (hn : n < intMax) (sensorData : SensorData) :
    ∃ out, filterTask o t sensorData =
        some (t.insert (n % maxSize) sensorData.number (n + 1 : Nat), out) ∧
      (maxSize ≤ n + 1 → ∃ c, out = some c ∧
        mean (t.insert (n % maxSize) sensorData.number (n + 1 : Nat)).queue = some c.data) := by
  have hslot : (n : Int).tmod maxSize = (n % maxSize : Nat) := by
    rw [Int.tmod_eq_emod_of_nonneg (Int.natCast_nonneg n), Int.natCast_mod]
  have hadd : add o 32 n 1 = some ((n + 1 : Nat) : Int) := by
    unfold intMax at hn
    rw [add, signed_of_fits]
    · rfl
    · constructor <;> omega
  have hnot : ¬ ((n % maxSize : Nat) : Int) < 0 := by omega
  rw [filterTask, hcount, hslot]
  simp only [if_neg hnot, hadd, Option.bind_eq_bind, Option.bind_some, Int.toNat_natCast]
  by_cases hfull : ((n + 1 : Nat) : Int) ≥ maxSize
  · obtain ⟨data, hdata⟩ :=
      mean_total (t.insert (n % maxSize) sensorData.number (n + 1 : Nat)).size
    simp only [if_pos hfull, hdata, Option.bind_some, Option.pure_def]
    exact ⟨_, rfl, fun _ => ⟨_, rfl, rfl⟩⟩
  · simp only [if_neg hfull, Option.pure_def]
    exact ⟨_, rfl, fun hn => absurd (Int.ofNat_le.mpr hn) hfull⟩

/-- The number after `INT_MAX` others leaves no mean, and at most a negative count. -/
theorem filterTask_overflows {o : Overflow} {t t' : FilterTask} {sensorData : SensorData}
    {out : Option Controller} (hcount : t.sensor.count = intMax)
    (h : filterTask o t sensorData = some (t', out)) :
    t'.sensor.count = -2 ^ 31 ∧ out = none := by
  have hslot : (intMax : Int).tmod maxSize = 2 := rfl
  rw [filterTask, hcount, hslot] at h
  cases o with
  | undefined => cases h
  | wraps =>
    have hadd : add .wraps 32 intMax 1 = some (-2 ^ 31) := rfl
    simp only [hadd, Option.bind_eq_bind, Option.bind_some] at h
    rw [if_neg (by decide), if_neg (by decide)] at h
    cases h
    exact ⟨rfl, rfl⟩

theorem filterTask_negative {o : Overflow} {t : FilterTask} (hcount : t.sensor.count = -2 ^ 31)
    (sensorData : SensorData) : filterTask o t sensorData = none := by
  rw [filterTask, hcount]
  exact if_pos (by decide)

theorem received_concat (o : Overflow) (t : FilterTask) (samples : List SensorData) (d : SensorData) :
    received o t (samples ++ [d]) =
      (received o t samples).bind fun t => (filterTask o t d).map Prod.fst := by
  rw [received, List.foldlM_append]
  exact bind_congr fun t => bind_pure _

/-- Up to `INT_MAX` numbers are counted, and the latest are in the slots of their counts. -/
theorem received_slots (o : Overflow) (t : FilterTask) (samples : List SensorData)
    (h : samples.length ≤ intMax) :
    ∃ t', received o t.start samples = some t' ∧ t'.sensor.count = samples.length ∧
      Holds t'.queue (samples.map SensorData.number) := by
  induction samples using List.reverseRecOn with
  | nil => exact ⟨t.start, rfl, rfl, fun k _ hk => absurd hk (Nat.not_lt_zero k)⟩
  | append_singleton samples d ih =>
    rw [List.length_append, List.length_singleton] at h ⊢
    obtain ⟨t', hreceived, hcount, hholds⟩ := ih (by omega)
    obtain ⟨out, hstep, _⟩ := filterTask_counts o hcount (by omega) d
    refine ⟨t'.insert (samples.length % maxSize) d.number (samples.length + 1 : Nat), ?_, rfl, ?_⟩
    · rw [received_concat, hreceived, Option.bind_some, hstep]
      rfl
    · have hpush := hholds.push d.number
      rw [List.length_map, t'.size] at hpush
      rw [List.map_append]
      exact hpush

/-- After more the count is negative, if the task is still there. -/
theorem received_past (o : Overflow) (t : FilterTask) (samples : List SensorData)
    (h : intMax < samples.length) {t' : FilterTask} (hreceived : received o t.start samples = some t') :
    t'.sensor.count = -2 ^ 31 := by
  induction samples using List.reverseRecOn generalizing t' with
  | nil => exact absurd h (Nat.not_lt_zero _)
  | append_singleton samples d ih =>
    rw [List.length_append, List.length_singleton] at h
    rw [received_concat, Option.bind_eq_some_iff] at hreceived
    obtain ⟨before, hbefore, hlast⟩ := hreceived
    obtain ⟨⟨after, out⟩, hstep, rfl⟩ := Option.map_eq_some_iff.mp hlast
    by_cases hfirst : samples.length ≤ intMax
    · obtain ⟨t'', hsame, hcount, _⟩ := received_slots o t samples hfirst
      obtain rfl : t'' = before := Option.some.inj (hsame.symm.trans hbefore)
      rw [show samples.length = intMax by omega] at hcount
      exact (filterTask_overflows hcount hstep).1
    · rw [filterTask_negative (ih (by omega) hbefore)] at hstep
      cases hstep

end Aniot.P2.Main2
