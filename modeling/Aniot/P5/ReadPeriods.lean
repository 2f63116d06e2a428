import Mathlib.Algebra.Group.Nat.Defs
import Aniot.C.Arith
import Aniot.Machine.Run

/-! The sensor reader of `p5/src/main.c`, over any number of deep sleeps.

The timer's callback reads the sensor and counts, or, once the count is past
`MAX_READ_COUNT`, goes to deep sleep; a wake-up runs the program anew, so `read_count`
and `sleep_mode_active` begin again and only `sleep_enter_time` is kept. A failed read
counts as a good one does. `sensor_temp_task`, whose body is the callback's, is not
started.

Beside what the code keeps, a state has a history no step reads: what was reported of
the reads of each period that ended in deep sleep, and of those since the last wake-up.
The comparison is strict and made before the increment, so a period that ends has one
read more than the constant says (`reads_per_period_iff`). -/
namespace Aniot.P5
open C

def espOk : Int := 0
def espErrTimeout : Int := 0x107

structure Timeval where
  tvSec : Int
  tvUsec : Int

/-- How the two transactions of a read end, and the bytes the second brings. -/
structure I2c where
  write : Int
  read : Int
  dataTemp1 : BitVec 8
  dataTemp2 : BitVec 8

/-- `read_i2c_master_sensor`; the bytes are there when it returns `ESP_OK`. -/
def readI2cMasterSensor (bus : I2c) : Int × BitVec 8 × BitVec 8 :=
  if bus.write ≠ espOk then (bus.write, 0, 0) else (bus.read, bus.dataTemp1, bus.dataTemp2)

/-- What the callback logs of a read. -/
inductive Report where
  | timeout
  | sensorData (temp : BitVec 16)
  | noAck (ret : Int)
deriving DecidableEq

def report : Int × BitVec 8 × BitVec 8 → Report
  | (ret, dataTemp1, dataTemp2) =>
    if ret = espErrTimeout then .timeout
    else if ret = espOk then .sensorData ((dataTemp1.zeroExtend 16 <<< 8) + dataTemp2.zeroExtend 16)
    else .noAck ret

/-- Past the largest `int` nothing is promised of the program. -/
inductive Power where
  | awake
  | deepSleep
  | overflown
deriving DecidableEq

structure State where
  power : Power
  readCount : Nat
  sleepModeActive : Bool
  sleepEnterTime : Timeval
  /-- The reads since the last wake-up. -/
  reads : List Report
  /-- Those of each period before. -/
  periods : List (List Report)

inductive Action where
  | timer (bus : I2c) (now : Timeval)
  | wakeUp

def startDeepMode (now : Timeval) (s : State) : State :=
  {s with power := .deepSleep, sleepEnterTime := now, periods := s.periods ++ [s.reads]}

/-- `read_count++`. -/
def countRead (s : State) : State :=
  if s.readCount < intMax then {s with readCount := s.readCount + 1} else {s with power := .overflown}

def sensorReadTimerCallback (maxReadCount : Nat) (bus : I2c) (now : Timeval) (s : State) : State :=
  if s.readCount > maxReadCount && !s.sleepModeActive then
    startDeepMode now {s with sleepModeActive := true}
  else countRead {s with reads := s.reads ++ [report (readI2cMasterSensor bus)]}

def step (maxReadCount : Nat) (s : State) : Action → State
  | .timer bus now => if s.power = .awake then sensorReadTimerCallback maxReadCount bus now s else s
  | .wakeUp =>
    if s.power = .deepSleep then
      {s with power := .awake, readCount := 0, sleepModeActive := false, reads := []}
    else s

/-- The reader from its first start. -/
def reader (maxReadCount : Nat) : Machine State Action where
  start :=
    { power := .awake
      readCount := 0
      sleepModeActive := false
      sleepEnterTime := ⟨0, 0⟩
      reads := []
      periods := [] }
  step := step maxReadCount

/-! ### What a step does -/

/-- A step does nothing, reads, goes to sleep, wakes up, or counts past the largest `int`. -/
inductive Moves (maxReadCount : Nat) (s : State) : Action → State → Prop where
  | stays (a : Action) : Moves maxReadCount s a s
  | reads (bus : I2c) (now : Timeval) (ha : s.power = .awake)
      (hcount : ¬ (s.readCount > maxReadCount && !s.sleepModeActive)) (hint : s.readCount < intMax) :
      Moves maxReadCount s (.timer bus now) {s with
        readCount := s.readCount + 1
        reads := s.reads ++ [report (readI2cMasterSensor bus)]}
  | overflows (bus : I2c) (now : Timeval) (ha : s.power = .awake) :
      Moves maxReadCount s (.timer bus now) {s with
        power := .overflown
        reads := s.reads ++ [report (readI2cMasterSensor bus)]}
  | sleeps (bus : I2c) (now : Timeval) (ha : s.power = .awake) (hcount : s.readCount > maxReadCount) :
      Moves maxReadCount s (.timer bus now) (startDeepMode now {s with sleepModeActive := true})
  | wakes (hs : s.power = .deepSleep) :
      Moves maxReadCount s .wakeUp
        {s with power := .awake, readCount := 0, sleepModeActive := false, reads := []}

theorem step_moves (maxReadCount : Nat) (s : State) (a : Action) :
    Moves maxReadCount s a (step maxReadCount s a) := by
  cases a with
  | timer bus now =>
    rw [step]
    split
    · next ha =>
      unfold sensorReadTimerCallback countRead
      split
      · next hcount =>
        rw [Bool.and_eq_true, decide_eq_true_eq] at hcount
        exact .sleeps bus now ha hcount.1
      · next hcount =>
        split
        · next hint => exact .reads bus now ha hcount hint
        · exact .overflows bus now ha
    · exact .stays _
  | wakeUp =>
    rw [step]
    split
    · next hs => exact .wakes hs
    · exact .stays _

/-! ### The reads of a period -/

/-- Awake, every read has been counted and at most one past the constant made. -/
structure Counted (maxReadCount : Nat) (s : State) : Prop where
  active : s.power = .awake → s.sleepModeActive = false
  count : s.power = .awake → s.readCount = s.reads.length
  bound : s.power = .awake → s.readCount ≤ maxReadCount + 1
  int : s.readCount ≤ intMax
  periods : ∀ period ∈ s.periods, period.length = maxReadCount + 1 ∧ maxReadCount < intMax

theorem moves_counted {maxReadCount : Nat} {s : State} {a : Action} {s' : State}
    (h : Counted maxReadCount s) (hm : Moves maxReadCount s a s') : Counted maxReadCount s' := by
  cases hm with
  | stays a => exact h
  | reads bus now ha hcount hint =>
    rw [h.active ha, Bool.not_false, Bool.and_true, decide_eq_true_eq] at hcount
    refine ⟨h.active, fun _ => ?_, fun _ => ?_, hint, h.periods⟩
    · show s.readCount + 1 = (s.reads ++ [_]).length
      rw [h.count ha, List.length_append, List.length_singleton]
    · exact Nat.succ_le_succ (Nat.le_of_not_lt hcount)
  | overflows bus now ha => exact ⟨nofun, nofun, nofun, h.int, h.periods⟩
  | sleeps bus now ha hcount =>
    have hbound := h.bound ha
    have hint := h.int
    refine ⟨nofun, nofun, nofun, h.int, fun period hp => ?_⟩
    rcases List.mem_append.mp hp with hp | hp
    · exact h.periods period hp
    · rw [List.mem_singleton.mp hp]
      show s.reads.length = maxReadCount + 1 ∧ maxReadCount < intMax
      rw [← h.count ha]
      omega
  | wakes hs => exact ⟨fun _ => rfl, fun _ => rfl, fun _ => Nat.zero_le _, Nat.zero_le _, h.periods⟩

theorem run_counted (maxReadCount : Nat) (actions : List Action) :
    Counted maxReadCount ((reader maxReadCount).run actions) :=
  Machine.run_invariant (reader maxReadCount)
    ⟨fun _ => rfl, fun _ => rfl, fun _ => Nat.zero_le _, Nat.zero_le _, nofun⟩
    (fun s a h => moves_counted h (step_moves maxReadCount s a)) actions

/-- Up to one past the constant each firing of the timer reads. -/
theorem run_reads {maxReadCount : Nat} (hint : maxReadCount < intMax) (bus : I2c) (now : Timeval)
    (n : Nat) (hn : n ≤ maxReadCount + 1) :
    ((reader maxReadCount).run (List.replicate n (.timer bus now))).power = .awake ∧
      ((reader maxReadCount).run (List.replicate n (.timer bus now))).readCount = n := by
  induction n with
  | zero => exact ⟨rfl, rfl⟩
  | succ n ih =>
    obtain ⟨hpower, hcount⟩ := ih (Nat.le_of_succ_le hn)
    rw [List.replicate_succ', Machine.run_append]
    generalize (reader maxReadCount).run (List.replicate n (.timer bus now)) = s at hpower hcount
    have hnot : ¬ s.readCount > maxReadCount := by omega
    show (step maxReadCount s (.timer bus now)).power = .awake ∧
      (step maxReadCount s (.timer bus now)).readCount = n + 1
    rw [step, if_pos hpower, sensorReadTimerCallback, decide_eq_false hnot, Bool.false_and,
      if_neg Bool.false_ne_true, countRead, if_pos (show s.readCount < intMax by omega)]
    exact ⟨hpower, congrArg (· + 1) hcount⟩

/-- With a count that can exceed the constant the first period ends. -/
theorem period_ends {maxReadCount : Nat} (hint : maxReadCount < intMax) (bus : I2c) (now : Timeval) :
    ∃ period, period ∈
      ((reader maxReadCount).run (List.replicate (maxReadCount + 2) (.timer bus now))).periods := by
  obtain ⟨hpower, hcount⟩ := run_reads hint bus now (maxReadCount + 1) (Nat.le_refl _)
  have hactive := (run_counted maxReadCount (List.replicate (maxReadCount + 1) (.timer bus now))).active hpower
  rw [List.replicate_succ', Machine.run_append]
  generalize (reader maxReadCount).run (List.replicate (maxReadCount + 1) (.timer bus now)) = s at *
  have hpast : s.readCount > maxReadCount := by omega
  show ∃ period, period ∈ (step maxReadCount s (.timer bus now)).periods
  rw [step, if_pos hpower, sensorReadTimerCallback, decide_eq_true hpast, hactive, Bool.not_false,
    Bool.and_true, if_pos rfl]
  exact ⟨s.reads, List.mem_append_right _ (List.mem_singleton.mpr rfl)⟩

/-- **Every period that ends in deep sleep has one read more than `MAX_READ_COUNT`; it has as many
as the constant says only when no `int` exceeds the constant, and so none ends.** -/
theorem reads_per_period_iff (maxReadCount : Nat) :
    (∀ actions, ∀ period ∈ ((reader maxReadCount).run actions).periods,
      period.length = maxReadCount + 1) ∧
    ((∀ actions, ∀ period ∈ ((reader maxReadCount).run actions).periods,
      period.length = maxReadCount) ↔ intMax ≤ maxReadCount) := by
  have hperiods := fun actions => (run_counted maxReadCount actions).periods
  refine ⟨fun actions period hp => (hperiods actions period hp).1, fun h => ?_, fun h => ?_⟩
  · by_contra hint
    obtain ⟨period, hp⟩ := period_ends (Nat.lt_of_not_le hint) ⟨espOk, espOk, 0, 0⟩ ⟨0, 0⟩
    have hmore := (hperiods _ period hp).1
    have hsame := h _ period hp
    omega
  · intro actions period hp
    exact absurd (hperiods actions period hp).2 (Nat.not_lt_of_le h)

/-- Seven firings with the constant of the source: six reads, then deep sleep. -/
theorem six_reads_for_five :
    ¬ ∀ maxReadCount actions, ∀ period ∈ ((reader maxReadCount).run actions).periods,
      period.length = maxReadCount :=
  fun h => absurd (h 5 (List.replicate 7 (.timer ⟨espOk, espOk, 0x68, 0x3a⟩ ⟨0, 0⟩))) (by decide)

end Aniot.P5
