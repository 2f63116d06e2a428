import Aniot.Machine.Run
import Aniot.Machine.Fifo
import Aniot.Machine.QueueSet
import Aniot.P2.Filter

/-! The tasks of `p2/src/main.c`, once `app_main` has started them.

A step is what one task does up to its next use of something shared: a queue, the
queue set, or the random generator and the clock. Everything between two such uses
is the task's own, so an interleaving of these steps is an interleaving of the
tasks. A task that waits on a queue stays where it is; an action's `timedOut` says
whether the wait is over. Delays only move time, which the interleaving leaves free.

The kernel names each queue it creates by a handle of its own; the model names
filter queue `i` by `i`, and no queue is NULL. Beside what the tasks hold, a state
keeps their history: what was generated, taken, computed, sent and printed, and how
many sends were reported as failed. No step reads it. -/
namespace Aniot.P2
variable {R : Type}

inductive SensorTask where
  | reading
  | sending (s : Sample)

inductive FilterTask (R : Type) where
  | receiving
  | sending (f : Filtered R)
  /-- An array was read outside its bounds. -/
  | fault

/-- Between iterations, or at place `i` of the loop over the sensors. -/
inductive ControllerTask (n : Nat) where
  | selecting
  | visiting (readingQueue : Option (Fin n)) (i : Nat)

/-- What a sensor task holds between generating a sample and the end of its send. -/
def SensorTask.held : SensorTask → List Sample
  | .reading => []
  | .sending s => [s]

def FilterTask.held : FilterTask R → List (Filtered R)
  | .sending f => [f]
  | _ => []

/-- One sensor: its two tasks, their queues, and their history. -/
structure Node (cfg : Config R) where
  sensor : SensorTask
  sensorQueue : Fifo Sample cfg.numElemSensorQueue
  filter : FilterTask R
  filterCount : CircularVector
  filterQueue : Fifo (Filtered R) cfg.numElemFilterQueue
  generated : List Sample
  dropped : Nat
  taken : List Sample
  computed : List (Filtered R)
  lost : Nat
  /-- How often a send of the filter task found its queue full. -/
  stalls : Nat

structure State (cfg : Config R) where
  node : Fin cfg.numberSensors → Node cfg
  controllerQueues : Fifo (Fin cfg.numberSensors) cfg.numElemControllerQueues
  controller : ControllerTask cfg.numberSensors
  statisticsCounter : Nat
  sent : List (Fin cfg.numberSensors × Filtered R)
  /-- What the controller received, with the sensor under whose name it printed it. -/
  printed : List (Fin cfg.numberSensors × Filtered R)
  /-- How often a send to a member queue found no place for its handle in the set. -/
  overflows : Nat

/-- Which task moves, and what it is answered. -/
inductive Action (n : Nat) where
  | sensor (i : Fin n) (espRandom : BitVec 32) (now : Int) (timedOut : Bool)
  | filter (i : Fin n) (timedOut : Bool)
  | controller (timedOut : Bool)

def readSensor (espRandom : BitVec 32) : Int := (espRandom.toNat % 100 : Nat)

section Tasks
variable {cfg : Config R}

/-- `sensorTask`: generate a sample, then offer it to the sensor queue. -/
def sensorTask (espRandom : BitVec 32) (now : Int) (timedOut : Bool) (nd : Node cfg) : Node cfg :=
  match nd.sensor with
  | .reading =>
    let sensorData : Sample := ⟨nd.generated.length, ⟨readSensor espRandom, now⟩⟩
    {nd with sensor := .sending sensorData, generated := nd.generated ++ [sensorData]}
  | .sending sensorData =>
    match nd.sensorQueue.send sensorData with
    | some q => {nd with sensor := .reading, sensorQueue := q}
    | none => if timedOut then {nd with sensor := .reading, dropped := nd.dropped + 1} else nd

/-- `filterTask`: take a sample and filter it, then offer the value, if there is one,
to the filter queue. Also yields the value a successful send put there. -/
def filterTask [Zero R] [Add R] [Mul R] [IntCast R] (i : Fin cfg.numberSensors) (timedOut : Bool)
    (nd : Node cfg) : Node cfg × Option (Filtered R) :=
  match nd.filter with
  | .receiving =>
    match nd.sensorQueue.receive with
    | none => (nd, none)
    | some (newSensorData, q) =>
      match filterSample cfg.weightingCoefficients (filterTaskName i) nd.filterCount newSensorData with
      | none => ({nd with sensorQueue := q, filter := .fault}, none)
      | some (v, out) =>
        ({nd with
          sensorQueue := q
          filterCount := v
          filter := match out with
            | some filterData => .sending filterData
            | none => .receiving
          taken := nd.taken ++ [newSensorData]
          computed := nd.computed ++ out.toList}, none)
  | .sending filterData =>
    match nd.filterQueue.send filterData with
    | some q => ({nd with filter := .receiving, filterQueue := q}, some filterData)
    | none =>
      if timedOut then
        ({nd with filter := .receiving, lost := nd.lost + 1, stalls := nd.stalls + 1}, none)
      else ({nd with stalls := nd.stalls + 1}, none)
  | .fault => (nd, none)

def State.setNode (s : State cfg) (i : Fin cfg.numberSensors) (nd : Node cfg) : State cfg :=
  {s with node := Function.update s.node i nd}

/-- What the kernel adds to a send that put `f` in member queue `i`: the handle. -/
def State.notify (s : State cfg) (i : Fin cfg.numberSensors) (f : Filtered R) : State cfg :=
  let s := {s with sent := s.sent ++ [(i, f)]}
  match s.controllerQueues.send i with
  | some q => {s with controllerQueues := q}
  | none => {s with overflows := s.overflows + 1}

/-- `controllerTask`: select a queue, then go through the sensors and read the one
whose queue was selected. A select that times out yields NULL, which is no queue. -/
def controllerTask (timedOut : Bool) (s : State cfg) : State cfg :=
  match s.controller with
  | .selecting =>
    match s.controllerQueues.receive with
    | some (i, q) => {s with controllerQueues := q, controller := .visiting (some i) 0}
    | none => if timedOut then {s with controller := .visiting none 0} else s
  | .visiting readingQueue k =>
    if h : k < cfg.numberSensors then
      if readingQueue = some ⟨k, h⟩ then
        match (s.node ⟨k, h⟩).filterQueue.receive with
        | some (filterData, q) =>
          {s.setNode ⟨k, h⟩ {s.node ⟨k, h⟩ with filterQueue := q} with
            controller := .visiting readingQueue (k + 1)
            printed := s.printed ++ [(⟨k, h⟩, filterData)]}
        | none => if timedOut then {s with controller := .visiting readingQueue (k + 1)} else s
      else {s with controller := .visiting readingQueue (k + 1)}
    else
      let statisticsCounter := s.statisticsCounter + 1
      {s with
        controller := .selecting
        statisticsCounter :=
          if cfg.stadisticsInterval / cfg.controllerInterval ≤ statisticsCounter then 2
          else statisticsCounter}

variable [Zero R] [Add R] [Mul R] [IntCast R]

def step (s : State cfg) : Action cfg.numberSensors → State cfg
  | .sensor i espRandom now timedOut =>
    s.setNode i (sensorTask espRandom now timedOut (s.node i))
  | .filter i timedOut =>
    match filterTask i timedOut (s.node i) with
    | (nd, none) => s.setNode i nd
    | (nd, some f) => (s.setNode i nd).notify i f
  | .controller timedOut => controllerTask timedOut s

variable (cfg)

/-- A sensor as `init` and `app_main` leave it. -/
def Node.start : Node cfg where
  sensor := .reading
  sensorQueue := .empty
  filter := .receiving
  filterCount := .init cfg.weightingCoefficients.length cfg.window_pos
  filterQueue := .empty
  generated := []
  dropped := 0
  taken := []
  computed := []
  lost := 0
  stalls := 0

def State.start : State cfg where
  node := fun _ => Node.start cfg
  controllerQueues := .empty
  controller := .selecting
  statisticsCounter := 2
  sent := []
  printed := []
  overflows := 0

/-- The pipeline: every task at its entry, and any of them to move next. -/
def pipeline : Machine (State cfg) (Action cfg.numberSensors) := ⟨State.start cfg, step⟩

end Tasks

/-! ### What one step can do -/

section Steps
variable {cfg : Config R}

@[simp] theorem notify_node (s : State cfg) (i : Fin cfg.numberSensors) (f : Filtered R) :
    (s.notify i f).node = s.node := by
  unfold State.notify
  dsimp only
  split <;> rfl

@[simp] theorem notify_printed (s : State cfg) (i : Fin cfg.numberSensors) (f : Filtered R) :
    (s.notify i f).printed = s.printed := by
  unfold State.notify
  dsimp only
  split <;> rfl

@[simp] theorem notify_controller (s : State cfg) (i : Fin cfg.numberSensors) (f : Filtered R) :
    (s.notify i f).controller = s.controller := by
  unfold State.notify
  dsimp only
  split <;> rfl

theorem notify_length_le (s : State cfg) (i : Fin cfg.numberSensors) (f : Filtered R) :
    (s.notify i f).controllerQueues.items.length ≤ s.controllerQueues.items.length + 1 := by
  unfold State.notify
  dsimp only
  split
  · next q hq =>
    rw [(Fifo.send_eq_some.mp hq).2, List.length_append]
    exact Nat.le_refl _
  · exact Nat.le_succ _

theorem sensorTask_cases (espRandom : BitVec 32) (now : Int) (timedOut : Bool) (nd : Node cfg) :
    (∃ s : Sample, nd.sensor = .reading ∧ s.number = nd.generated.length ∧
      sensorTask espRandom now timedOut nd =
        {nd with sensor := .sending s, generated := nd.generated ++ [s]}) ∨
    (∃ s q, nd.sensor = .sending s ∧ q.items = nd.sensorQueue.items ++ [s] ∧
      sensorTask espRandom now timedOut nd = {nd with sensor := .reading, sensorQueue := q}) ∨
    (∃ s, nd.sensor = .sending s ∧
      sensorTask espRandom now timedOut nd =
        {nd with sensor := .reading, dropped := nd.dropped + 1}) ∨
    sensorTask espRandom now timedOut nd = nd := by
  unfold sensorTask
  cases hs : nd.sensor with
  | reading => exact .inl ⟨_, rfl, rfl, rfl⟩
  | sending s =>
    dsimp only
    cases hq : nd.sensorQueue.send s with
    | some q => exact .inr (.inl ⟨s, q, rfl, (Fifo.send_eq_some.mp hq).2, rfl⟩)
    | none =>
      cases timedOut with
      | true => exact .inr (.inr (.inl ⟨s, rfl, rfl⟩))
      | false => exact .inr (.inr (.inr rfl))

variable [Zero R] [Add R] [Mul R] [IntCast R]

/-- A filter step that is not a successful send leaves its filter queue alone. -/
theorem filterTask_cases (i : Fin cfg.numberSensors) (timedOut : Bool) (nd : Node cfg) :
    (∃ s q v out, nd.filter = .receiving ∧ nd.sensorQueue.items = s :: q.items ∧
      filterSample cfg.weightingCoefficients (filterTaskName i) nd.filterCount s = some (v, out) ∧
      filterTask i timedOut nd =
        ({nd with
          sensorQueue := q
          filterCount := v
          filter := match out with
            | some filterData => .sending filterData
            | none => .receiving
          taken := nd.taken ++ [s]
          computed := nd.computed ++ out.toList}, none)) ∨
    (∃ s q, nd.filter = .receiving ∧
      filterSample cfg.weightingCoefficients (filterTaskName i) nd.filterCount s = none ∧
      filterTask i timedOut nd = ({nd with sensorQueue := q, filter := .fault}, none)) ∨
    (∃ f q, nd.filter = .sending f ∧ nd.filterQueue.items.length < cfg.numElemFilterQueue ∧
      q.items = nd.filterQueue.items ++ [f] ∧
      filterTask i timedOut nd = ({nd with filter := .receiving, filterQueue := q}, some f)) ∨
    (∃ f, nd.filter = .sending f ∧ nd.filterQueue.items.length = cfg.numElemFilterQueue ∧
      filterTask i timedOut nd =
        ({nd with filter := .receiving, lost := nd.lost + 1, stalls := nd.stalls + 1}, none)) ∨
    (∃ f, nd.filter = .sending f ∧ nd.filterQueue.items.length = cfg.numElemFilterQueue ∧
      filterTask i timedOut nd = ({nd with stalls := nd.stalls + 1}, none)) ∨
    filterTask i timedOut nd = (nd, none) := by
  unfold filterTask
  cases hf : nd.filter with
  | receiving =>
    dsimp only
    cases hq : nd.sensorQueue.receive with
    | none => exact .inr (.inr (.inr (.inr (.inr rfl))))
    | some taken =>
      obtain ⟨s, q⟩ := taken
      dsimp only
      cases hs : filterSample cfg.weightingCoefficients (filterTaskName i) nd.filterCount s with
      | none =>
        exact .inr (.inl ⟨s, q, rfl, hs, rfl⟩)
      | some made =>
        obtain ⟨v, out⟩ := made
        exact .inl ⟨s, q, v, out, rfl, Fifo.receive_eq_some.mp hq, hs, rfl⟩
  | sending f =>
    dsimp only
    cases hq : nd.filterQueue.send f with
    | some q =>
      obtain ⟨hroom, hitems⟩ := Fifo.send_eq_some.mp hq
      exact .inr (.inr (.inl ⟨f, q, rfl, hroom, hitems, rfl⟩))
    | none =>
      have hfull := Fifo.send_eq_none.mp hq
      cases timedOut with
      | true => exact .inr (.inr (.inr (.inl ⟨f, rfl, hfull, rfl⟩)))
      | false => exact .inr (.inr (.inr (.inr (.inl ⟨f, rfl, hfull, rfl⟩))))
  | fault => exact .inr (.inr (.inr (.inr (.inr rfl))))

omit [Zero R] [Add R] [Mul R] [IntCast R] in
theorem controllerTask_cases (timedOut : Bool) (s : State cfg) :
    (∃ i q, s.controller = .selecting ∧ s.controllerQueues.items = i :: q.items ∧
      controllerTask timedOut s =
        {s with controllerQueues := q, controller := .visiting (some i) 0}) ∨
    (s.controller = .selecting ∧ controllerTask timedOut s = {s with controller := .visiting none 0}) ∨
    (∃ (k : Nat) (h : k < cfg.numberSensors) (f : Filtered R) (q : Fifo _ _),
      s.controller = .visiting (some ⟨k, h⟩) k ∧
      (s.node ⟨k, h⟩).filterQueue.items = f :: q.items ∧
      controllerTask timedOut s =
        {s.setNode ⟨k, h⟩ {s.node ⟨k, h⟩ with filterQueue := q} with
          controller := .visiting (some ⟨k, h⟩) (k + 1)
          printed := s.printed ++ [(⟨k, h⟩, f)]}) ∨
    (∃ (k : Nat) (h : k < cfg.numberSensors), s.controller = .visiting (some ⟨k, h⟩) k ∧
      (s.node ⟨k, h⟩).filterQueue.items = [] ∧
      controllerTask timedOut s = {s with controller := .visiting (some ⟨k, h⟩) (k + 1)}) ∨
    (∃ readingQueue k, s.controller = .visiting readingQueue k ∧ k < cfg.numberSensors ∧
      (∀ h, readingQueue ≠ some ⟨k, h⟩) ∧
      controllerTask timedOut s = {s with controller := .visiting readingQueue (k + 1)}) ∨
    (∃ readingQueue k c, s.controller = .visiting readingQueue k ∧ ¬ k < cfg.numberSensors ∧
      controllerTask timedOut s = {s with controller := .selecting, statisticsCounter := c}) ∨
    controllerTask timedOut s = s := by
  unfold controllerTask
  cases hc : s.controller with
  | selecting =>
    dsimp only
    cases hq : s.controllerQueues.receive with
    | some selected =>
      obtain ⟨i, q⟩ := selected
      exact .inl ⟨i, q, rfl, Fifo.receive_eq_some.mp hq, rfl⟩
    | none =>
      cases timedOut with
      | true => exact .inr (.inl ⟨rfl, rfl⟩)
      | false => exact .inr (.inr (.inr (.inr (.inr (.inr rfl)))))
  | visiting readingQueue k =>
    by_cases hk : k < cfg.numberSensors
    · simp only [dif_pos hk]
      by_cases hsame : readingQueue = some ⟨k, hk⟩
      · subst hsame
        simp only [if_true]
        cases hq : (s.node ⟨k, hk⟩).filterQueue.receive with
        | some taken =>
          obtain ⟨f, q⟩ := taken
          exact .inr (.inr (.inl ⟨k, hk, f, q, rfl, Fifo.receive_eq_some.mp hq, rfl⟩))
        | none =>
          cases timedOut with
          | true =>
            exact .inr (.inr (.inr (.inl ⟨k, hk, rfl, Fifo.receive_eq_none.mp hq, rfl⟩)))
          | false => exact .inr (.inr (.inr (.inr (.inr (.inr rfl)))))
      · simp only [if_neg hsame]
        exact .inr (.inr (.inr (.inr (.inl ⟨_, k, rfl, hk, fun _ => hsame, rfl⟩))))
    · simp only [dif_neg hk]
      exact .inr (.inr (.inr (.inr (.inr (.inl ⟨_, k, _, rfl, hk, rfl⟩)))))

end Steps

end Aniot.P2
