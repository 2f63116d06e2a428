import Mathlib.Logic.Function.Basic
import Aniot.P2.Boot

/-! The handles of `p2/src/main.c`, when some of its queues are not created.

Here `app_main` goes statement by statement, as `Boot` lists them, and what matters of a
queue is its handle: NULL if its creation failed, and otherwise the queue's own. Each
queue operation is noted with the handles it is given. What an operation on a task's own
queue comes back with is left to the action, so these runs include all of the program's;
what is selected from the set is a handle some send has put there, or NULL.

To survive (`Survives`) is to give no operation NULL and to leave out the sensors that
lack a queue. -/
namespace Aniot.P2.Handles
open Boot (Created Answer)

inductive Queue where
  | sensorQueue (i : Nat)
  | filterQueue (i : Nat)
  | controllerQueues
deriving DecidableEq

/-- A `QueueHandle_t`; `none` is NULL. -/
abbrev Handle := Option Queue

/-- A queue operation, with the handles it is given. -/
inductive Call where
  | addToSet (queue set : Handle)
  | selectFromSet (set : Handle)
  | sendToBack (queue : Handle)
  | receive (queue : Handle)

def Call.handles : Call → List Handle
  | .addToSet queue set => [queue, set]
  | .selectFromSet set => [set]
  | .sendToBack queue => [queue]
  | .receive queue => [queue]

/-- The queue an item is sent to or received from. -/
def Call.traffic : Call → List Handle
  | .sendToBack queue => [queue]
  | .receive queue => [queue]
  | _ => []

/-- The statement `app_main` is at, in round `i` of its loop. -/
inductive AppMain where
  | createSet
  | createSensorQueue (i : Nat)
  | createFilterQueue (i : Nat)
  | addToSet (i : Nat)
  | testHandles (i : Nat)
  | createSensorTask (i : Nat)
  | createFilterTask (i : Nat)
  | createController
  | returned

inductive SensorTask where
  | entry
  | sending (sensorQueue : Handle)

inductive FilterTask where
  | entry
  | receiving (sensorQueue filterQueue : Handle)
  | sending (sensorQueue filterQueue : Handle)

inductive ControllerTask where
  | selecting
  | visiting (readingQueue : Handle) (i : Nat)

structure State where
  appMain : AppMain
  controllerQueues : Handle
  sensorQueues : Nat → Handle
  filterQueues : Nat → Handle
  /-- The handles in each record of `sensors`, the sensor queue's and the filter queue's. -/
  sensors : Nat → Handle × Handle
  sensorTask : Nat → Option SensorTask
  filterTask : Nat → Option FilterTask
  controller : Option ControllerTask
  /-- The queues that are in the set, and the handles that wait to be selected from it. -/
  members : List Queue
  pending : List Queue
  calls : List Call

/-- Who moves; what a filter task's operation comes back with, and whether a select that
finds nothing has timed out. -/
inductive Action where
  | appMain
  | sensorTask (i : Nat)
  | filterTask (i : Nat) (answer : Answer)
  | controllerTask (timedOut : Bool)

def State.call (s : State) (c : Call) : State := {s with calls := s.calls ++ [c]}

section Program
variable (numberSensors : Nat) (created : Created)

/-- What each creation returns. -/
def setHandle : Handle := if created.controllerQueues then some .controllerQueues else none
def sensorHandle (i : Nat) : Handle := if created.sensorQueue i then some (.sensorQueue i) else none
def filterHandle (i : Nat) : Handle := if created.filterQueue i then some (.filterQueue i) else none

/-- The loop goes on with round `i`, or is over. -/
def nextRound (i : Nat) : AppMain := if i < numberSensors then .createSensorQueue i else .createController

/-- `xQueueAddToSet`. -/
def xQueueAddToSet (queue set : Handle) (s : State) : State :=
  let s := s.call (.addToSet queue set)
  match queue, set with
  | some q, some _ => {s with members := q :: s.members}
  | _, _ => s

def appMain (s : State) : State :=
  match s.appMain with
  | .createSet =>
    {s with appMain := nextRound numberSensors 0, controllerQueues := setHandle created}
  | .createSensorQueue i =>
    {s with
      appMain := .createFilterQueue i
      sensorQueues := Function.update s.sensorQueues i (sensorHandle created i)}
  | .createFilterQueue i =>
    {s with
      appMain := .addToSet i
      filterQueues := Function.update s.filterQueues i (filterHandle created i)}
  | .addToSet i =>
    xQueueAddToSet (s.filterQueues i) s.controllerQueues {s with appMain := .testHandles i}
  | .testHandles i =>
    if s.sensorQueues i ≠ none ∧ s.filterQueues i ≠ none then
      {s with
        appMain := .createSensorTask i
        sensors := Function.update s.sensors i (s.sensorQueues i, s.filterQueues i)}
    else {s with appMain := nextRound numberSensors (i + 1)}
  | .createSensorTask i =>
    {s with appMain := .createFilterTask i, sensorTask := Function.update s.sensorTask i (some .entry)}
  | .createFilterTask i =>
    {s with
      appMain := nextRound numberSensors (i + 1)
      filterTask := Function.update s.filterTask i (some .entry)}
  | .createController => {s with appMain := .returned, controller := some .selecting}
  | .returned => s

def sensorTask (i : Nat) (s : State) : State :=
  match s.sensorTask i with
  | none => s
  | some .entry => {s with sensorTask := Function.update s.sensorTask i (some (.sending (s.sensors i).1))}
  | some (.sending sensorQueue) => s.call (.sendToBack sensorQueue)

/-- A send that succeeds puts the queue's handle in the set, if the queue is in it. -/
def State.notify (s : State) : Handle → State
  | some q => if q ∈ s.members then {s with pending := s.pending ++ [q]} else s
  | none => s

def filterTask (i : Nat) (answer : Answer) (s : State) : State :=
  match s.filterTask i with
  | none => s
  | some .entry =>
    {s with
      filterTask := Function.update s.filterTask i (some (.receiving (s.sensors i).1 (s.sensors i).2))}
  | some (.receiving sensorQueue filterQueue) =>
    let s := s.call (.receive sensorQueue)
    if answer = .done then
      {s with filterTask := Function.update s.filterTask i (some (.sending sensorQueue filterQueue))}
    else s
  | some (.sending sensorQueue filterQueue) =>
    let s := s.call (.sendToBack filterQueue)
    let s := {s with
      filterTask := Function.update s.filterTask i (some (.receiving sensorQueue filterQueue))}
    if answer = .done then s.notify filterQueue else s

/-- A select takes the handle that has waited longest, or times out with NULL; then the
controller compares it with every filter queue's. -/
def controllerTask (timedOut : Bool) (s : State) : State :=
  match s.controller with
  | none => s
  | some .selecting =>
    match s.pending with
    | q :: pending =>
      {s.call (.selectFromSet s.controllerQueues) with
        pending := pending
        controller := some (.visiting (some q) 0)}
    | [] =>
      if timedOut then
        {s.call (.selectFromSet s.controllerQueues) with controller := some (.visiting none 0)}
      else s
  | some (.visiting readingQueue i) =>
    if i < numberSensors then
      let s := if readingQueue = s.filterQueues i then s.call (.receive readingQueue) else s
      {s with controller := some (.visiting readingQueue (i + 1))}
    else {s with controller := some .selecting}

def step (s : State) : Action → State
  | .appMain => appMain numberSensors created s
  | .sensorTask i => sensorTask i s
  | .filterTask i answer => filterTask i answer s
  | .controllerTask timedOut => controllerTask numberSensors timedOut s

/-- `app_main` and the tasks it creates; what it has not assigned is zero. -/
def program : Machine State Action where
  start :=
    { appMain := .createSet
      controllerQueues := none
      sensorQueues := fun _ => none
      filterQueues := fun _ => none
      sensors := fun _ => (none, none)
      sensorTask := fun _ => none
      filterTask := fun _ => none
      controller := none
      members := []
      pending := []
      calls := [] }
  step := step numberSensors created

/-- Both queues of a sensor were created. -/
def Served (i : Nat) : Prop := created.sensorQueue i = true ∧ created.filterQueue i = true

/-- In no run is a queue operation given NULL, and a sensor without both of its queues has no
task and its queues no traffic. -/
def Survives : Prop :=
  ∀ actions, let s := (program numberSensors created).run actions
    (∀ c ∈ s.calls, none ∉ c.handles) ∧
    ∀ i, ¬ Served created i →
      s.sensorTask i = none ∧ s.filterTask i = none ∧
      ∀ c ∈ s.calls, some (.sensorQueue i) ∉ c.traffic ∧ some (.filterQueue i) ∉ c.traffic

end Program

end Aniot.P2.Handles
