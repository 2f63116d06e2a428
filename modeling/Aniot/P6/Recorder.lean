import Aniot.Machine.Run
import Aniot.Machine.Fifo
import Aniot.Esp.Timer

/-! The recorder of `p6/src/main.c`: two timer callbacks, a queue and a handler.

The hall callback stores its reading in `value_sensor` and posts `WRITE_LOG`; the
reader callback posts `READ_LOG`; `status_handler_task` mounts the file system and then
takes the events one by one. A step is what one of them does up to its next use of
something shared: a timer, `value_sensor`, the queue or the file. A mount that fails
restarts the board, so a run here is one of a boot whose mount succeeds.

Beside what the code keeps, a state has a history no step of the code reads: the events
accepted, refused and handled, the values logged, and how the opens of `READ_LOG` went.
A `WRITE_LOG` carries the reading of the callback that posted it. -/
namespace Aniot.P6
open Esp

/-- `enum machine_status`. -/
inductive MachineStatus where
  | writeLog
  | readLog
deriving DecidableEq

/-- An entry of `queueOut`, with the reading it announces. -/
structure Posted where
  status : MachineStatus
  reading : Option Int
deriving DecidableEq

/-- The statement `app_main` is at. -/
inductive AppMain where
  | createHandler
  | createHall
  | startHall
  | createReader
  | startReader
  | returned
deriving DecidableEq

inductive HallCallback where
  | idle
  | storing
  | posting (reading : Int)
deriving DecidableEq

inductive ReaderCallback where
  | idle
  | posting
deriving DecidableEq

/-- `status_handler_task`; the last three are inside the branch for `READ_LOG`, which
returns from the task when the log does not open. -/
inductive HandlerTask where
  | mounting
  | receiving
  | handling (e : Posted)
  | stoppingReader
  | opening
  | returned
deriving DecidableEq

/-- The event the handler has taken and not acted on yet. -/
def HandlerTask.held : HandlerTask → List Posted
  | .handling e => [e]
  | _ => []

structure State where
  appMain : AppMain
  queueOut : Fifo Posted 10
  periodicTimerSensorHall : Timer Unit
  periodicTimerReader : Timer Unit
  valueSensor : Int
  hall : HallCallback
  reader : ReaderCallback
  handlerCreated : Bool
  handler : HandlerTask
  accepted : List Posted
  refused : List Posted
  handled : List Posted
  logged : List Int
  opened : List Bool

/-- Who moves; the hall sensor's value and the outcome of an `fopen` are the environment's. -/
inductive Action where
  | appMain
  | hall (hallSensorRead : Int)
  | reader
  | handler (opens : Bool)
deriving DecidableEq

/-- `send_machine_state`; what the queue refuses is reported and gone. -/
def sendMachineState (e : Posted) (s : State) : State :=
  match s.queueOut.send e with
  | some q => {s with queueOut := q, accepted := s.accepted ++ [e]}
  | none => {s with refused := s.refused ++ [e]}

/-- The timer fires, then `sensor_hall_timer_callback` stores and posts. -/
def sensorHallTimerCallback (hallSensorRead : Int) (s : State) : State :=
  match s.hall with
  | .idle =>
    match s.periodicTimerSensorHall with
    | .running () => {s with hall := .storing}
    | _ => s
  | .storing => {s with hall := .posting hallSensorRead, valueSensor := hallSensorRead}
  | .posting reading => sendMachineState ⟨.writeLog, some reading⟩ {s with hall := .idle}

/-- The timer fires, then `reader_timer_callback` posts. -/
def readerTimerCallback (s : State) : State :=
  match s.reader with
  | .idle =>
    match s.periodicTimerReader with
    | .running () => {s with reader := .posting}
    | _ => s
  | .posting => sendMachineState ⟨.readLog, none⟩ {s with reader := .idle}

/-- `status_handler_task`, once `app_main` has created it. -/
def statusHandlerTask (opens : Bool) (s : State) : State :=
  if s.handlerCreated then
    match s.handler with
    | .mounting => {s with handler := .receiving}
    | .receiving =>
      match s.queueOut.receive with
      | none => s
      | some (e, q) => {s with queueOut := q, handler := .handling e}
    | .handling e =>
      let s := {s with handled := s.handled ++ [e]}
      match e.status with
      | .writeLog => {s with handler := .receiving, logged := s.logged ++ [s.valueSensor]}
      | .readLog =>
        {s with handler := .stoppingReader, periodicTimerSensorHall := s.periodicTimerSensorHall.stop}
    | .stoppingReader =>
      {s with handler := .opening, periodicTimerReader := s.periodicTimerReader.stop}
    | .opening =>
      {s with handler := if opens then .receiving else .returned, opened := s.opened ++ [opens]}
    | .returned => s
  else s

/-- `app_main`, statement by statement. -/
def appMain (s : State) : State :=
  match s.appMain with
  | .createHandler => {s with appMain := .createHall, handlerCreated := true}
  | .createHall =>
    {s with appMain := .startHall, periodicTimerSensorHall := s.periodicTimerSensorHall.create}
  | .startHall =>
    {s with
      appMain := .createReader
      periodicTimerSensorHall := s.periodicTimerSensorHall.startPeriodic ()}
  | .createReader =>
    {s with appMain := .startReader, periodicTimerReader := s.periodicTimerReader.create}
  | .startReader =>
    {s with appMain := .returned, periodicTimerReader := s.periodicTimerReader.startPeriodic ()}
  | .returned => s

def step (s : State) : Action → State
  | .appMain => appMain s
  | .hall hallSensorRead => sensorHallTimerCallback hallSensorRead s
  | .reader => readerTimerCallback s
  | .handler opens => statusHandlerTask opens s

/-- The recorder from reset, with whoever is there to move next. -/
def recorder : Machine State Action where
  start :=
    { appMain := .createHandler
      queueOut := .empty
      periodicTimerSensorHall := .null
      periodicTimerReader := .null
      valueSensor := 0
      hall := .idle
      reader := .idle
      handlerCreated := false
      handler := .mounting
      accepted := []
      refused := []
      handled := []
      logged := []
      opened := [] }
  step

/-! ### What one step can do -/

/-- What a step may do to a state, with what it found there. -/
inductive Moves (s : State) : Action → State → Prop where
  | stays (a : Action) : Moves s a s
  | boots : Moves s .appMain (appMain s)
  | hallFires (v : Int) (hh : s.hall = .idle) (ht : s.periodicTimerSensorHall = .running ()) :
      Moves s (.hall v) {s with hall := .storing}
  | stores (v : Int) (hh : s.hall = .storing) :
      Moves s (.hall v) {s with hall := .posting v, valueSensor := v}
  | announces (v reading : Int) (hh : s.hall = .posting reading) :
      Moves s (.hall v) (sendMachineState ⟨.writeLog, some reading⟩ {s with hall := .idle})
  | readerFires (hr : s.reader = .idle) (ht : s.periodicTimerReader = .running ()) :
      Moves s .reader {s with reader := .posting}
  | asks (hr : s.reader = .posting) :
      Moves s .reader (sendMachineState ⟨.readLog, none⟩ {s with reader := .idle})
  | mounts (opens : Bool) (hh : s.handler = .mounting) :
      Moves s (.handler opens) {s with handler := .receiving}
  | receives (opens : Bool) (e : Posted) (q : Fifo Posted 10) (hh : s.handler = .receiving)
      (hq : s.queueOut.items = e :: q.items) :
      Moves s (.handler opens) {s with queueOut := q, handler := .handling e}
  | logs (opens : Bool) (e : Posted) (hh : s.handler = .handling e) (he : e.status = .writeLog) :
      Moves s (.handler opens) {s with
        handler := .receiving
        handled := s.handled ++ [e]
        logged := s.logged ++ [s.valueSensor]}
  | stopsHall (opens : Bool) (e : Posted) (hh : s.handler = .handling e) (he : e.status = .readLog) :
      Moves s (.handler opens) {s with
        handler := .stoppingReader
        handled := s.handled ++ [e]
        periodicTimerSensorHall := s.periodicTimerSensorHall.stop}
  | stopsReader (opens : Bool) (hh : s.handler = .stoppingReader) :
      Moves s (.handler opens)
        {s with handler := .opening, periodicTimerReader := s.periodicTimerReader.stop}
  | reads (hh : s.handler = .opening) :
      Moves s (.handler true) {s with handler := .receiving, opened := s.opened ++ [true]}
  | givesUp (hh : s.handler = .opening) :
      Moves s (.handler false) {s with handler := .returned, opened := s.opened ++ [false]}

theorem sensorHallTimerCallback_moves (v : Int) (s : State) :
    Moves s (.hall v) (sensorHallTimerCallback v s) := by
  unfold sensorHallTimerCallback
  split
  · next hh =>
    split
    · next ht => exact .hallFires v hh ht
    · exact .stays _
  · next hh => exact .stores v hh
  · next reading hh => exact .announces v reading hh

theorem readerTimerCallback_moves (s : State) : Moves s .reader (readerTimerCallback s) := by
  unfold readerTimerCallback
  split
  · next hr =>
    split
    · next ht => exact .readerFires hr ht
    · exact .stays _
  · next hr => exact .asks hr

theorem statusHandlerTask_moves (opens : Bool) (s : State) :
    Moves s (.handler opens) (statusHandlerTask opens s) := by
  unfold statusHandlerTask
  split
  · split
    · next hh => exact .mounts opens hh
    · next hh =>
      split
      · exact .stays _
      · next e q hq => exact .receives opens e q hh (Fifo.receive_eq_some.mp hq)
    · next e hh =>
      dsimp only
      split
      · next he => exact .logs opens e hh he
      · next he => exact .stopsHall opens e hh he
    · next hh => exact .stopsReader opens hh
    · next hh =>
      cases opens with
      | true => exact .reads hh
      | false => exact .givesUp hh
    · exact .stays _
  · exact .stays _

theorem step_moves (s : State) (a : Action) : Moves s a (step s a) := by
  cases a with
  | appMain => exact .boots
  | hall v => exact sensorHallTimerCallback_moves v s
  | reader => exact readerTimerCallback_moves s
  | handler opens => exact statusHandlerTask_moves opens s

/-- A statement of `app_main` creates the handler or sees to a timer, and nothing else. -/
theorem appMain_frame (s : State) : ∃ m created hall reader, appMain s =
    {s with
      appMain := m
      handlerCreated := created
      periodicTimerSensorHall := hall
      periodicTimerReader := reader} := by
  unfold appMain
  split <;> exact ⟨_, _, _, _, rfl⟩

/-- A post is accepted at the back of the queue or refused by a full one. -/
theorem sendMachineState_cases (e : Posted) (s : State) :
    (∃ q : Fifo Posted 10, q.items = s.queueOut.items ++ [e] ∧
      sendMachineState e s = {s with queueOut := q, accepted := s.accepted ++ [e]}) ∨
    (s.queueOut.items.length = 10 ∧ sendMachineState e s = {s with refused := s.refused ++ [e]}) := by
  unfold sendMachineState
  split
  · next q hq => exact .inl ⟨q, (Fifo.send_eq_some.mp hq).2, rfl⟩
  · next hq => exact .inr ⟨Fifo.send_eq_none.mp hq, rfl⟩

/-- A post changes the queue and what is known of the posts, and adds its event or none. -/
theorem sendMachineState_frame (e : Posted) (s : State) : ∃ q accepted refused,
    (q.items = s.queueOut.items ++ [e] ∨ q.items = s.queueOut.items) ∧
    sendMachineState e s = {s with queueOut := q, accepted := accepted, refused := refused} := by
  rcases sendMachineState_cases e s with ⟨q, hq, heq⟩ | ⟨_, heq⟩
  · exact ⟨q, _, s.refused, .inl hq, heq⟩
  · exact ⟨s.queueOut, s.accepted, _, .inr rfl, heq⟩

/-- What a post leaves as it is. -/
structure Keeps (s s' : State) : Prop where
  appMain : s'.appMain = s.appMain
  hallTimer : s'.periodicTimerSensorHall = s.periodicTimerSensorHall
  readerTimer : s'.periodicTimerReader = s.periodicTimerReader
  created : s'.handlerCreated = s.handlerCreated
  handler : s'.handler = s.handler
  handled : s'.handled = s.handled
  opened : s'.opened = s.opened

theorem sendMachineState_keeps (e : Posted) (s : State) : Keeps s (sendMachineState e s) := by
  obtain ⟨q, accepted, refused, _, heq⟩ := sendMachineState_frame e s
  rw [heq]
  exact ⟨rfl, rfl, rfl, rfl, rfl, rfl, rfl⟩

end Aniot.P6
