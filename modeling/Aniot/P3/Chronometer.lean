import Mathlib.Data.Rat.Defs
import Aniot.Machine.Run
import Aniot.Machine.Fifo
import Aniot.Esp.Timer

/-! The chronometer of `p3-cont/src/main.c`. What `p3/src/main.c` has of it is the same text: there
the reset sensor is always the hall sensor, and there is no infrared callback, no `raw_to_cms` and no
build option, as in a build here whose `isInfraredActive` is false.

`app_main` starts the handler, the touch task, the reset sensor and last the
chronometer's timer, one statement at a time, while what is started already runs. The
touch task, the timer callbacks and the interrupt post into `queueOut` and set the
touch flags; `status_handler_task` takes the events one by one. A step is what one of
them does up to its next use of something shared. The chronometer's timer fires in one
step and its callback posts in another, since it may be stopped in between; the
sensor's timer is never stopped.

Beside what the code keeps, a state has a history no step of the code reads: the
events the queue accepted, refused and the handler handled, the presses the touch task
took, and the ticks that make up the count. Events carry how many resets had been
handled when they were posted and, for a tick, when the run of the timer that fired it
was started. -/
namespace Aniot.P3
open Esp

/-- `enum machine_status`. The handler's `default` branch is for no value of it. -/
inductive MachineStatus where
  | countTimer
  | startStopTimer
  | resetTimer
deriving DecidableEq

/-- An entry of `queueOut`, with when it was posted and, if it is a tick, by which run. -/
structure Posted where
  status : MachineStatus
  epoch : Nat
  run : Nat
deriving DecidableEq

def touchPadMax : Nat := 10
def touchPadPin0 : Fin touchPadMax := ⟨0, by decide⟩
def sensorHallThreshold : Int := 0
def sensorInfraredThreshold : Rat := 10

/-- What a build chooses: `CONFIG_IS_INFRARED_ACTIVE`, and the centimetres that
`raw_to_cms` makes of a raw reading. -/
structure Build where
  isInfraredActive : Bool
  rawToCms : Int → Rat

/-- The statement `app_main` is at. -/
inductive AppMain where
  | createHandler
  | registerIsr
  | createTouch
  | createSensor
  | startSensor
  | createChrono
  | startChrono
  | deleted
deriving DecidableEq

inductive TouchTask where
  | checking
  | sending
  | clearing
deriving DecidableEq

inductive HandlerTask where
  | receiving
  | handling (e : Posted)
deriving DecidableEq

/-- The event the handler has taken and not handled yet. -/
def HandlerTask.held : HandlerTask → List Posted
  | .handling e => [e]
  | _ => []

structure State where
  appMain : AppMain
  queueOut : Fifo Posted 10
  periodicTimerChrono : Timer Nat
  periodicTimerSensorHall : Timer Unit
  sPadActivated : Fin touchPadMax → Bool
  isrRegistered : Bool
  touchCreated : Bool
  touch : TouchTask
  /-- The run a tick was fired by, while its callback has not posted it. -/
  tick : Option Nat
  handlerCreated : Bool
  handler : HandlerTask
  isTimerActive : Bool
  /-- An `int` of the handler, of which only counts below 2^31 are meant. -/
  countTimer : Nat
  accepted : List Posted
  refused : List Posted
  handled : List Posted
  /-- How often the touch task found its flag set and sent for it. -/
  presses : Nat
  /-- The ticks counted since the count was last set to zero. -/
  counted : List Posted

inductive Action where
  | appMain
  | isr (padIntr : BitVec 32)
  | touch
  | chrono
  | sensor (value : Int)
  | handler

/-- How many resets have been handled. -/
def State.epoch (s : State) : Nat := s.handled.countP (·.status = .resetTimer)

/-- `send_machine_state`; what the queue refuses is reported and gone. -/
def sendMachineState (status : MachineStatus) (run : Nat) (s : State) : State :=
  let e : Posted := ⟨status, s.epoch, run⟩
  match s.queueOut.send e with
  | some q => {s with queueOut := q, accepted := s.accepted ++ [e]}
  | none => {s with refused := s.refused ++ [e]}

/-- `touchpad_read_task`: test the flag, send, clear the flag. -/
def touchpadReadTask (s : State) : State :=
  if s.touchCreated then
    match s.touch with
    | .checking => if s.sPadActivated touchPadPin0 then {s with touch := .sending} else s
    | .sending =>
      sendMachineState .startStopTimer s.epoch {s with touch := .clearing, presses := s.presses + 1}
    | .clearing =>
      {s with
        touch := .checking
        sPadActivated := fun i => if i = touchPadPin0 then false else s.sPadActivated i}
  else s

/-- `rtc_intr_touch_pad` sets the flag of every pad whose bit is set. -/
def rtcIntrTouchPad (padIntr : BitVec 32) (s : State) : State :=
  if s.isrRegistered then
    {s with sPadActivated := fun i => padIntr.getLsbD i || s.sPadActivated i}
  else s

/-- The timer fires, then `chronometer_timer_callback` posts. -/
def chronometerTimerCallback (s : State) : State :=
  match s.tick with
  | some run => sendMachineState .countTimer run {s with tick := none}
  | none =>
    match s.periodicTimerChrono with
    | .running run => {s with tick := some run}
    | _ => s

def sensorHallTimerCallback (value : Int) (s : State) : State :=
  if value ≤ sensorHallThreshold then sendMachineState .resetTimer s.epoch s else s

def sensorInfraredTimerCallback (rawToCms : Int → Rat) (valueRaw : Int) (s : State) : State :=
  if rawToCms valueRaw ≤ sensorInfraredThreshold then sendMachineState .resetTimer s.epoch s else s

/-- The callback `app_main` gave the sensor's timer, if that timer runs. -/
def sensorTimerCallback (b : Build) (value : Int) (s : State) : State :=
  match s.periodicTimerSensorHall with
  | .running () =>
    if b.isInfraredActive then sensorInfraredTimerCallback b.rawToCms value s
    else sensorHallTimerCallback value s
  | _ => s

/-- One event of `status_handler_task`. -/
def handleStatus (e : Posted) (s : State) : State :=
  match e.status with
  | .countTimer =>
    if s.isTimerActive then {s with countTimer := s.countTimer + 1, counted := s.counted ++ [e]} else s
  | .startStopTimer =>
    let isTimerActive := !s.isTimerActive
    if isTimerActive then
      {s with isTimerActive, periodicTimerChrono := s.periodicTimerChrono.startPeriodic s.epoch}
    else {s with isTimerActive}
  | .resetTimer =>
    {s with
      countTimer := 0
      isTimerActive := false
      periodicTimerChrono := s.periodicTimerChrono.stop
      counted := []}

/-- The state in which the handler handles `e`. -/
def State.handling (s : State) (e : Posted) : State :=
  {s with handler := .receiving, handled := s.handled ++ [e]}

/-- `status_handler_task`: take an event, then handle it. -/
def statusHandlerTask (s : State) : State :=
  if s.handlerCreated then
    match s.handler with
    | .receiving =>
      match s.queueOut.receive with
      | none => s
      | some (e, q) => {s with queueOut := q, handler := .handling e}
    | .handling e => handleStatus e (s.handling e)
  else s

/-- `app_main`, statement by statement. -/
def appMain (s : State) : State :=
  match s.appMain with
  | .createHandler => {s with appMain := .registerIsr, handlerCreated := true}
  | .registerIsr => {s with appMain := .createTouch, isrRegistered := true}
  | .createTouch => {s with appMain := .createSensor, touchCreated := true}
  | .createSensor =>
    {s with appMain := .startSensor, periodicTimerSensorHall := s.periodicTimerSensorHall.create}
  | .startSensor =>
    {s with
      appMain := .createChrono
      periodicTimerSensorHall := s.periodicTimerSensorHall.startPeriodic ()}
  | .createChrono =>
    {s with appMain := .startChrono, periodicTimerChrono := s.periodicTimerChrono.create}
  | .startChrono =>
    {s with appMain := .deleted, periodicTimerChrono := s.periodicTimerChrono.startPeriodic s.epoch}
  | .deleted => s

def step (b : Build) (s : State) : Action → State
  | .appMain => appMain s
  | .isr padIntr => rtcIntrTouchPad padIntr s
  | .touch => touchpadReadTask s
  | .chrono => chronometerTimerCallback s
  | .sensor value => sensorTimerCallback b value s
  | .handler => statusHandlerTask s

def State.start : State where
  appMain := .createHandler
  queueOut := .empty
  periodicTimerChrono := .null
  periodicTimerSensorHall := .null
  sPadActivated := fun _ => false
  isrRegistered := false
  touchCreated := false
  touch := .checking
  tick := none
  handlerCreated := false
  handler := .receiving
  isTimerActive := true
  countTimer := 0
  accepted := []
  refused := []
  handled := []
  presses := 0
  counted := []

/-- The chronometer from reset, with whoever is there to move next. -/
def chronometer (b : Build) : Machine State Action := ⟨State.start, step b⟩

/-! ### What one step can do -/

/-- What a step may do to a state, with what it found there. -/
inductive Moves (s : State) : Action → State → Prop where
  | stays (a : Action) : Moves s a s
  /-- A statement of `app_main` before those that make the chronometer's timer. -/
  | starts {m : AppMain} {isr touch handler : Bool} {hall : Timer Unit}
      (hm : m ≠ .startChrono ∧ m ≠ .deleted) :
      Moves s .appMain {s with
        appMain := m
        isrRegistered := isr
        touchCreated := touch
        handlerCreated := handler
        periodicTimerSensorHall := hall}
  | creates (hm : s.appMain = .createChrono) :
      Moves s .appMain
        {s with appMain := .startChrono, periodicTimerChrono := s.periodicTimerChrono.create}
  | launches (hm : s.appMain = .startChrono) :
      Moves s .appMain {s with
        appMain := .deleted
        periodicTimerChrono := s.periodicTimerChrono.startPeriodic s.epoch}
  | interrupts (padIntr : BitVec 32) (hisr : s.isrRegistered = true) :
      Moves s (.isr padIntr) {s with sPadActivated := fun i => padIntr.getLsbD i || s.sPadActivated i}
  | finds (ht : s.touch = .checking) (hpad : s.sPadActivated touchPadPin0 = true) :
      Moves s .touch {s with touch := .sending}
  | presses (ht : s.touch = .sending) :
      Moves s .touch (sendMachineState .startStopTimer s.epoch
        {s with touch := .clearing, presses := s.presses + 1})
  | clears (ht : s.touch = .clearing) :
      Moves s .touch {s with
        touch := .checking
        sPadActivated := fun i => if i = touchPadPin0 then false else s.sPadActivated i}
  | fires (run : Nat) (htick : s.tick = none) (htimer : s.periodicTimerChrono = .running run) :
      Moves s .chrono {s with tick := some run}
  | ticks (run : Nat) (htick : s.tick = some run) :
      Moves s .chrono (sendMachineState .countTimer run {s with tick := none})
  | resets (value : Int) : Moves s (.sensor value) (sendMachineState .resetTimer s.epoch s)
  | receives (e : Posted) (q : Fifo Posted 10) (hh : s.handler = .receiving)
      (hq : s.queueOut.items = e :: q.items) :
      Moves s .handler {s with queueOut := q, handler := .handling e}
  | handles (e : Posted) (hh : s.handler = .handling e) :
      Moves s .handler (handleStatus e (s.handling e))

theorem appMain_moves (s : State) : Moves s .appMain (appMain s) := by
  unfold appMain
  split
  · exact .starts ⟨nofun, nofun⟩
  · exact .starts ⟨nofun, nofun⟩
  · exact .starts ⟨nofun, nofun⟩
  · exact .starts ⟨nofun, nofun⟩
  · exact .starts ⟨nofun, nofun⟩
  · next hm => exact .creates hm
  · next hm => exact .launches hm
  · exact .stays _

theorem touchpadReadTask_moves (s : State) : Moves s .touch (touchpadReadTask s) := by
  unfold touchpadReadTask
  split
  · split
    · next ht =>
      split
      · next hpad => exact .finds ht hpad
      · exact .stays _
    · next ht => exact .presses ht
    · next ht => exact .clears ht
  · exact .stays _

theorem chronometerTimerCallback_moves (s : State) :
    Moves s .chrono (chronometerTimerCallback s) := by
  unfold chronometerTimerCallback
  split
  · next run htick => exact .ticks run htick
  · next htick =>
    split
    · next run htimer => exact .fires run htick htimer
    · exact .stays _

theorem sensorTimerCallback_moves (b : Build) (value : Int) (s : State) :
    Moves s (.sensor value) (sensorTimerCallback b value s) := by
  unfold sensorTimerCallback sensorInfraredTimerCallback sensorHallTimerCallback
  split
  · split <;> split <;> first | exact .resets value | exact .stays _
  · exact .stays _

theorem statusHandlerTask_moves (s : State) : Moves s .handler (statusHandlerTask s) := by
  unfold statusHandlerTask
  split
  · split
    · next hh =>
      split
      · exact .stays _
      · next e q hq => exact .receives e q hh (Fifo.receive_eq_some.mp hq)
    · next e hh => exact .handles e hh
  · exact .stays _

theorem step_moves (b : Build) (s : State) (a : Action) : Moves s a (step b s a) := by
  cases a with
  | appMain => exact appMain_moves s
  | isr padIntr =>
    simp only [step, rtcIntrTouchPad]
    split
    · next hisr => exact .interrupts padIntr hisr
    · exact .stays _
  | touch => exact touchpadReadTask_moves s
  | chrono => exact chronometerTimerCallback_moves s
  | sensor value => exact sensorTimerCallback_moves b value s
  | handler => exact statusHandlerTask_moves s

/-- What holds at the start and no move breaks holds in every reachable state. -/
theorem chronometer_invariant {Inv : State → Prop} (hstart : Inv State.start)
    (hmoves : ∀ s a s', Inv s → Moves s a s' → Inv s') (b : Build) (actions : List Action) :
    Inv ((chronometer b).run actions) :=
  Machine.run_invariant (chronometer b) hstart
    (fun s a h => hmoves s a _ h (step_moves b s a)) actions

/-- A post is accepted at the back of the queue or refused by a full one. -/
theorem sendMachineState_cases (status : MachineStatus) (run : Nat) (s : State) :
    (∃ q : Fifo Posted 10, q.items = s.queueOut.items ++ [⟨status, s.epoch, run⟩] ∧
      sendMachineState status run s =
        {s with queueOut := q, accepted := s.accepted ++ [⟨status, s.epoch, run⟩]}) ∨
    (s.queueOut.items.length = 10 ∧
      sendMachineState status run s = {s with refused := s.refused ++ [⟨status, s.epoch, run⟩]}) := by
  unfold sendMachineState
  dsimp only
  split
  · next q hq => exact .inl ⟨q, (Fifo.send_eq_some.mp hq).2, rfl⟩
  · next hq => exact .inr ⟨Fifo.send_eq_none.mp hq, rfl⟩

/-- A post changes the queue and what is known of the posts, and nothing else. -/
theorem sendMachineState_frame (status : MachineStatus) (run : Nat) (s : State) :
    ∃ q accepted refused, sendMachineState status run s =
      {s with queueOut := q, accepted := accepted, refused := refused} := by
  rcases sendMachineState_cases status run s with ⟨q, _, heq⟩ | ⟨_, heq⟩
  · exact ⟨q, _, s.refused, heq⟩
  · exact ⟨s.queueOut, s.accepted, _, heq⟩

/-- The handler is there from the first statement of `app_main` on. -/
theorem appMain_created {s : State} (h : s.appMain ≠ .createHandler → s.handlerCreated = true) :
    (appMain s).handlerCreated = true := by
  unfold appMain
  split
  case h_1 => rfl
  all_goals next hm => exact h (by rw [hm]; nofun)

/-- Handling an event changes the count and the timer, and nothing else. -/
theorem handleStatus_frame (e : Posted) (s : State) : ∃ active count ticks timer,
    handleStatus e s = {s with
      isTimerActive := active
      countTimer := count
      counted := ticks
      periodicTimerChrono := timer} := by
  unfold handleStatus
  split
  · split
    · exact ⟨_, _, _, s.periodicTimerChrono, rfl⟩
    · exact ⟨s.isTimerActive, s.countTimer, s.counted, s.periodicTimerChrono, rfl⟩
  · dsimp only
    split
    · exact ⟨_, s.countTimer, s.counted, _, rfl⟩
    · exact ⟨_, s.countTimer, s.counted, s.periodicTimerChrono, rfl⟩
  · exact ⟨_, _, _, _, rfl⟩

end Aniot.P3
