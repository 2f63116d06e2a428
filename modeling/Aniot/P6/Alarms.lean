import Aniot.Machine.History
import Aniot.P6.Station

/-! The station under the clock of its two timers.

`esp_timer` runs all callbacks in one task. It dispatches the alarm that is due first, of two at one
instant either, and the next alarm of a periodic timer is a period after the last, however late
the callback comes. `app_main` starts the timer that measures, every ten seconds, before the one that
asks for the read-out, every minute. So before a `READ_LOG` is posted there are five readings in the
queue or through it (`Late`), however long the mount, the handler and `app_main` take, and a
read-out of a run that loses nothing is of five readings (`read_out_prints_five`). -/
namespace Aniot.P6.Alarms
open Esp

def microsPeriodicSensorHall : Nat := 10000000
def microsChronoReader : Nat := 60000000

/-- The time since the boot in microseconds, and when the next alarm of each timer is. -/
structure Clock where
  now : Nat
  hallAlarm : Nat
  readerAlarm : Nat

structure State where
  station : Station.State
  clock : Clock

inductive Action where
  | elapse (micros : Nat)
  | acts (a : Station.Action)

/-- The timer task is to call `sensor_hall_timer_callback`. -/
def dispatchesHall (s : P6.State) : P6.Action → Bool
  | .hall _ => s.hall = .idle && s.periodicTimerSensorHall = .running ()
  | _ => false

/-- The timer task is to call `reader_timer_callback`. -/
def dispatchesReader (s : P6.State) : P6.Action → Bool
  | .reader => s.reader = .idle && s.periodicTimerReader = .running ()
  | _ => false

/-- A callback is dispatched when its alarm is due, none of the other timer comes first, and the
other callback is not in progress. -/
def Clock.ready (c : Clock) (s : P6.State) (a : P6.Action) : Bool :=
  (!dispatchesHall s a || (s.reader = .idle && c.hallAlarm ≤ c.now &&
    (s.periodicTimerReader ≠ .running () || c.hallAlarm ≤ c.readerAlarm))) &&
  (!dispatchesReader s a || (s.hall = .idle && c.readerAlarm ≤ c.now &&
    (s.periodicTimerSensorHall ≠ .running () || c.readerAlarm ≤ c.hallAlarm)))

/-- The start of a timer sets its alarm, and a dispatch moves it on by a period. -/
def Clock.moves (c : Clock) (s : P6.State) : P6.Action → Clock
  | .appMain =>
    match s.appMain with
    | .startHall => {c with hallAlarm := c.now + microsPeriodicSensorHall}
    | .startReader => {c with readerAlarm := c.now + microsChronoReader}
    | _ => c
  | .hall v =>
    if dispatchesHall s (.hall v) then {c with hallAlarm := c.hallAlarm + microsPeriodicSensorHall} else c
  | .reader =>
    if dispatchesReader s .reader then {c with readerAlarm := c.readerAlarm + microsChronoReader} else c
  | .handler _ => c

def ready (s : State) : Station.Action → Bool
  | .moves a _ _ => s.clock.ready s.station.recorder a
  | .restarts => true

def clockAfter (s : State) : Station.Action → Clock
  | .moves a _ _ => s.clock.moves s.station.recorder a
  | .restarts => ⟨0, 0, 0⟩

def step (f : LogFormat) (s : State) : Action → State
  | .elapse micros => {s with clock := {s.clock with now := s.clock.now + micros}}
  | .acts a => if ready s a then ⟨Station.step f s.station a, clockAfter s a⟩ else s

def alarmed (f : LogFormat) : Machine State Action := ⟨⟨(Station.station f).start, ⟨0, 0, 0⟩⟩, step f⟩

/-- What the clock lets the station do. -/
def fed (s : State) : Action → List Station.Action
  | .elapse _ => []
  | .acts a => if ready s a then [a] else []

def fedRun (f : LogFormat) (actions : List Action) : List Station.Action :=
  (alarmed f).emitted fed (alarmed f).start actions

/-- The clock in front of it feeds the station a run of its own. -/
theorem run_station (f : LogFormat) (actions : List Action) :
    ((alarmed f).run actions).station = (Station.station f).run (fedRun f actions) := by
  refine Machine.runFrom_emitted (p := State.station) (N := Station.station f) (fun s a => ?_) _ actions
  cases a with
  | elapse micros => rfl
  | acts a =>
    show (step f s (.acts a)).station = _
    rw [step, fed]
    split <;> rfl

/-! ### Before the first alarm of the reader -/

/-- A `WRITE_LOG` with its reading. -/
def IsWrite (e : Posted) : Prop := e.status = .writeLog ∧ e.reading.isSome = true

/-- How many times the callback that measures has been called, if all its posts were accepted. -/
def called (s : P6.State) : Nat := s.accepted.length + if s.hall = .idle then 0 else 1

/-- The timers at each statement of `app_main`, before any is stopped. -/
def hallTimerAt : AppMain → Timer Unit
  | .createHandler => .null
  | .createHall => .null
  | .startHall => .stopped
  | _ => .running ()

def readerTimerAt : AppMain → Timer Unit
  | .startReader => .stopped
  | .returned => .running ()
  | _ => .null

/-- Only readings have been announced. The alarm that measures comes a period after each call, and
so five calls come before the alarm that asks. -/
structure Early (s : P6.State) (c : Clock) : Prop where
  writes : ∀ e ∈ s.accepted, IsWrite e
  reader : s.reader = .idle
  branch : s.handler.inBranch = false
  hallTimer : s.periodicTimerSensorHall = hallTimerAt s.appMain
  readerTimer : s.periodicTimerReader = readerTimerAt s.appMain
  hallAlarm : s.periodicTimerSensorHall = .running () →
    c.hallAlarm ≤ c.now + (called s + 1) * microsPeriodicSensorHall
  readerAlarm : s.periodicTimerReader = .running () →
    c.hallAlarm + 5 * microsPeriodicSensorHall ≤ c.readerAlarm + called s * microsPeriodicSensorHall

/-- The first five events are readings. -/
structure Late (s : P6.State) : Prop where
  five : numLogsRead ≤ s.accepted.length
  writes : ∀ e ∈ s.accepted.take numLogsRead, IsWrite e

theorem late_of_writes {s : P6.State} (hwrites : ∀ e ∈ s.accepted, IsWrite e)
    (hfive : numLogsRead ≤ s.accepted.length) : Late s :=
  ⟨hfive, fun e he => hwrites e (List.mem_of_mem_take he)⟩

theorem moves_late {s : P6.State} {a : P6.Action} {s' : P6.State} (h : Late s) (hm : Moves s a s') :
    Late s' := by
  have hmore : ∃ l, s'.accepted = s.accepted ++ l := by
    cases moves_flows hm with
    | keeps haccepted _ _ _ => exact ⟨[], haccepted.trans (List.append_nil _).symm⟩
    | posts e _ _ haccepted _ _ _ => exact ⟨[e], haccepted⟩
    | acts e haccepted _ _ _ => exact ⟨[], haccepted.trans (List.append_nil _).symm⟩
  obtain ⟨l, haccepted⟩ := hmore
  constructor
  · rw [haccepted, List.length_append]
    exact Nat.le_add_right_of_le h.five
  · rw [haccepted, List.take_append_of_le_length h.five]
    exact h.writes

theorem appMain_early {s : P6.State} {c : Clock} (h : Early s c) :
    Early (appMain s) (c.moves s .appMain) := by
  have hhall := h.hallTimer
  have hreader := h.readerTimer
  rw [Clock.moves]
  unfold appMain
  cases hm : s.appMain with
  | createHandler =>
    rw [hm] at hhall hreader
    exact ⟨h.writes, h.reader, h.branch, hhall, hreader, h.hallAlarm, h.readerAlarm⟩
  | createHall =>
    rw [hm] at hreader
    exact ⟨h.writes, h.reader, h.branch, rfl, hreader, nofun, h.readerAlarm⟩
  | startHall =>
    rw [hm] at hhall hreader
    dsimp only
    rw [hhall, hreader]
    refine ⟨h.writes, h.reader, h.branch, rfl, rfl, fun _ => ?_, nofun⟩
    rw [called, Nat.add_mul, Nat.one_mul]
    dsimp only
    omega
  | createReader =>
    rw [hm] at hhall
    exact ⟨h.writes, h.reader, h.branch, hhall, rfl, h.hallAlarm, nofun⟩
  | startReader =>
    rw [hm] at hhall hreader
    have hdue := h.hallAlarm hhall
    dsimp only
    rw [hreader]
    refine ⟨h.writes, h.reader, h.branch, hhall, rfl, h.hallAlarm, fun _ => ?_⟩
    show c.hallAlarm + 5 * microsPeriodicSensorHall ≤
      c.now + microsChronoReader + called s * microsPeriodicSensorHall
    rw [Nat.add_mul] at hdue
    simp only [microsPeriodicSensorHall, microsChronoReader] at hdue ⊢
    omega
  | returned => exact ⟨h.writes, h.reader, h.branch, h.hallTimer, h.readerTimer, h.hallAlarm, h.readerAlarm⟩

/-- A call of the callback that measures moves the alarm on with the count. -/
theorem fires_early {s : P6.State} {c : Clock} (h : Early s c) (hh : s.hall = .idle)
    (ht : s.periodicTimerSensorHall = .running ()) :
    Early {s with hall := .storing} {c with hallAlarm := c.hallAlarm + microsPeriodicSensorHall} := by
  have hcalled : called {s with hall := .storing} = called s + 1 := by
    rw [called, called, if_pos hh]
    rfl
  refine ⟨h.writes, h.reader, h.branch, h.hallTimer, h.readerTimer, fun _ => ?_, fun hr => ?_⟩
  · have hdue := h.hallAlarm ht
    rw [hcalled, Nat.add_mul, Nat.one_mul]
    dsimp only
    omega
  · have hbefore := h.readerAlarm hr
    rw [hcalled, Nat.add_mul, Nat.one_mul]
    dsimp only
    omega

/-- A post is counted, or refused with ten before it. -/
theorem announces_early {s : P6.State} {c : Clock} (horder : InOrder s) (h : Early s c) {reading : Int}
    (hh : s.hall = .posting reading) :
    Early (sendMachineState ⟨.writeLog, some reading⟩ {s with hall := .idle}) c ∨
      Late (sendMachineState ⟨.writeLog, some reading⟩ {s with hall := .idle}) := by
  have hcalled : called s = s.accepted.length + 1 := by
    rw [called, hh]
    rfl
  have hhallAlarm := h.hallAlarm
  have hreaderAlarm := h.readerAlarm
  rw [hcalled] at hhallAlarm hreaderAlarm
  rcases sendMachineState_cases ⟨.writeLog, some reading⟩ {s with hall := .idle} with
    ⟨q, hq, heq⟩ | ⟨hfull, heq⟩
  · left
    rw [heq]
    refine ⟨fun e he => ?_, h.reader, h.branch, h.hallTimer, h.readerTimer, fun ht => ?_, fun hr => ?_⟩
    · rcases List.mem_append.mp he with he | he
      · exact h.writes e he
      · rw [List.mem_singleton.mp he]
        exact ⟨rfl, rfl⟩
    · rw [called, List.length_append]
      exact hhallAlarm ht
    · rw [called, List.length_append]
      exact hreaderAlarm hr
  · right
    rw [heq]
    have hten : s.queueOut.items.length = 10 := hfull
    have hfive : numLogsRead ≤ s.accepted.length := by
      rw [horder.order, State.pending, List.length_append, List.length_append, hten, numLogsRead]
      omega
    exact late_of_writes h.writes hfive

theorem hall_early {s : P6.State} {c : Clock} (horder : InOrder s) (h : Early s c) (v : Int) :
    Early (sensorHallTimerCallback v s) (c.moves s (.hall v)) ∨ Late (sensorHallTimerCallback v s) := by
  by_cases hdispatches : dispatchesHall s (.hall v) = true
  · obtain ⟨hh, ht⟩ : s.hall = .idle ∧ s.periodicTimerSensorHall = .running () := by
      simpa [dispatchesHall] using hdispatches
    have hstep : sensorHallTimerCallback v s = {s with hall := .storing} := by
      simp only [sensorHallTimerCallback, hh, ht]
    rw [Clock.moves, if_pos hdispatches, hstep]
    exact .inl (fires_early h hh ht)
  · rw [Clock.moves, if_neg hdispatches]
    unfold sensorHallTimerCallback
    split
    · next hh =>
      split
      · next ht => exact absurd (by simp [dispatchesHall, hh, ht]) hdispatches
      · exact .inl h
    · next hh =>
      have hcalled : called {s with hall := .posting v, valueSensor := v} = called s := by
        rw [called, called, hh]
        rfl
      refine .inl ⟨h.writes, h.reader, h.branch, h.hallTimer, h.readerTimer, ?_, ?_⟩
      · rw [hcalled]
        exact h.hallAlarm
      · rw [hcalled]
        exact h.readerAlarm
    · next reading hh => exact announces_early horder h hh

/-- The alarm that asks is dispatched as the first that is due, after five calls. -/
theorem asks_five {s : P6.State} {c : Clock} (h : Early s c) (ht : s.periodicTimerReader = .running ())
    (hready : c.ready s .reader = true) : numLogsRead ≤ s.accepted.length := by
  have hreturned : s.appMain = .returned := by
    have htimer := ht.symm.trans h.readerTimer
    cases hm : s.appMain <;> rw [hm] at htimer <;> first | rfl | cases htimer
  have hrunning : s.periodicTimerSensorHall = .running () := by
    rw [h.hallTimer, hreturned]
    rfl
  obtain ⟨⟨hidle, -⟩, hfirst⟩ : (s.hall = .idle ∧ c.readerAlarm ≤ c.now) ∧ c.readerAlarm ≤ c.hallAlarm := by
    simpa [Clock.ready, dispatchesHall, dispatchesReader, h.reader, ht, hrunning] using hready
  have hbefore := h.readerAlarm ht
  rw [called, if_pos hidle, Nat.add_zero] at hbefore
  rw [numLogsRead]
  simp only [microsPeriodicSensorHall] at hbefore
  omega

theorem reader_early {s : P6.State} {c : Clock} (h : Early s c) (hready : c.ready s .reader = true) :
    Early (readerTimerCallback s) (c.moves s .reader) ∨ Late (readerTimerCallback s) := by
  rw [Clock.moves]
  unfold readerTimerCallback
  rw [h.reader]
  dsimp only
  split
  · next ht =>
    have hfive := asks_five h ht hready
    exact .inr (late_of_writes h.writes hfive)
  · next ht =>
    rw [if_neg (by simpa [dispatchesReader, h.reader] using ht)]
    exact .inl h

/-- The handler has no `READ_LOG` to come to. -/
theorem handler_early {s : P6.State} {c : Clock} (horder : InOrder s) (h : Early s c) (opens : Bool) :
    Early (statusHandlerTask opens s) c := by
  have hbranch := h.branch
  have hm := statusHandlerTask_moves opens s
  generalize statusHandlerTask opens s = s' at hm
  cases hm with
  | stays => exact h
  | stopsHall opens e hh he =>
    have hwrite := h.writes e (by rw [horder.order, pending_of_handling hh]; simp)
    cases he.symm.trans hwrite.1
  | stopsReader opens hh => rw [hh] at hbranch; cases hbranch
  | reads hh => rw [hh] at hbranch; cases hbranch
  | givesUp hh => rw [hh] at hbranch; cases hbranch
  | receives opens e q hh hq =>
    exact ⟨h.writes, h.reader, rfl, h.hallTimer, h.readerTimer, h.hallAlarm, h.readerAlarm⟩
  | logs opens e hh he =>
    exact ⟨h.writes, h.reader, rfl, h.hallTimer, h.readerTimer, h.hallAlarm, h.readerAlarm⟩
  | mounts opens hh =>
    exact ⟨h.writes, h.reader, rfl, h.hallTimer, h.readerTimer, h.hallAlarm, h.readerAlarm⟩

/-! ### In any run -/

structure Timely (s : State) : Prop where
  order : InOrder s.station.recorder
  phase : Early s.station.recorder s.clock ∨ Late s.station.recorder

theorem moves_timely {s : P6.State} {c : Clock} (horder : InOrder s) (h : Early s c ∨ Late s) {a : P6.Action}
    (hready : c.ready s a = true) : Early (P6.step s a) (c.moves s a) ∨ Late (P6.step s a) := by
  rcases h with h | h
  · cases a with
    | appMain => exact .inl (appMain_early h)
    | hall v => exact hall_early horder h v
    | reader => exact reader_early h hready
    | handler opens => exact .inl (handler_early horder h opens)
  · exact .inr (moves_late h (step_moves s a))

theorem start_early : Early P6.recorder.start ⟨0, 0, 0⟩ := ⟨nofun, rfl, rfl, rfl, rfl, nofun, nofun⟩

theorem step_timely (f : LogFormat) (s : State) (a : Action) (h : Timely s) : Timely (step f s a) := by
  cases a with
  | elapse micros =>
    refine ⟨h.order, h.phase.imp_left fun he => ?_⟩
    refine ⟨he.writes, he.reader, he.branch, he.hallTimer, he.readerTimer, fun ht => ?_, he.readerAlarm⟩
    have hdue := he.hallAlarm ht
    show s.clock.hallAlarm ≤
      s.clock.now + micros + (called s.station.recorder + 1) * microsPeriodicSensorHall
    omega
  | acts b =>
    rw [step]
    split
    · next hready =>
      cases b with
      | restarts => exact ⟨⟨rfl, nofun⟩, .inl start_early⟩
      | moves a stamp opens =>
        -- what a `fopen` answers is no matter of the clock
        have hclock : s.clock.moves s.station.recorder a =
            s.clock.moves s.station.recorder (Station.answered s.station a) := by cases a <;> rfl
        have hready' : s.clock.ready s.station.recorder (Station.answered s.station a) = true := by
          cases a <;> exact hready
        have hphase := moves_timely h.order h.phase hready'
        rw [← hclock, ← Station.step_recorder f s.station a stamp opens] at hphase
        refine ⟨?_, hphase⟩
        show InOrder (Station.step f s.station (.moves a stamp opens)).recorder
        rw [Station.step_recorder]
        exact flows_inOrder h.order (moves_flows (step_moves _ _))
    · exact h

theorem run_timely (f : LogFormat) (actions : List Action) : Timely ((alarmed f).run actions) :=
  Machine.run_invariant (alarmed f) ⟨⟨rfl, nofun⟩, .inl start_early⟩ (step_timely f) actions

/-! ### A read-out -/

/-- The readings of events that have one each. -/
theorem readings_length {l : List Posted} (h : ∀ e ∈ l, IsWrite e) : (readings l).length = l.length := by
  induction l with
  | nil => rfl
  | cons e rest ih =>
    obtain ⟨reading, hreading⟩ := Option.isSome_iff_exists.mp (h e List.mem_cons_self).2
    rw [readings, List.filterMap_cons_some hreading, List.length_cons, List.length_cons]
    exact congrArg (· + 1) (ih fun e he => h e (List.mem_cons_of_mem _ he))

/-- A handler that has come to a `READ_LOG` has come to five readings before it. -/
theorem Late.handled {s : P6.State} (h : Late s) (horder : InOrder s) (hread : 0 < s.handled.countP isRead) :
    ((readings s.handled).take numLogsRead).length = numLogsRead ∧
      (readings s.accepted).take numLogsRead = (readings s.handled).take numLogsRead := by
  obtain ⟨e, he, hstatus⟩ := List.countP_pos_iff.mp hread
  have hfive : numLogsRead ≤ s.handled.length := by
    by_contra hless
    have hmem : e ∈ s.accepted.take numLogsRead := by
      rw [horder.order, List.take_append, List.take_of_length_le (by omega)]
      exact List.mem_append_left _ he
    rw [isRead, (h.writes e hmem).1] at hstatus
    cases hstatus
  have hwrites := h.writes
  rw [horder.order, List.take_append_of_le_length hfive] at hwrites
  have hmany : numLogsRead ≤ (readings s.handled).length := by
    have hlength := readings_length hwrites
    rw [List.length_take, Nat.min_eq_left hfive] at hlength
    rw [← List.take_append_drop numLogsRead s.handled, readings_append, List.length_append, hlength]
    exact Nat.le_add_right _ _
  constructor
  · rw [List.length_take, Nat.min_eq_left hmany]
  · rw [horder.order, readings_append, List.take_append_of_le_length hmany]

/-- **In any timed run that loses nothing, over any number of boots, a read-out whose `fopen` succeeds
finds the log and prints five lines, the first five readings accepted in its boot, in order.** -/
theorem read_out_prints_five (f : LogFormat) (actions : List Action)
    (hC : (Station.station f).Meets (fun s a => Station.loses s a = false) (Station.station f).start
      (fedRun f actions))
    (stamp : UInt32) (redirects : Bool) :
    let s := ((alarmed f).run actions).station
    let t := ((alarmed f).run (actions ++ [.acts (.moves (.handler true) stamp redirects)])).station
    s.recorder.handler = .opening →
    t.recorder.handler = .receiving ∧ ∃ lines, t.printed = s.printed ++ [lines] ∧ lines.length = numLogsRead ∧
      List.Forall₂ (fun line value => ∃ stamp, line = f.info stamp value) lines
        ((readings s.recorder.accepted).take numLogsRead) := by
  intro s t hopening
  have htimely : Timely ((alarmed f).run actions) := run_timely f actions
  have hs : s = (Station.station f).run (fedRun f actions) := run_station f actions
  have hbegun : Begun s.recorder := hs ▸ Station.run_recorder f _
  have hwritten : Station.Written f s := hs ▸ Station.run_written f _
  have hlossless : Station.Lossless s :=
    hs ▸ Machine.Meets.invariant (Station.step_lossless f) hC ⟨⟨⟨rfl, nofun⟩, nofun, nofun, rfl⟩, rfl, nofun⟩
  have hbranch : s.recorder.handler.inBranch = true := by
    rw [hopening]
    rfl
  have hlate : Late s.recorder := by
    rcases htimely.phase with hearly | hlate
    · cases hearly.branch.symm.trans hbranch
    · exact hlate
  have hread : 0 < s.recorder.handled.countP isRead := by
    rw [hbegun.count, if_pos hbranch]
    exact Nat.succ_pos _
  obtain ⟨hfive, hreadings⟩ := hlate.handled htimely.order hread
  -- the readings handled are in the log, and so there is one
  have hlogged := hlossless.entries
  rw [hlossless.announced.logged] at hlogged
  have hentries : s.entries ≠ [] := by
    intro hnone
    rw [hnone] at hlogged
    rw [List.map_eq_nil_iff.mp hlogged.symm] at hfive
    cases hfive
  have hkept : s.kept = s.entries := hlossless.kept hentries
  have ht : t = Station.step f s (.moves (.handler true) stamp redirects) :=
    congrArg State.station ((alarmed f).run_append actions [.acts (.moves (.handler true) stamp redirects)])
  obtain ⟨hhandler, hprinted⟩ := Station.opening_prints f hbegun hwritten.file hopening true stamp redirects
  rw [← ht, hkept, if_pos ⟨rfl, hentries⟩] at hhandler hprinted
  have hlines := List.forall₂_take numLogsRead (Station.lines_of_readings f hlogged)
  refine ⟨hhandler, _, hprinted, hlines.length_eq.trans hfive, ?_⟩
  rw [hreadings]
  exact hlines

/-- Five readings are logged, each when its alarm is due, and then the minute is over. -/
def minute : List Action :=
  let moves (l : List P6.Action) : List Action := l.map fun a => .acts (.moves a 0 true)
  let logsOne (v : Int) : List Action :=
    .elapse microsPeriodicSensorHall :: moves (measures v ++ [.handler true, .handler true])
  moves (started ++ [.handler true]) ++ [7, 1, 2, 3, 4].flatMap logsOne ++
    .elapse microsPeriodicSensorHall :: moves asksAndBegins

theorem read_out_prints_five_minute :
    let s := ((alarmed espLogFormat).run minute).station
    let t := ((alarmed espLogFormat).run (minute ++ [.acts (.moves (.handler true) 0 true)])).station
    t.recorder.handler = .receiving ∧ ∃ lines, t.printed = s.printed ++ [lines] ∧ lines.length = numLogsRead ∧
      List.Forall₂ (fun line value => ∃ stamp, line = espLogFormat.info stamp value) lines
        ((readings s.recorder.accepted).take numLogsRead) :=
  read_out_prints_five espLogFormat minute (by decide +kernel) 0 true (by decide +kernel)

end Aniot.P6.Alarms
