import Aniot.P6.Readings

/-! How often the log is read out, and what a read-out that fails leaves behind.

The reader's timer is periodic: it goes on posting `READ_LOG` until the handler, in the
branch for the first of them, stops it. What has been posted by then, or is about to be,
is not taken back. If nothing is when the log has been opened, there is no second
read-out (`read_out_at_most_once`); if something is, there can be one
(`rereads_reads_again`). A recorder with its task in the loop and its timers running
comes to whatever it accepts (`operating_of_running`). The branch stops both timers
before it opens the log, and a log that does not open ends the task
(`failed_read_out_ends_recorder`). -/
namespace Aniot.P6
open Esp

def isRead (e : Posted) : Bool := e.status = .readLog

/-- A read-out is asked for and not begun: its event is pending or about to be posted. -/
def State.asked (s : State) : Bool := s.reader = .posting || s.pending.any isRead

/-- The handler is in the branch for `READ_LOG` and has not opened the log. -/
def HandlerTask.inBranch : HandlerTask → Bool
  | .stoppingReader => true
  | .opening => true
  | _ => false

/-! ### Who asks for a read-out -/

theorem asked_of_pending {s s' : State} (h : s'.asked = true) (hreader : s'.reader = s.reader)
    (hpending : ∀ e ∈ s'.pending, e ∈ s.pending) : s.asked = true := by
  rw [State.asked, Bool.or_eq_true, List.any_eq_true] at h ⊢
  rw [hreader] at h
  apply h.imp_right
  rintro ⟨e, he, hread⟩
  exact ⟨e, hpending e he, hread⟩

/-- A `WRITE_LOG` posted asks for none. -/
theorem announces_asked {s s' : State} {reading : Option Int} (h : s'.asked = true)
    (hqueue : s'.queueOut.items = s.queueOut.items ++ [⟨.writeLog, reading⟩] ∨
      s'.queueOut.items = s.queueOut.items)
    (hreader : s'.reader = s.reader) (hhandler : s'.handler = s.handler) : s.asked = true := by
  rw [State.asked, State.pending, hreader, hhandler] at h
  rw [State.asked, State.pending]
  rcases hqueue with hqueue | hqueue
  · rw [hqueue] at h
    simpa [isRead] using h
  · rw [hqueue] at h
    exact h

/-- A read-out is asked for already, or by the running timer. -/
theorem moves_asked {s : State} {a : Action} {s' : State} (hm : Moves s a s') (h : s'.asked = true) :
    s.asked = true ∨ s.periodicTimerReader = .running () := by
  cases hm with
  | boots =>
    obtain ⟨m, created, hall, reader, heq⟩ := appMain_frame s
    rw [heq] at h
    exact .inl h
  | announces v reading hh =>
    obtain ⟨q, accepted, refused, hq, heq⟩ :=
      sendMachineState_frame ⟨.writeLog, some reading⟩ {s with hall := .idle}
    rw [heq] at h
    exact .inl (announces_asked h hq rfl rfl)
  | readerFires hr ht => exact .inr ht
  | asks hr => exact .inl (by simp [State.asked, hr])
  | receives opens e q hh hq =>
    refine .inl (asked_of_pending h rfl ?_)
    rw [pending_of_held (s := s) (by rw [hh]; rfl), hq]
    exact fun p hp => hp
  | logs opens e hh he =>
    refine .inl (asked_of_pending h rfl ?_)
    rw [pending_of_handling hh]
    exact fun p hp => List.mem_cons_of_mem e hp
  | stopsHall opens e hh he =>
    refine .inl (asked_of_pending h rfl ?_)
    rw [pending_of_handling hh]
    exact fun p hp => List.mem_cons_of_mem e hp
  | mounts opens hh => exact .inl (by simpa [State.asked, State.pending, hh, HandlerTask.held] using h)
  | stopsReader opens hh => exact .inl (by simpa [State.asked, State.pending, hh, HandlerTask.held] using h)
  | reads hh => exact .inl (by simpa [State.asked, State.pending, hh, HandlerTask.held] using h)
  | givesUp hh => exact .inl (by simpa [State.asked, State.pending, hh, HandlerTask.held] using h)
  | _ => exact .inl h

/-- `app_main` starts the reader's timer in its last statement, and nothing else starts it. -/
theorem moves_timer {s : State} {a : Action} {s' : State} (hm : Moves s a s')
    (h : s'.periodicTimerReader = .running ()) :
    s.periodicTimerReader = .running () ∨ s.appMain = .startReader ∧ s'.appMain = .returned := by
  cases hm with
  | boots =>
    unfold appMain at h ⊢
    split at h
    case h_4 => cases h
    case h_5 hstart => exact .inr ⟨hstart, rfl⟩
    all_goals exact .inl h
  | announces v reading hh =>
    rw [(sendMachineState_keeps _ _).readerTimer] at h
    exact .inl h
  | asks hr =>
    rw [(sendMachineState_keeps _ _).readerTimer] at h
    exact .inl h
  | stopsReader opens hh => exact absurd h Timer.stop_not_running
  | _ => exact .inl h

theorem appMain_returned {s : State} (h : s.appMain = .returned) : appMain s = s := by
  rw [appMain, h]

theorem moves_returned {s : State} {a : Action} {s' : State} (hm : Moves s a s')
    (h : s.appMain = .returned) : s'.appMain = .returned := by
  cases hm with
  | boots =>
    rw [appMain_returned h]
    exact h
  | announces v reading hh => exact (sendMachineState_keeps _ _).appMain.trans h
  | asks hr => exact (sendMachineState_keeps _ _).appMain.trans h
  | _ => exact h

/-! ### Before the log is opened -/

/-- A read-out that is asked for or begun comes after the last statement of `app_main`. -/
structure Begun (s : State) : Prop where
  created : s.appMain ≠ .createHandler → s.handlerCreated = true
  timer : s.periodicTimerReader = .running () → s.appMain = .returned
  asked : s.asked = true → s.appMain = .returned
  branch : s.handler.inBranch = true →
    s.appMain = .returned ∧ s.periodicTimerSensorHall ≠ .running ()
  opening : s.handler = .opening → s.periodicTimerReader ≠ .running ()
  /-- Each `READ_LOG` handled has opened the log, but for the one in hand. -/
  count : s.handled.countP isRead = s.opened.length + if s.handler.inBranch then 1 else 0

theorem appMain_created {s : State} (h : s.appMain ≠ .createHandler → s.handlerCreated = true) :
    (appMain s).handlerCreated = true := by
  unfold appMain
  split
  case h_1 => rfl
  all_goals next hm => exact h (by rw [hm]; nofun)

theorem moves_begun (s : State) (a : Action) (s' : State) (h : Begun s) (hm : Moves s a s') :
    Begun s' := by
  have htimer : s'.periodicTimerReader = .running () → s'.appMain = .returned := by
    intro ht
    rcases moves_timer hm ht with ht | ⟨_, hreturned⟩
    · exact moves_returned hm (h.timer ht)
    · exact hreturned
  have hasked : s'.asked = true → s'.appMain = .returned := by
    intro ha
    rcases moves_asked hm ha with ha | ht
    · exact moves_returned hm (h.asked ha)
    · exact moves_returned hm (h.timer ht)
  cases hm with
  | boots =>
    by_cases hm : s.appMain = .returned
    · rw [appMain_returned hm]
      exact h
    · have hcreated := appMain_created h.created
      have hbranch : s.handler.inBranch = true → False := fun hb => hm (h.branch hb).1
      obtain ⟨m, created, hall, reader, heq⟩ := appMain_frame s
      rw [heq] at htimer hasked hcreated ⊢
      refine ⟨fun _ => hcreated, htimer, hasked, fun hb => (hbranch hb).elim, fun ho => ?_, h.count⟩
      exact (hbranch (by rw [show s.handler = .opening from ho]; rfl)).elim
  | announces v reading hh =>
    obtain ⟨q, accepted, refused, hq, heq⟩ :=
      sendMachineState_frame ⟨.writeLog, some reading⟩ {s with hall := .idle}
    rw [heq] at htimer hasked ⊢
    exact ⟨h.created, htimer, hasked, h.branch, h.opening, h.count⟩
  | asks hr =>
    obtain ⟨q, accepted, refused, hq, heq⟩ := sendMachineState_frame ⟨.readLog, none⟩ {s with reader := .idle}
    rw [heq] at htimer hasked ⊢
    exact ⟨h.created, htimer, hasked, h.branch, h.opening, h.count⟩
  | mounts opens hh =>
    refine ⟨h.created, htimer, hasked, nofun, nofun, ?_⟩
    simpa [hh, HandlerTask.inBranch] using h.count
  | receives opens e q hh hq =>
    refine ⟨h.created, htimer, hasked, nofun, nofun, ?_⟩
    simpa [hh, HandlerTask.inBranch] using h.count
  | logs opens e hh he =>
    refine ⟨h.created, htimer, hasked, nofun, nofun, ?_⟩
    simpa [hh, HandlerTask.inBranch, isRead, he, List.countP_append] using h.count
  | stopsHall opens e hh he =>
    have hreturned : s.appMain = .returned := by
      apply h.asked
      simp [State.asked, pending_of_handling hh, isRead, he]
    refine ⟨h.created, htimer, hasked, fun _ => ⟨hreturned, Timer.stop_not_running⟩, nofun, ?_⟩
    simpa [hh, HandlerTask.inBranch, isRead, he, List.countP_append] using h.count
  | stopsReader opens hh =>
    have hbranch := h.branch (by rw [hh]; rfl)
    refine ⟨h.created, htimer, hasked, fun _ => hbranch, fun _ => Timer.stop_not_running, ?_⟩
    simpa [hh, HandlerTask.inBranch] using h.count
  | reads hh =>
    refine ⟨h.created, htimer, hasked, nofun, nofun, ?_⟩
    simpa [hh, HandlerTask.inBranch] using h.count
  | givesUp hh =>
    refine ⟨h.created, htimer, hasked, nofun, nofun, ?_⟩
    simpa [hh, HandlerTask.inBranch] using h.count
  | _ => exact ⟨h.created, htimer, hasked, h.branch, h.opening, h.count⟩

theorem Begun.handler_created {s : State} (h : Begun s) (hreturned : s.appMain = .returned) :
    s.handlerCreated = true :=
  h.created (by rw [hreturned]; nofun)

theorem start_begun : Begun recorder.start := ⟨fun h => absurd rfl h, nofun, nofun, nofun, nofun, rfl⟩

theorem run_begun (actions : List Action) : Begun (recorder.run actions) :=
  Machine.run_invariant recorder start_begun (fun s a h => moves_begun s a _ h (step_moves s a)) actions

/-! ### After the log has been opened -/

/-- The log is opened while another read-out is asked for. -/
def rereads (s : State) : Action → Bool
  | .handler true => s.handler = .opening && s.asked
  | _ => false

/-- No read-out is asked for, and nothing is left that could ask for one. -/
structure Silent (s : State) : Prop where
  returned : s.appMain = .returned
  timer : s.periodicTimerReader ≠ .running ()
  asked : s.asked = false
  branch : s.handler.inBranch = false

theorem moves_silent {s : State} {a : Action} {s' : State} (h : Silent s) (hm : Moves s a s') :
    Silent s' ∧ s'.opened = s.opened := by
  have hnone : s'.asked = false := by
    by_contra hne
    rcases moves_asked hm (by simpa using hne) with ha | ht
    · rw [h.asked] at ha
      cases ha
    · exact h.timer ht
  have htimer : s'.periodicTimerReader ≠ .running () := by
    intro ht
    rcases moves_timer hm ht with ht | ⟨hstart, _⟩
    · exact h.timer ht
    · rw [h.returned] at hstart
      cases hstart
  have hreturned := moves_returned hm h.returned
  have hbranch := h.branch
  cases hm with
  | boots =>
    rw [appMain_returned h.returned]
    exact ⟨h, rfl⟩
  | announces v reading hh =>
    refine ⟨⟨hreturned, htimer, hnone, ?_⟩, (sendMachineState_keeps _ _).opened⟩
    rw [(sendMachineState_keeps _ _).handler]
    exact hbranch
  | asks hr =>
    refine ⟨⟨hreturned, htimer, hnone, ?_⟩, (sendMachineState_keeps _ _).opened⟩
    rw [(sendMachineState_keeps _ _).handler]
    exact hbranch
  | stopsHall opens e hh he =>
    have hread := h.asked
    simp [State.asked, pending_of_handling hh, isRead, he] at hread
  | stopsReader opens hh => rw [hh] at hbranch; cases hbranch
  | reads hh => rw [hh] at hbranch; cases hbranch
  | givesUp hh => rw [hh] at hbranch; cases hbranch
  | mounts opens hh => exact ⟨⟨hreturned, htimer, hnone, rfl⟩, rfl⟩
  | receives opens e q hh hq => exact ⟨⟨hreturned, htimer, hnone, rfl⟩, rfl⟩
  | logs opens e hh he => exact ⟨⟨hreturned, htimer, hnone, rfl⟩, rfl⟩
  | _ => exact ⟨⟨hreturned, htimer, hnone, hbranch⟩, rfl⟩

/-- The task has ended with both timers stopped, and `app_main` starts no other. -/
structure Ended (s : State) : Prop where
  handler : s.handler = .returned
  returned : s.appMain = .returned
  hall : s.periodicTimerSensorHall ≠ .running ()
  reader : s.periodicTimerReader ≠ .running ()

/-- No post changes that. -/
theorem Ended.posts {s : State} (h : Ended s) (e : Posted) :
    Ended (sendMachineState e s) ∧ (sendMachineState e s).opened = s.opened ∧
      (sendMachineState e s).handled = s.handled := by
  have hkeeps := sendMachineState_keeps e s
  refine ⟨⟨hkeeps.handler.trans h.handler, hkeeps.appMain.trans h.returned, ?_, ?_⟩,
    hkeeps.opened, hkeeps.handled⟩
  · rw [hkeeps.hallTimer]
    exact h.hall
  · rw [hkeeps.readerTimer]
    exact h.reader

theorem moves_ended {s : State} {a : Action} {s' : State} (h : Ended s) (hm : Moves s a s') :
    Ended s' ∧ s'.opened = s.opened ∧ s'.handled = s.handled := by
  have hhandler := h.handler
  cases hm with
  | boots =>
    rw [appMain, h.returned]
    exact ⟨h, rfl, rfl⟩
  | announces v reading hh =>
    exact Ended.posts (s := {s with hall := .idle}) ⟨h.handler, h.returned, h.hall, h.reader⟩ _
  | asks hr =>
    exact Ended.posts (s := {s with reader := .idle}) ⟨h.handler, h.returned, h.hall, h.reader⟩ _
  | hallFires v hh ht => exact absurd ht h.hall
  | readerFires hr ht => exact absurd ht h.reader
  | stays a => exact ⟨h, rfl, rfl⟩
  | stores v hh => exact ⟨⟨h.handler, h.returned, h.hall, h.reader⟩, rfl, rfl⟩
  | mounts opens hh => cases hhandler.symm.trans hh
  | receives opens e q hh hq => cases hhandler.symm.trans hh
  | logs opens e hh he => cases hhandler.symm.trans hh
  | stopsHall opens e hh he => cases hhandler.symm.trans hh
  | stopsReader opens hh => cases hhandler.symm.trans hh
  | reads hh => cases hhandler.symm.trans hh
  | givesUp hh => cases hhandler.symm.trans hh

/-- An open ends the branch; nothing else counts as one. -/
theorem moves_opened {s : State} {a : Action} {s' : State} (hm : Moves s a s') :
    s'.opened = s.opened ∨ s.handler = .opening ∧
      ((a = .handler true ∧ s' = {s with handler := .receiving, opened := s.opened ++ [true]}) ∨
        (a = .handler false ∧ s' = {s with handler := .returned, opened := s.opened ++ [false]})) := by
  cases hm with
  | boots =>
    obtain ⟨m, created, hall, reader, heq⟩ := appMain_frame s
    rw [heq]
    exact .inl rfl
  | announces v reading hh => exact .inl (sendMachineState_keeps _ _).opened
  | asks hr => exact .inl (sendMachineState_keeps _ _).opened
  | reads hh => exact .inr ⟨hh, .inl ⟨rfl, rfl⟩⟩
  | givesUp hh => exact .inr ⟨hh, .inr ⟨rfl, rfl⟩⟩
  | _ => exact .inl rfl

/-- The branch that fails to open the log leaves the task ended. -/
theorem givesUp_ended {s : State} (h : Begun s) (hh : s.handler = .opening) :
    Ended {s with handler := .returned, opened := s.opened ++ [false]} := by
  obtain ⟨hreturned, hhall⟩ := h.branch (by rw [hh]; rfl)
  exact ⟨rfl, hreturned, hhall, h.opening hh⟩

/-- At its `fopen` the task is there to make it. -/
theorem opening_step {s : State} (h : Begun s) (hh : s.handler = .opening) (opens : Bool) :
    step s (.handler opens) =
      {s with handler := if opens then .receiving else .returned, opened := s.opened ++ [opens]} := by
  have hreturned : s.appMain = .returned := (h.branch (by rw [hh]; rfl)).1
  rw [step, statusHandlerTask, if_pos (h.handler_created hreturned), hh]

/-- The branch that opens the log with nothing asked for leaves silence. -/
theorem reads_silent {s : State} (h : Begun s) (hh : s.handler = .opening)
    (hC : rereads s (.handler true) = false) :
    Silent {s with handler := .receiving, opened := s.opened ++ [true]} := by
  have hasked : s.asked = false := by simpa [rereads, hh] using hC
  refine ⟨(h.branch (by rw [hh]; rfl)).1, h.opening hh, ?_, rfl⟩
  simpa [State.asked, State.pending, hh, HandlerTask.held] using hasked

/-- Once the log has been opened it has been opened once, and will not be again. -/
def Once (s : State) : Prop := s.opened ≠ [] → s.opened.length = 1 ∧ (Silent s ∨ Ended s)

theorem moves_once {s : State} {a : Action} {s' : State} (hC : rereads s a = false) (hbegun : Begun s)
    (h : Once s) (hm : Moves s a s') : Once s' := by
  intro hopened
  by_cases hfirst : s.opened = []
  · rcases moves_opened hm with hkeeps | ⟨hh, ⟨rfl, rfl⟩ | ⟨rfl, rfl⟩⟩
    · exact absurd (hkeeps.trans hfirst) hopened
    · exact ⟨by simp [hfirst], .inl (reads_silent hbegun hh hC)⟩
    · exact ⟨by simp [hfirst], .inr (givesUp_ended hbegun hh)⟩
  · obtain ⟨hlength, hsilent | hended⟩ := h hfirst
    · obtain ⟨hsilent', hkeeps⟩ := moves_silent hsilent hm
      exact ⟨hkeeps ▸ hlength, .inl hsilent'⟩
    · obtain ⟨hended', hkeeps, -⟩ := moves_ended hended hm
      exact ⟨hkeeps ▸ hlength, .inr hended'⟩

/-- **In a run that never opens the log while another read-out is asked for, `READ_LOG` is
handled at most once and the log opened at most once.** -/
theorem read_out_at_most_once (actions : List Action)
    (hC : recorder.Meets (fun s a => rereads s a = false) recorder.start actions) :
    let s := recorder.run actions
    s.handled.countP isRead ≤ 1 ∧ s.opened.length ≤ 1 := by
  intro s
  have hstep (t : State) (a : Action) (hC : rereads t a = false) (h : Begun t ∧ Once t) :
      Begun (step t a) ∧ Once (step t a) :=
    ⟨moves_begun t a _ h.1 (step_moves t a), moves_once hC h.1 h.2 (step_moves t a)⟩
  obtain ⟨hbegun, honce⟩ : Begun s ∧ Once s :=
    Machine.Meets.invariant hstep hC ⟨start_begun, fun h => absurd rfl h⟩
  have hcount := hbegun.count
  by_cases hopened : s.opened = []
  · rw [hopened] at hcount ⊢
    refine ⟨?_, Nat.zero_le 1⟩
    rw [hcount]
    split <;> decide
  · obtain ⟨hlength, hafter⟩ := honce hopened
    have hbranch : s.handler.inBranch = false := by
      rcases hafter with hsilent | hended
      · exact hsilent.branch
      · rw [hended.handler]
        rfl
    rw [hbranch, hlength] at hcount
    exact ⟨Nat.le_of_eq hcount, Nat.le_of_eq hlength⟩

/-- The reader's timer fires and its callback posts, the handler takes the event, stops both
timers and comes to its `fopen`. -/
def asksAndBegins : List Action := [.reader, .reader, .handler true, .handler true, .handler true]

theorem read_out_at_most_once_mounted :
    let s := recorder.run (started ++ [.handler true] ++ asksAndBegins ++ [.handler true])
    s.handled.countP isRead ≤ 1 ∧ s.opened.length ≤ 1 :=
  read_out_at_most_once _ (by decide)

/-- The timer fires a second time before the handler has mounted. -/
theorem read_out_twice :
    ¬ ∀ actions, let s := recorder.run actions
      s.handled.countP isRead ≤ 1 ∧ s.opened.length ≤ 1 :=
  fun h => absurd (h (started ++ List.replicate 4 .reader ++ List.replicate 9 (.handler true))) (by decide)

/-! ### Catching up -/

/-- The `fopen` of a read-out fails. -/
def openFails (s : State) : Action → Bool
  | .handler false => s.handler = .opening
  | _ => false

/-- The task takes events, and none accepted is lost. -/
structure Serving (s : State) : Prop where
  created : s.handlerCreated = true
  inLoop : s.handler ≠ .returned
  inOrder : InOrder s

/-- Only an `fopen` that fails takes the task out of its loop. -/
theorem moves_inLoop {s : State} {a : Action} {s' : State} (hC : openFails s a = false)
    (h : s.handler ≠ .returned) (hm : Moves s a s') : s'.handler ≠ .returned := by
  cases hm with
  | boots =>
    obtain ⟨m, created, hall, reader, heq⟩ := appMain_frame s
    rw [heq]
    exact h
  | announces v reading hh =>
    rw [(sendMachineState_keeps _ _).handler]
    exact h
  | asks hr =>
    rw [(sendMachineState_keeps _ _).handler]
    exact h
  | givesUp hh => simp [openFails, hh] at hC
  | stays a => exact h
  | hallFires v hh ht => exact h
  | stores v hh => exact h
  | readerFires hr ht => exact h
  | _ => nofun

theorem moves_created {s : State} {a : Action} {s' : State} (h : s.handlerCreated = true)
    (hm : Moves s a s') : s'.handlerCreated = true := by
  cases hm with
  | boots => exact appMain_created (fun _ => h)
  | announces v reading hh => exact (sendMachineState_keeps _ _).created.trans h
  | asks hr => exact (sendMachineState_keeps _ _).created.trans h
  | _ => exact h

theorem step_serving (s : State) (a : Action) (hC : openFails s a = false) (h : Serving s) :
    Serving (step s a) :=
  ⟨moves_created h.created (step_moves s a), moves_inLoop hC h.inLoop (step_moves s a),
    flows_inOrder h.inOrder (moves_flows (step_moves s a))⟩

/-- How many moves from its wait for the next event the task is. -/
def HandlerTask.movesLeft : HandlerTask → Nat
  | .mounting => 1
  | .handling _ => 3
  | .stoppingReader => 2
  | .opening => 1
  | .receiving => 0
  | .returned => 0

/-- How many moves the task is at most from having handled what is pending. -/
def State.backlog (s : State) : Nat := 4 * s.queueOut.items.length + s.handler.movesLeft

theorem pending_of_backlog {s : State} (h : s.backlog = 0) : s.pending = [] := by
  obtain ⟨hqueue, hmoves⟩ := Nat.add_eq_zero_iff.mp h
  have hheld : s.handler.held = [] := by
    cases hh : s.handler with
    | handling e =>
      rw [hh] at hmoves
      cases hmoves
    | _ => rfl
  rw [pending_of_held hheld]
  exact List.eq_nil_of_length_eq_zero (by omega)

/-- A move of the task posts nothing and brings it nearer. -/
theorem handler_backlog {s : State} (h : Serving s) :
    (step s (.handler true)).accepted = s.accepted ∧ (step s (.handler true)).reader = s.reader ∧
    (step s (.handler true)).backlog ≤ s.backlog - 1 := by
  rw [step, statusHandlerTask, if_pos h.created]
  cases hh : s.handler with
  | mounting => simp [State.backlog, HandlerTask.movesLeft, hh]
  | receiving =>
    dsimp only
    split
    · next hnone =>
      have hempty : s.queueOut.items = [] := Fifo.receive_eq_none.mp hnone
      simp [State.backlog, HandlerTask.movesLeft, hh, hempty]
    · next e q hsome =>
      have hitems : s.queueOut.items = e :: q.items := Fifo.receive_eq_some.mp hsome
      refine ⟨rfl, rfl, ?_⟩
      simp only [State.backlog, HandlerTask.movesLeft, hh, hitems, List.length_cons]
      omega
  | handling e => cases he : e.status <;> simp [State.backlog, HandlerTask.movesLeft, hh, he]
  | stoppingReader => simp [State.backlog, HandlerTask.movesLeft, hh]
  | opening => simp [State.backlog, HandlerTask.movesLeft, hh]
  | returned => exact absurd hh h.inLoop

/-- The task has come to everything that `s` had accepted, and nothing else has moved. -/
structure CaughtUp (s t : State) : Prop where
  serving : Serving t
  pending : t.pending = []
  accepted : t.accepted = s.accepted
  reader : t.reader = s.reader

theorem CaughtUp.handled {s t : State} (h : CaughtUp s t) : t.handled = s.accepted := by
  have horder := h.serving.inOrder.order
  rw [h.pending, List.append_nil, h.accepted] at horder
  exact horder.symm

/-- Left to move, a task in its loop comes to everything accepted. -/
theorem runFrom_catchesUp {s : State} (h : Serving s) {n : Nat} (hn : s.backlog ≤ n) :
    CaughtUp s (recorder.runFrom s (List.replicate n (.handler true))) := by
  induction n generalizing s with
  | zero => exact ⟨h, pending_of_backlog (Nat.le_zero.mp hn), rfl, rfl⟩
  | succ n ih =>
    obtain ⟨haccepted, hreader, hbacklog⟩ := handler_backlog h
    have hnearer : (step s (.handler true)).backlog ≤ n := by omega
    have hlast := ih (step_serving s (.handler true) rfl h) hnearer
    exact ⟨hlast.serving, hlast.pending, hlast.accepted.trans haccepted, hlast.reader.trans hreader⟩

theorem catchesUp {s : State} (h : Serving s) : ∃ more, CaughtUp s (recorder.runFrom s more) :=
  ⟨_, runFrom_catchesUp h (Nat.le_refl _)⟩

theorem run_serving (actions : List Action) (hcreated : (recorder.run actions).handlerCreated = true)
    (hloop : (recorder.run actions).handler ≠ .returned) : Serving (recorder.run actions) := by
  have horder : InOrder (recorder.run actions) :=
    Machine.run_invariant recorder ⟨rfl, nofun⟩
      (fun s a h => flows_inOrder h (moves_flows (step_moves s a))) actions
  exact ⟨hcreated, hloop, horder⟩

/-- A post into an empty queue is accepted. -/
theorem asks_accepted {s : State} (hreader : s.reader = .posting) (hpending : s.pending = []) :
    (step s .reader).accepted = s.accepted ++ [⟨.readLog, none⟩] := by
  have hqueue : s.queueOut.items = [] := (List.append_eq_nil_iff.mp hpending).2
  rw [step, readerTimerCallback, hreader]
  rcases sendMachineState_cases ⟨.readLog, none⟩ {s with reader := .idle} with ⟨q, _, heq⟩ | ⟨hfull, _⟩
  · exact congrArg State.accepted heq
  · rw [hqueue] at hfull
    cases hfull

/-- A task left to catch up comes to the read-out asked for. -/
theorem asked_handled {s : State} (h : Serving s) (hasked : s.asked = true) :
    ∃ more, s.handled.countP isRead < (recorder.runFrom s more).handled.countP isRead := by
  obtain ⟨more, hmore⟩ := catchesUp h
  rw [State.asked, Bool.or_eq_true, decide_eq_true_eq] at hasked
  rcases hasked with hposting | hpending
  · have hreader : (recorder.runFrom s more).reader = .posting := hmore.reader.trans hposting
    have hposted : Serving (recorder.step (recorder.runFrom s more) .reader) :=
      step_serving _ .reader rfl hmore.serving
    obtain ⟨rest, hrest⟩ := catchesUp hposted
    have hhandled : (recorder.runFrom s (more ++ .reader :: rest)).handled =
        s.handled ++ s.pending ++ [⟨.readLog, none⟩] := by
      rw [Machine.runFrom_append, Machine.runFrom_cons, hrest.handled, ← h.inOrder.order, ← hmore.accepted]
      exact asks_accepted hreader hmore.pending
    refine ⟨more ++ .reader :: rest, ?_⟩
    rw [hhandled, List.append_assoc, List.countP_append]
    refine Nat.lt_add_of_pos_right (List.countP_pos_iff.mpr ⟨⟨.readLog, none⟩, ?_, rfl⟩)
    exact List.mem_append_right _ (List.mem_singleton_self _)
  · refine ⟨more, ?_⟩
    rw [hmore.handled, h.inOrder.order, List.countP_append]
    exact Nat.lt_add_of_pos_right (List.countP_pos_iff.mpr (List.any_eq_true.mp hpending))

/-- Wherever the log is opened while another read-out is asked for, it can be read out again. -/
theorem rereads_reads_again (actions : List Action)
    (hrereads : rereads (recorder.run actions) (.handler true) = true) :
    ∃ more, 1 < (recorder.run (actions ++ .handler true :: more)).handled.countP isRead := by
  have hbegun := run_begun actions
  obtain ⟨hh, hasked⟩ : (recorder.run actions).handler = .opening ∧
      (recorder.run actions).asked = true := by simpa [rereads] using hrereads
  have hserving := run_serving actions (hbegun.handler_created (hbegun.asked hasked)) (by rw [hh]; nofun)
  have hcount : 0 < (recorder.run actions).handled.countP isRead := by
    rw [hbegun.count, hh]
    exact Nat.succ_pos _
  have hstep := opening_step hbegun hh true
  have hopened : Serving (step (recorder.run actions) (.handler true)) :=
    step_serving _ (.handler true) rfl hserving
  have hstill : (step (recorder.run actions) (.handler true)).asked = true := by
    rw [hstep]
    simpa [State.asked, State.pending, hh, HandlerTask.held] using hasked
  have hhandled : (step (recorder.run actions) (.handler true)).handled =
      (recorder.run actions).handled := by rw [hstep]
  obtain ⟨more, hmore⟩ := asked_handled hopened hstill
  rw [hhandled] at hmore
  refine ⟨more, ?_⟩
  rw [Machine.run_append]
  exact Nat.lt_of_le_of_lt hcount hmore

/-! ### A read-out that fails -/

/-- The task is in its loop, both timers run, and until another `fopen` fails whatever is
accepted can still be handled. -/
structure Operating (s : State) : Prop where
  inLoop : s.handler ≠ .returned
  hallRuns : s.periodicTimerSensorHall = .running ()
  readerRuns : s.periodicTimerReader = .running ()
  handles : ∀ later, recorder.Meets (fun t a => openFails t a = false) s later →
    ∃ more, (recorder.runFrom s later).accepted <+: (recorder.runFrom s (later ++ more)).handled

/-- With the task in its loop and the timers running, the recorder operates. -/
theorem operating_of_running (actions : List Action) (hloop : (recorder.run actions).handler ≠ .returned)
    (hhall : (recorder.run actions).periodicTimerSensorHall = .running ())
    (hreader : (recorder.run actions).periodicTimerReader = .running ()) :
    Operating (recorder.run actions) := by
  have hreturned : (recorder.run actions).appMain = .returned := (run_begun actions).timer hreader
  refine ⟨hloop, hhall, hreader, fun later hlater => ?_⟩
  have hlast : Serving (recorder.runFrom (recorder.run actions) later) :=
    Machine.Meets.invariant step_serving hlater
      (run_serving actions ((run_begun actions).handler_created hreturned) hloop)
  obtain ⟨more, hmore⟩ := catchesUp hlast
  have hhandled := hmore.handled
  rw [← Machine.runFrom_append] at hhandled
  exact ⟨more, [], (List.append_nil _).trans hhandled.symm⟩

theorem runFrom_ended {s : State} (h : Ended s) (later : List Action) :
    Ended (recorder.runFrom s later) ∧ (recorder.runFrom s later).handled = s.handled := by
  have hstep (t : State) (a : Action) (ht : Ended t ∧ t.handled = s.handled) :
      Ended (step t a) ∧ (step t a).handled = s.handled := by
    obtain ⟨hended, _, hkeeps⟩ := moves_ended ht.1 (step_moves t a)
    exact ⟨hended, hkeeps.trans ht.2⟩
  exact Machine.runFrom_invariant (M := recorder) hstep s ⟨h, rfl⟩ later

/-- **Wherever the `fopen` of a read-out fails the recorder stops operating: whatever comes
later, the task has returned, neither timer runs, and no further event is handled.** -/
theorem failed_read_out_ends_recorder (actions : List Action)
    (hopening : (recorder.run actions).handler = .opening) :
    let s := recorder.run (actions ++ [.handler false])
    ¬ Operating s ∧ ∀ later, Ended (recorder.runFrom s later) ∧
      (recorder.runFrom s later).handled = s.handled := by
  intro s
  have hs : s = step (recorder.run actions) (.handler false) := recorder.run_append actions [.handler false]
  have hgone : Ended s := by
    rw [hs, opening_step (run_begun actions) hopening]
    exact givesUp_ended (run_begun actions) hopening
  exact ⟨fun h => h.inLoop hgone.handler, fun later => runFrom_ended hgone later⟩

/-- The handler mounts before the reader's timer fires, and the log does not open. -/
theorem failed_read_out_first :
    let s := recorder.run ((started ++ [.handler true] ++ asksAndBegins) ++ [.handler false])
    ¬ Operating s ∧ ∀ later, Ended (recorder.runFrom s later) ∧
      (recorder.runFrom s later).handled = s.handled :=
  failed_read_out_ends_recorder _ (by decide)

theorem failed_read_out_stops :
    ¬ ∀ actions, (recorder.run actions).handler = .opening →
      Operating (recorder.run (actions ++ [.handler false])) :=
  fun h => (h (started ++ [.handler true] ++ asksAndBegins) (by decide)).inLoop (by decide)

end Aniot.P6
