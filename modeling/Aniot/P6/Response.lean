import Aniot.Machine.Response
import Aniot.P6.Readout

/-! How long an event of the recorder waits.

A `WRITE_LOG` takes two moves of the handler, a `READ_LOG` four. As long as the handler is in
its loop and no `fopen` of a read-out fails, four moves for every event in the queue and those
left of the event in hand are enough for what had been accepted, whatever the callbacks do in
between (`records_handled_within`); with ten places that is forty-three moves at most. -/
namespace Aniot.P6
open Esp

def Action.isHandler : Action → Bool
  | .handler _ => true
  | _ => false

/-- How many moves of the handler there are at most before so many events are handled. -/
def State.movesTo (target : Nat) (s : State) : Nat :=
  if target ≤ s.handled.length then 0
  else 4 * (target - (s.handled.length + s.handler.held.length)) + s.handler.movesLeft

theorem sendMachineState_accepted (e : Posted) (s : State) :
    s.accepted <+: (sendMachineState e s).accepted := by
  rcases sendMachineState_cases e s with ⟨q, _, heq⟩ | ⟨_, heq⟩
  · rw [heq]
    exact List.prefix_append _ _
  · exact ⟨[], by rw [heq, List.append_nil]⟩

/-- Whoever else moves leaves the handler where it is and takes nothing back. -/
theorem others_events {s : State} {a : Action} {s' : State} (ha : a.isHandler = false)
    (hm : Moves s a s') :
    s.accepted <+: s'.accepted ∧ s'.handled = s.handled ∧ s'.handler = s.handler := by
  cases hm with
  | boots =>
    obtain ⟨m, created, hall, reader, heq⟩ := appMain_frame s
    rw [heq]
    exact ⟨List.prefix_rfl, rfl, rfl⟩
  | announces v reading hh =>
    have hkeeps := sendMachineState_keeps ⟨.writeLog, some reading⟩ {s with hall := .idle}
    exact ⟨sendMachineState_accepted ⟨.writeLog, some reading⟩ {s with hall := .idle},
      hkeeps.handled, hkeeps.handler⟩
  | asks hr =>
    have hkeeps := sendMachineState_keeps ⟨.readLog, none⟩ {s with reader := .idle}
    exact ⟨sendMachineState_accepted ⟨.readLog, none⟩ {s with reader := .idle},
      hkeeps.handled, hkeeps.handler⟩
  | stays a => exact ⟨List.prefix_rfl, rfl, rfl⟩
  | hallFires v hh ht => exact ⟨List.prefix_rfl, rfl, rfl⟩
  | stores v hh => exact ⟨List.prefix_rfl, rfl, rfl⟩
  | readerFires hr ht => exact ⟨List.prefix_rfl, rfl, rfl⟩
  | _ => cases ha

/-- The task takes events in order, and all of `first` are among those accepted. -/
structure Awaits (first : List Posted) (s : State) : Prop where
  serving : Serving s
  accepted : first <+: s.accepted

theorem flows_accepted {s s' : State} (hf : Flows s s') : s.accepted <+: s'.accepted := by
  cases hf with
  | keeps haccepted _ _ _ => exact haccepted ▸ List.prefix_rfl
  | posts e _ _ haccepted _ _ _ =>
    rw [haccepted]
    exact List.prefix_append _ _
  | acts e haccepted _ _ _ => exact haccepted ▸ List.prefix_rfl

theorem step_awaits {first : List Posted} (s : State) (a : Action) (hC : openFails s a = false)
    (h : Awaits first s) : Awaits first (step s a) :=
  ⟨step_serving s a hC h.serving, h.accepted.trans (flows_accepted (moves_flows (step_moves s a)))⟩

/-- A move of the task brings it nearer, until as many events are handled. -/
theorem handler_movesTo {target : Nat} {s : State} (h : Serving s) (htarget : target ≤ s.accepted.length)
    {opens : Bool} (hC : openFails s (.handler opens) = false) :
    (step s (.handler opens)).movesTo target ≤ s.movesTo target - 1 := by
  have horder := congrArg List.length h.inOrder.order
  rw [List.length_append, State.pending, List.length_append] at horder
  rw [step, statusHandlerTask, if_pos h.created]
  cases hh : s.handler with
  | mounting =>
    simp only [State.movesTo, hh, HandlerTask.held, HandlerTask.movesLeft]
    split <;> simp
  | receiving =>
    rw [hh] at horder
    dsimp only
    split
    · next hnone =>
      -- nothing is left, so as many have been handled
      rw [Fifo.receive_eq_none.mp hnone] at horder
      have hzero : s.movesTo target = 0 := if_pos (by simp [HandlerTask.held] at horder; omega)
      omega
    · next e q hsome =>
      simp only [State.movesTo, hh, HandlerTask.held, HandlerTask.movesLeft, List.length_nil,
        List.length_singleton]
      split <;> omega
  | handling e =>
    cases he : e.status <;>
      simp only [he, State.movesTo, hh, HandlerTask.held, HandlerTask.movesLeft, List.length_nil,
        List.length_singleton, List.length_append] <;>
      split <;> split <;> omega
  | stoppingReader =>
    simp only [State.movesTo, hh, HandlerTask.held, HandlerTask.movesLeft]
    split <;> simp
  | opening =>
    cases opens with
    | false => simp [openFails, hh] at hC
    | true =>
      simp only [State.movesTo, hh, HandlerTask.held, HandlerTask.movesLeft, if_true]
      split <;> simp
  | returned => exact absurd hh h.inLoop

theorem step_movesTo {first : List Posted} (s : State) (a : Action) (hC : openFails s a = false)
    (h : Awaits first s) :
    (step s a).movesTo first.length ≤ s.movesTo first.length - if a.isHandler then 1 else 0 := by
  cases ha : a.isHandler with
  | false =>
    obtain ⟨-, hhandled, hhandler⟩ := others_events ha (step_moves s a)
    rw [State.movesTo, State.movesTo, hhandled, hhandler]
    exact Nat.le_refl _
  | true =>
    cases a with
    | handler opens => exact handler_movesTo h.serving h.accepted.length_le hC
    | _ => cases ha

/-- The backlog counts the moves to everything accepted. -/
theorem movesTo_accepted {s : State} (h : InOrder s) : s.movesTo s.accepted.length ≤ s.backlog := by
  have horder := congrArg List.length h.order
  rw [List.length_append, State.pending, List.length_append] at horder
  rw [State.movesTo, State.backlog]
  split <;> omega

/-- Until the handler is created nothing happens. -/
theorem run_created (actions : List Action) :
    (recorder.run actions).handlerCreated = true ∨ recorder.run actions = recorder.start := by
  have hstep (s : State) (a : Action) (h : s.handlerCreated = true ∨ s = recorder.start) :
      (step s a).handlerCreated = true ∨ step s a = recorder.start := by
    rcases h with hcreated | rfl
    · exact .inl (moves_created hcreated (step_moves s a))
    · cases a with
      | appMain => exact .inl rfl
      | hall v => exact .inr rfl
      | reader => exact .inr rfl
      | handler opens => exact .inr rfl
  exact Machine.run_invariant recorder (.inr rfl) hstep actions

/-- **As long as the handler has not returned, at most forty-three moves of it are outstanding, and
once it has made them without a read-out's `fopen` failing, whatever has moved in between, it has
handled in order every event accepted before them.** -/
theorem records_handled_within (actions : List Action)
    (hloop : (recorder.run actions).handler ≠ .returned) :
    let s := recorder.run actions
    s.backlog ≤ 43 ∧ ∀ later : List Action, s.backlog ≤ later.countP Action.isHandler →
      recorder.Meets (fun t a => openFails t a = false) s later →
      s.accepted <+: (recorder.run (actions ++ later)).handled := by
  intro s
  rcases run_created actions with hcreated | hnothing
  case inr =>
    have hs : s = recorder.start := hnothing
    rw [hs]
    exact ⟨by decide, fun later _ _ => List.nil_prefix⟩
  have hserving : Serving s := run_serving actions hcreated hloop
  refine ⟨?_, fun later hmoves hmeets => ?_⟩
  · have hbound := s.queueOut.bound
    have hleft : s.handler.movesLeft ≤ 3 := by
      cases s.handler <;> simp [HandlerTask.movesLeft]
    rw [State.backlog]
    omega
  · have hstart : Awaits s.accepted s := ⟨hserving, List.prefix_rfl⟩
    have hcount := Nat.le_trans (movesTo_accepted hserving.inOrder) hmoves
    have hlast : Awaits s.accepted (recorder.runFrom s later) :=
      Machine.Meets.invariant step_awaits hmeets hstart
    have hrank : (recorder.runFrom s later).movesTo s.accepted.length = 0 :=
      Machine.Meets.rank_zero step_awaits step_movesTo hmeets hstart hcount
    rw [Machine.run_append]
    show s.accepted <+: (recorder.runFrom s later).handled
    generalize recorder.runFrom s later = t at hlast hrank
    have horder : t.handled <+: t.accepted := ⟨_, hlast.serving.inOrder.order.symm⟩
    refine List.prefix_of_prefix_length_le hlast.accepted horder ?_
    rw [State.movesTo] at hrank
    split at hrank
    · next hdone => exact hdone
    · next hmore =>
      have hheld : t.handler.movesLeft = 0 → t.handler.held = [] := by
        cases t.handler <;> simp [HandlerTask.movesLeft, HandlerTask.held]
      have hnone := hheld (by omega)
      rw [hnone, List.length_nil] at hrank
      omega

/-- A reading and a read-out are posted before the handler has mounted. -/
def postsBoth : List Action := started ++ measures 1 ++ [.reader, .reader]

theorem records_handled_within_mounting :
    let s := recorder.run postsBoth
    s.backlog ≤ 43 ∧ ∀ later : List Action, s.backlog ≤ later.countP Action.isHandler →
      recorder.Meets (fun t a => openFails t a = false) s later →
      s.accepted <+: (recorder.run (postsBoth ++ later)).handled :=
  records_handled_within postsBoth (by decide)

end Aniot.P6
