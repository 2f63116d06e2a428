import Aniot.Machine.Response
import Aniot.P3.Events

/-! How long an event waits.

`status_handler_task` takes its events in order and one by one, with two moves for each.
So whatever the callbacks, the touch task and the interrupt do in between, two moves of
the handler for every event in the queue, and one more for the one in its hand, are enough
to have handled all that had been accepted; with ten places that is twenty-one moves at
most (`events_handled_within`). -/
namespace Aniot.P3
open Esp

def Action.isHandler : Action → Bool
  | .handler => true
  | _ => false

/-- How many moves of the handler what was accepted still takes. -/
def State.backlog (s : State) : Nat := 2 * s.queueOut.items.length + s.handler.held.length

/-- How many moves of the handler there are at most before so many events are handled. -/
def State.movesTo (target : Nat) (s : State) : Nat :=
  2 * (target - s.handled.length) - s.handler.held.length

theorem held_length (h : HandlerTask) : h.held.length ≤ 1 := by
  cases h <;> simp [HandlerTask.held]

/-! ### What a step does to the events -/

/-- The handler, once created, finds nothing, takes an event, or handles the one it has. -/
theorem handler_moves {s : State} (h : s.handlerCreated = true) :
    (s.handler = .receiving ∧ s.queueOut.items = [] ∧ statusHandlerTask s = s) ∨
    (∃ e q, s.handler = .receiving ∧ s.queueOut.items = e :: q.items ∧
      statusHandlerTask s = {s with queueOut := q, handler := .handling e}) ∨
    (∃ e, s.handler = .handling e ∧ statusHandlerTask s = handleStatus e (s.handling e)) := by
  rw [statusHandlerTask, if_pos h]
  cases hh : s.handler with
  | receiving =>
    dsimp only
    cases hq : s.queueOut.receive with
    | none => exact .inl ⟨rfl, Fifo.receive_eq_none.mp hq, rfl⟩
    | some taken => exact .inr (.inl ⟨taken.1, taken.2, rfl, Fifo.receive_eq_some.mp hq, rfl⟩)
  | handling e => exact .inr (.inr ⟨e, rfl, rfl⟩)

/-- A post accepts its event at the back, or nothing, and leaves the handler alone. -/
theorem sendMachineState_events (status : MachineStatus) (run : Nat) (s : State) :
    s.accepted <+: (sendMachineState status run s).accepted ∧
      (sendMachineState status run s).handled = s.handled ∧
      (sendMachineState status run s).handler = s.handler ∧
      (sendMachineState status run s).handlerCreated = s.handlerCreated := by
  rcases sendMachineState_cases status run s with ⟨q, _, heq⟩ | ⟨_, heq⟩ <;> rw [heq]
  · exact ⟨List.prefix_append _ _, rfl, rfl, rfl⟩
  · exact ⟨List.prefix_rfl, rfl, rfl, rfl⟩

/-- Whoever else moves leaves the handler where it is and takes nothing back. -/
theorem others_events (b : Build) {s : State} {a : Action} (ha : a.isHandler = false)
    (h : s.handlerCreated = true) :
    s.accepted <+: (step b s a).accepted ∧ (step b s a).handled = s.handled ∧
      (step b s a).handler = s.handler ∧ (step b s a).handlerCreated = true := by
  have hm := step_moves b s a
  generalize hs' : step b s a = s' at hm ⊢
  cases hm with
  | starts hm =>
    have hcreated := appMain_created fun _ => h
    rw [show appMain s = _ from hs'] at hcreated
    exact ⟨List.prefix_rfl, rfl, rfl, hcreated⟩
  | presses ht =>
    obtain ⟨haccepted, hhandled, hhandler, hcreated⟩ := sendMachineState_events .startStopTimer s.epoch
      {s with touch := .clearing, presses := s.presses + 1}
    exact ⟨haccepted, hhandled, hhandler, hcreated.trans h⟩
  | ticks run htick =>
    obtain ⟨haccepted, hhandled, hhandler, hcreated⟩ :=
      sendMachineState_events .countTimer run {s with tick := none}
    exact ⟨haccepted, hhandled, hhandler, hcreated.trans h⟩
  | resets value =>
    obtain ⟨haccepted, hhandled, hhandler, hcreated⟩ := sendMachineState_events .resetTimer s.epoch s
    exact ⟨haccepted, hhandled, hhandler, hcreated.trans h⟩
  | receives e q hh hq => cases ha
  | handles e hh => cases ha
  | _ => exact ⟨List.prefix_rfl, rfl, rfl, h⟩

/-! ### Every event is handled -/

/-- The handler takes events in order, and all of `first` are among those accepted. -/
structure Awaits (first : List Posted) (s : State) : Prop where
  created : s.handlerCreated = true
  inOrder : InOrder s
  accepted : first <+: s.accepted

theorem step_awaits (b : Build) {first : List Posted} (s : State) (a : Action) (h : Awaits first s) :
    Awaits first (step b s a) := by
  have hinOrder := moves_inOrder s a _ h.inOrder (step_moves b s a)
  cases ha : a.isHandler with
  | false =>
    obtain ⟨haccepted, -, -, hcreated⟩ := others_events b ha h.created
    exact ⟨hcreated, hinOrder, h.accepted.trans haccepted⟩
  | true =>
    obtain rfl : a = .handler := by
      cases a <;> first | rfl | cases ha
    rcases handler_moves h.created with ⟨_, _, heq⟩ | ⟨e, q, _, _, heq⟩ | ⟨e, _, heq⟩
    · rw [show step b s .handler = s from heq]
      exact h
    · rw [show step b s .handler = _ from heq] at hinOrder ⊢
      exact ⟨h.created, hinOrder, h.accepted⟩
    · obtain ⟨active, count, ticks, timer, hframe⟩ := handleStatus_frame e (s.handling e)
      rw [show step b s .handler = _ from heq, hframe] at hinOrder ⊢
      exact ⟨h.created, hinOrder, h.accepted⟩

theorem step_movesTo (b : Build) {first : List Posted} (s : State) (a : Action) (h : Awaits first s) :
    (step b s a).movesTo first.length ≤ s.movesTo first.length - if a.isHandler then 1 else 0 := by
  cases ha : a.isHandler with
  | false =>
    obtain ⟨-, hhandled, hhandler, -⟩ := others_events b ha h.created
    rw [State.movesTo, hhandled, hhandler]
    exact Nat.le_refl _
  | true =>
    obtain rfl : a = .handler := by
      cases a <;> first | rfl | cases ha
    rw [if_pos rfl]
    rcases handler_moves h.created with ⟨hh, hempty, heq⟩ | ⟨e, q, hh, _, heq⟩ | ⟨e, hh, heq⟩
    · -- nothing is left, so as many have been handled as `first` has
      have horder := congrArg List.length h.inOrder
      have hfirst := h.accepted.length_le
      simp only [hh, hempty, HandlerTask.held, List.append_nil] at horder
      rw [show step b s .handler = s from heq, State.movesTo, horder.symm]
      omega
    · rw [show step b s .handler = _ from heq]
      simp only [State.movesTo, hh, HandlerTask.held, List.length_nil, List.length_singleton]
      omega
    · obtain ⟨active, count, ticks, timer, hframe⟩ := handleStatus_frame e (s.handling e)
      rw [show step b s .handler = _ from heq, hframe]
      simp only [State.movesTo, State.handling, hh, HandlerTask.held, List.length_nil,
        List.length_singleton, List.length_append]
      omega

/-- With the handler created, two moves of it for each event waiting and one for the one it has in
hand are enough, whatever moves in between. -/
theorem accepted_handled (b : Build) {s : State} (hcreated : s.handlerCreated = true) (h : InOrder s)
    {later : List Action} (hmoves : s.backlog ≤ later.countP Action.isHandler) :
    s.accepted <+: ((chronometer b).runFrom s later).handled := by
  have hstart : Awaits s.accepted s := ⟨hcreated, h, List.prefix_rfl⟩
  have hbacklog : s.movesTo s.accepted.length ≤ later.countP Action.isHandler := by
    have horder := congrArg List.length h
    rw [List.length_append, List.length_append] at horder
    rw [State.backlog] at hmoves
    rw [State.movesTo]
    omega
  have hlast : Awaits s.accepted ((chronometer b).runFrom s later) :=
    Machine.runFrom_invariant (M := chronometer b) (step_awaits b) s hstart later
  have hrank : ((chronometer b).runFrom s later).movesTo s.accepted.length = 0 :=
    Machine.runFrom_rank_zero (step_awaits b) (step_movesTo b) hstart hbacklog
  generalize (chronometer b).runFrom s later = t at hlast hrank
  have horder : t.handled <+: t.accepted := ⟨_, hlast.inOrder.symm⟩
  refine List.prefix_of_prefix_length_le hlast.accepted horder ?_
  have hheld := held_length t.handler
  rw [State.movesTo] at hrank
  omega

/-- **At most twenty-one moves of the handler are outstanding, and once it has made them, whatever
has moved in between, it has handled in order every event accepted before them.** -/
theorem events_handled_within (b : Build) (actions : List Action)
    (hcreated : ((chronometer b).run actions).handlerCreated = true) :
    let s := (chronometer b).run actions
    s.backlog ≤ 21 ∧ ∀ later : List Action, s.backlog ≤ later.countP Action.isHandler →
      s.accepted <+: ((chronometer b).run (actions ++ later)).handled := by
  intro s
  have hstart : InOrder State.start := rfl
  have horder : InOrder s := chronometer_invariant hstart moves_inOrder b actions
  refine ⟨?_, fun later hmoves => ?_⟩
  · have hbound := s.queueOut.bound
    have hheld := held_length s.handler
    rw [State.backlog]
    omega
  · rw [Machine.run_append]
    exact accepted_handled b hcreated horder hmoves

/-- A press posted while the handler has not moved yet. -/
theorem events_handled_within_press :
    let b : Build := ⟨false, fun _ => 0⟩
    let s := (chronometer b).run [.appMain, .appMain, .appMain, .isr 1, .touch, .touch]
    s.backlog ≤ 21 ∧ ∀ later : List Action, s.backlog ≤ later.countP Action.isHandler →
      s.accepted <+: ((chronometer b).run
        ([.appMain, .appMain, .appMain, .isr 1, .touch, .touch] ++ later)).handled :=
  events_handled_within ⟨false, fun _ => 0⟩ [.appMain, .appMain, .appMain, .isr 1, .touch, .touch]
    (by decide)

end Aniot.P3
