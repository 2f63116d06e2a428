import Mathlib.Algebra.Order.BigOperators.Group.Finset
import Mathlib.Data.Fintype.BigOperators
import Aniot.P2.Pipeline

/-! The queue set of the controller is one queue.

`pending` are the handles still to be read: the one the controller has selected and
not come to yet, then those in the set. In every reachable state they and the filter
queues represent what was sent and not received, in the order of the sends
(`SetInv`). From this the set has a place for the handle of every send that succeeds,
and a selected queue is never found empty. -/
namespace Aniot.P2
open QueueSet
variable {R : Type} {cfg : Config R}

/-- The handle selected and not yet read, if the loop has not passed it. -/
def ControllerTask.selected {n : Nat} : ControllerTask n → List (Fin n)
  | .visiting (some i) k => if k ≤ i.val then [i] else []
  | _ => []

def pending (s : State cfg) : List (Fin cfg.numberSensors) :=
  s.controller.selected ++ s.controllerQueues.items

/-- The items of the filter queues. -/
def queues (s : State cfg) (i : Fin cfg.numberSensors) : List (Filtered R) :=
  (s.node i).filterQueue.items

/-- What was sent and not received is what the handles and queues represent, and no
handle was ever without a place. -/
def SetInv (s : State cfg) : Prop :=
  s.overflows = 0 ∧ ∃ outstanding, s.sent = s.printed ++ outstanding ∧
    Represents outstanding (pending s) (queues s)

theorem queues_setNode (s : State cfg) (i : Fin cfg.numberSensors) (nd : Node cfg) :
    queues (s.setNode i nd) = Function.update (queues s) i nd.filterQueue.items := by
  funext j
  by_cases hj : j = i
  · subst hj
    simp [queues, State.setNode]
  · simp [queues, State.setNode, Function.update_of_ne hj]

/-- A step that leaves a node's filter queue alone leaves the queues alone. -/
theorem queues_setNode_same (s : State cfg) (i : Fin cfg.numberSensors) (nd : Node cfg)
    (h : nd.filterQueue = (s.node i).filterQueue) : queues (s.setNode i nd) = queues s := by
  rw [queues_setNode, h]
  exact Function.update_eq_self i (queues s)

/-- A filter queue with a free place leaves one in the set. -/
theorem set_has_room {s : State cfg} {outstanding : List (Fin cfg.numberSensors × Filtered R)}
    (h : Represents outstanding (pending s) (queues s)) (i : Fin cfg.numberSensors)
    (hroom : (s.node i).filterQueue.items.length < cfg.numElemFilterQueue) :
    s.controllerQueues.items.length < cfg.numElemControllerQueues := by
  have hsum : ∑ j, (queues s j).length < ∑ _j : Fin cfg.numberSensors, cfg.numElemFilterQueue :=
    Finset.sum_lt_sum (fun j _ => (s.node j).filterQueue.bound) ⟨i, Finset.mem_univ i, hroom⟩
  have hlength := h.length_eq
  simp only [pending, List.length_append] at hlength
  rw [Finset.sum_const, Finset.card_univ, Fintype.card_fin, Nat.nsmul_eq_mul] at hsum
  show _ < cfg.numElemFilterQueue * cfg.numberSensors
  rw [Nat.mul_comm]
  omega

/-- A successful send appends one item to what the set represents. -/
theorem notify_inv {s : State cfg} (h : SetInv s) (i : Fin cfg.numberSensors) (f : Filtered R)
    (nd : Node cfg) (hroom : (s.node i).filterQueue.items.length < cfg.numElemFilterQueue)
    (hitems : nd.filterQueue.items = (s.node i).filterQueue.items ++ [f]) :
    SetInv ((s.setNode i nd).notify i f) := by
  obtain ⟨hoverflows, outstanding, hsent, hrep⟩ := h
  have hset := set_has_room hrep i hroom
  unfold State.notify
  dsimp only
  cases hq : (s.setNode i nd).controllerQueues.send i with
  | none =>
    have hfull : s.controllerQueues.items.length = cfg.numElemControllerQueues := Fifo.send_eq_none.mp hq
    omega
  | some q =>
    have hqitems : q.items = s.controllerQueues.items ++ [i] := (Fifo.send_eq_some.mp hq).2
    refine ⟨hoverflows, outstanding ++ [(i, f)], ?_, ?_⟩
    · show s.sent ++ [(i, f)] = s.printed ++ (outstanding ++ [(i, f)])
      rw [hsent, List.append_assoc]
    · have hsend := hrep.send i f
      have hpending : s.controller.selected ++ q.items = pending s ++ [i] := by
        rw [hqitems, pending, List.append_assoc]
      have hqueues : queues (s.setNode i nd) = Function.update (queues s) i (queues s i ++ [f]) := by
        rw [queues_setNode, hitems]
        rfl
      rw [← hpending, ← hqueues] at hsend
      exact hsend

/-- The controller takes the item of the handle it selected. -/
theorem received_inv {s : State cfg} (h : SetInv s) {k : Nat} (hk : k < cfg.numberSensors)
    (hc : s.controller = .visiting (some ⟨k, hk⟩) k) {f : Filtered R}
    {q : Fifo (Filtered R) cfg.numElemFilterQueue}
    (hq : (s.node ⟨k, hk⟩).filterQueue.items = f :: q.items) :
    SetInv {s.setNode ⟨k, hk⟩ {s.node ⟨k, hk⟩ with filterQueue := q} with
      controller := .visiting (some ⟨k, hk⟩) (k + 1)
      printed := s.printed ++ [(⟨k, hk⟩, f)]} := by
  obtain ⟨hoverflows, outstanding, hsent, hrep⟩ := h
  have hpending : pending s = ⟨k, hk⟩ :: s.controllerQueues.items := by
    simp [pending, hc, ControllerTask.selected]
  rw [hpending] at hrep
  obtain ⟨x, rest, rfl, hqueue, hrest⟩ := hrep.receive
  obtain ⟨rfl, hitems⟩ := List.cons.inj (hq.symm.trans hqueue)
  refine ⟨hoverflows, rest, ?_, ?_⟩
  · show s.sent = (s.printed ++ [(⟨k, hk⟩, f)]) ++ rest
    rw [hsent, List.append_assoc]
    rfl
  · rw [← hitems] at hrest
    have hqueues := queues_setNode s ⟨k, hk⟩ {s.node ⟨k, hk⟩ with filterQueue := q}
    have hselected : (ControllerTask.visiting (some ⟨k, hk⟩) (k + 1) :
        ControllerTask cfg.numberSensors).selected = [] := by
      simp [ControllerTask.selected]
    show Represents rest ((ControllerTask.visiting (some ⟨k, hk⟩) (k + 1)).selected ++ _)
      (queues (s.setNode ⟨k, hk⟩ {s.node ⟨k, hk⟩ with filterQueue := q}))
    rw [hselected, hqueues]
    exact hrest

/-- A controller step that neither selects nor receives passes no pending handle. -/
theorem passed_inv {s : State cfg} (h : SetInv s) (c : ControllerTask cfg.numberSensors)
    (counter : Nat) (hc : c.selected = s.controller.selected) :
    SetInv {s with controller := c, statisticsCounter := counter} := by
  obtain ⟨hoverflows, outstanding, hsent, hrep⟩ := h
  refine ⟨hoverflows, outstanding, hsent, ?_⟩
  have hpending : pending s = c.selected ++ s.controllerQueues.items := by rw [hc]; rfl
  rw [hpending] at hrep
  exact hrep

/-- The selected queue is not empty until it is read. -/
theorem selected_found {s : State cfg} (h : SetInv s) {i : Fin cfg.numberSensors}
    (hi : i ∈ s.controller.selected) : (s.node i).filterQueue.items ≠ [] := by
  obtain ⟨_, outstanding, _, hrep⟩ := h
  have hcount := hrep.count_eq i
  have hpos : 0 < (pending s).count i :=
    List.count_pos_iff.mpr (List.mem_append_left _ hi)
  intro hempty
  rw [queues, hempty, List.length_nil] at hcount
  omega

theorem controllerTask_set {s : State cfg} (h : SetInv s) (timedOut : Bool) :
    SetInv (controllerTask timedOut s) := by
  rcases controllerTask_cases timedOut s with ⟨i, q, hc, hq, hnext⟩ | ⟨hc, hnext⟩ |
    ⟨k, hk, f, q, hc, hq, hnext⟩ | ⟨k, hk, hc, hempty, hnext⟩ | ⟨readingQueue, k, hc, hk, hne, hnext⟩ |
    ⟨readingQueue, k, c, hc, hk, hnext⟩ | hnext
  · -- a handle goes from the set to the controller
    obtain ⟨hoverflows, outstanding, hsent, hrep⟩ := h
    rw [hnext]
    refine ⟨hoverflows, outstanding, hsent, ?_⟩
    have hpending : pending s = i :: q.items := by simp [pending, hc, hq, ControllerTask.selected]
    have hselected : (ControllerTask.visiting (some i) 0).selected = [i] := by
      simp [ControllerTask.selected]
    rw [hpending] at hrep
    show Represents outstanding ((ControllerTask.visiting (some i) 0).selected ++ q.items) (queues s)
    rw [hselected]
    exact hrep
  · rw [hnext]
    exact passed_inv h _ s.statisticsCounter (by rw [hc]; rfl)
  · rw [hnext]
    exact received_inv h hk hc hq
  · exact absurd hempty (selected_found h (by rw [hc]; simp [ControllerTask.selected]))
  · rw [hnext]
    refine passed_inv h _ s.statisticsCounter ?_
    rw [hc]
    cases readingQueue with
    | none => rfl
    | some i =>
      -- place k is not the selected queue's, so it stays ahead or behind
      have hki : k ≠ i.val := fun he => hne hk (by subst he; rfl)
      simp only [ControllerTask.selected]
      congr 1
      exact propext ⟨fun hle => by omega, fun hle => by omega⟩
  · rw [hnext]
    refine passed_inv h _ c ?_
    rw [hc]
    cases readingQueue with
    | none => rfl
    | some i =>
      have := i.isLt
      simp only [ControllerTask.selected]
      rw [if_neg (by omega)]
  · rw [hnext]
    exact h

section Runs
variable [Zero R] [Add R] [Mul R] [IntCast R]

omit [Zero R] [Add R] [Mul R] [IntCast R] in
theorem sensorTask_filterQueue (espRandom : BitVec 32) (now : Int) (timedOut : Bool) (nd : Node cfg) :
    (sensorTask espRandom now timedOut nd).filterQueue = nd.filterQueue := by
  rcases sensorTask_cases espRandom now timedOut nd with ⟨_, _, _, h⟩ | ⟨_, _, _, _, h⟩ | ⟨_, _, h⟩ | h <;>
    rw [h]

omit [Zero R] [Add R] [Mul R] [IntCast R] in
theorem setNode_set {s : State cfg} (h : SetInv s) (i : Fin cfg.numberSensors) (nd : Node cfg)
    (hnd : nd.filterQueue = (s.node i).filterQueue) : SetInv (s.setNode i nd) := by
  obtain ⟨hoverflows, outstanding, hsent, hrep⟩ := h
  refine ⟨hoverflows, outstanding, hsent, ?_⟩
  rw [queues_setNode_same s i nd hnd]
  exact hrep

theorem step_set (s : State cfg) (a : Action cfg.numberSensors) (h : SetInv s) : SetInv (step s a) := by
  cases a with
  | sensor i espRandom now timedOut =>
    exact setNode_set h i _ (sensorTask_filterQueue espRandom now timedOut _)
  | filter i timedOut =>
    simp only [step]
    rcases filterTask_cases i timedOut (s.node i) with
      ⟨_, _, _, _, _, _, _, hnext⟩ | ⟨_, _, _, _, hnext⟩ | ⟨f, q, _, hroom, hq, hnext⟩ |
      ⟨_, _, _, hnext⟩ | ⟨_, _, _, hnext⟩ | hnext
    case inr.inr.inl =>
      rw [hnext]
      exact notify_inv h i f _ hroom hq
    all_goals
      rw [hnext]
      exact setNode_set h i _ rfl
  | controller timedOut => exact controllerTask_set h timedOut

theorem pipeline_set (actions : List (Action cfg.numberSensors)) :
    SetInv ((pipeline cfg).run actions) :=
  Machine.run_invariant (pipeline cfg) ⟨rfl, [], rfl, rfl, fun _ => rfl⟩ step_set actions

end Runs

/-! ### Consistency -/

/-- The handles and the queues agree with each other and with the order of the sends. -/
structure Consistent (s : State cfg) : Prop where
  /-- The handles, replaced by the items they stand for, are what was sent and not yet
  received, in the order of the sends. -/
  replays : replay (pending s) (queues s) = some ((s.sent.drop s.printed.length).map Prod.snd)
  /-- The k-th item received is the k-th sent, from the same queue. -/
  order : s.printed = s.sent.take s.printed.length
  /-- The set holds no more handles than it has places. -/
  fits : s.controllerQueues.items.length ≤ cfg.numElemFilterQueue * cfg.numberSensors
  /-- A send that finds a place in its queue finds one in the set, and always has. -/
  room : s.overflows = 0 ∧ ∀ i, (s.node i).filterQueue.items.length < cfg.numElemFilterQueue →
    s.controllerQueues.items.length < cfg.numElemFilterQueue * cfg.numberSensors
  /-- The receive that follows a select finds an item. -/
  found : ∀ i k, s.controller = .visiting (some i) k → k ≤ i.val →
    (s.node i).filterQueue.items ≠ []
  /-- Every item in a queue has its handle. -/
  covered : ∀ i, (pending s).count i = (s.node i).filterQueue.items.length

/-- **The queue set stays consistent**: handles and items are aligned in every
reachable state, in the global order of the successful sends. -/
theorem controllerQueues_consistent [Zero R] [Add R] [Mul R] [IntCast R] (cfg : Config R)
    (actions : List (Action cfg.numberSensors)) : Consistent ((pipeline cfg).run actions) := by
  have hset : SetInv ((pipeline cfg).run actions) := pipeline_set actions
  obtain ⟨hoverflows, outstanding, hsent, hrep⟩ := id hset
  refine ⟨?_, ?_, Fifo.bound _, ⟨hoverflows, fun i => set_has_room hrep i⟩, fun i k hc hk => ?_, hrep.count_eq⟩
  · rw [hrep.replay, hsent, List.drop_left]
  · rw [hsent, List.take_left]
  · exact selected_found hset (by rw [hc]; simp [ControllerTask.selected, hk])

end Aniot.P2
