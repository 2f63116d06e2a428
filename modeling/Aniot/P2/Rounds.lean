import Mathlib.Algebra.Ring.Rat
import Aniot.P2.EndToEnd
import Aniot.P2.ControllerQueues

/-! Rounds: does the controller keep up with the filters?

With `READ_INTERVAL = CONTROLLER_INTERVAL` every task makes one iteration of its
loop in the time of a round, in whatever order. A turn is such an iteration, made of
the steps of `Pipeline.lean`; waits that find nothing time out. The controller reads
one queue per turn, whichever the number of sensors: with one sensor that is enough
and the backlog never exceeds one between rounds; with two it grows with every round
in which both filters send. -/
namespace Aniot.P2
open QueueSet
variable {R : Type} {cfg : Config R} [Zero R] [Add R] [Mul R] [IntCast R]

inductive Turn (n : Nat) where
  | sensor (i : Fin n) (espRandom : BitVec 32) (now : Int)
  | filter (i : Fin n)
  | controller

/-- One iteration of `sensorTask`: generate, then send. -/
def sensorTurn (i : Fin cfg.numberSensors) (espRandom : BitVec 32) (now : Int) (s : State cfg) : State cfg :=
  step (step s (.sensor i espRandom now true)) (.sensor i espRandom now true)

/-- One iteration of `filterTask`: take a sample, then send if there is a value. -/
def filterTurn (i : Fin cfg.numberSensors) (s : State cfg) : State cfg :=
  let s := step s (.filter i true)
  match (s.node i).filter with
  | .sending _ => step s (.filter i true)
  | _ => s

/-- One iteration of `controllerTask`: select, go through the sensors, and round off. -/
def controllerTurn (s : State cfg) : State cfg :=
  (pipeline cfg).runFrom s (List.replicate (cfg.numberSensors + 2) (.controller true))

def turn (s : State cfg) : Turn cfg.numberSensors → State cfg
  | .sensor i espRandom now => sensorTurn i espRandom now s
  | .filter i => filterTurn i s
  | .controller => controllerTurn s

def runTurns (s : State cfg) : List (Turn cfg.numberSensors) → State cfg
  | [] => s
  | t :: rest => runTurns (turn s t) rest

theorem runTurns_append (s : State cfg) (a b : List (Turn cfg.numberSensors)) :
    runTurns s (a ++ b) = runTurns (runTurns s a) b := by
  induction a generalizing s with
  | nil => rfl
  | cons t rest ih => exact ih _

/-- Whatever every step keeps, a turn keeps. -/
theorem turn_keeps {Inv : State cfg → Prop} (hstep : ∀ s a, Inv s → Inv (step s a)) (s : State cfg)
    (t : Turn cfg.numberSensors) (h : Inv s) : Inv (turn s t) := by
  cases t with
  | sensor i espRandom now =>
    exact hstep _ (.sensor i espRandom now true) (hstep s (.sensor i espRandom now true) h)
  | filter i =>
    have hfirst := hstep s (.filter i true) h
    simp only [turn, filterTurn]
    split
    · exact hstep _ (.filter i true) hfirst
    · exact hfirst
  | controller => exact Machine.runFrom_invariant hstep s h _

def Turn.isFilter {n : Nat} (i : Fin n) : Turn n → Bool
  | .filter j => j = i
  | _ => false

def Turn.isController {n : Nat} : Turn n → Bool
  | .controller => true
  | _ => false

/-- In a round the controller has one turn and each filter at most one, in any order;
the sensors have as many as they like. -/
structure IsRound {n : Nat} (turns : List (Turn n)) : Prop where
  controller : turns.countP Turn.isController = 1
  filters : ∀ i, turns.countP (Turn.isFilter i) ≤ 1

/-- No send of a filter task has found its queue full. -/
def KeepsUp (s : State cfg) : Prop := ∀ i, (s.node i).stalls = 0

/-! ### One turn -/

/-- Between turns every task is at the head of its loop. -/
structure Between (s : State cfg) : Prop where
  sensor : ∀ i, (s.node i).sensor = .reading
  filter : ∀ i, (s.node i).filter = .receiving
  controller : s.controller = .selecting
  nodes : AllNodes s
  set : SetInv s

theorem start_between : Between (State.start cfg) :=
  ⟨fun _ => rfl, fun _ => rfl, rfl, fun i => start_inv i, rfl, [], rfl, rfl, fun _ => rfl⟩

/-- Between turns the set holds a handle for each value sent and not received. -/
theorem Between.backlog {s : State cfg} (h : Between s) :
    s.sent.length = s.printed.length + s.controllerQueues.items.length := by
  obtain ⟨_, outstanding, hsent, hrep⟩ := h.set
  have hlength := congrArg List.length hrep.handles
  simp only [pending, h.controller, ControllerTask.selected, List.nil_append, List.length_map] at hlength
  rw [hsent, List.length_append, hlength]

/-- A queue holds no more than the set has handles. -/
theorem Between.queue_le {s : State cfg} (h : Between s) (i : Fin cfg.numberSensors) :
    (s.node i).filterQueue.items.length ≤ s.controllerQueues.items.length := by
  obtain ⟨_, outstanding, _, hrep⟩ := h.set
  have hcount := hrep.count_eq i
  simp only [pending, h.controller, ControllerTask.selected, List.nil_append] at hcount
  rw [show (s.node i).filterQueue.items.length = (queues s i).length from rfl, ← hcount]
  exact List.count_le_length

omit [Zero R] [Add R] [Mul R] [IntCast R] in
/-- A sensor's iteration takes nothing and, if its queue was empty, leaves one sample there. -/
theorem sensorTask_twice (espRandom : BitVec 32) (now : Int) (nd : Node cfg) (h : nd.sensor = .reading) :
    ∃ s : Sample, ∃ q : Fifo Sample cfg.numElemSensorQueue, ∃ dropped : Nat,
      sensorTask espRandom now true (sensorTask espRandom now true nd) =
        {nd with sensorQueue := q, generated := nd.generated ++ [s], dropped := dropped} ∧
      (nd.sensorQueue.items = [] → q.items = [s]) := by
  obtain ⟨sensor, sensorQueue, filter, filterCount, filterQueue, generated, dropped, taken, computed,
    lost, stalls⟩ := nd
  subst h
  refine ⟨⟨generated.length, ⟨readSensor espRandom, now⟩⟩, ?_⟩
  simp only [sensorTask]
  cases hq : sensorQueue.send ⟨generated.length, ⟨readSensor espRandom, now⟩⟩ with
  | some q =>
    refine ⟨q, dropped, rfl, fun hempty => ?_⟩
    rw [(Fifo.send_eq_some.mp hq).2, show sensorQueue.items = [] from hempty]
    rfl
  | none =>
    refine ⟨sensorQueue, dropped + 1, rfl, fun hempty => ?_⟩
    have hfull := Fifo.send_eq_none.mp hq
    have := cfg.sensorQueue_pos
    rw [show sensorQueue.items = [] from hempty, List.length_nil] at hfull
    omega

/-- A sensor's turn: one sample more, if its queue was empty the only one there. -/
theorem sensorTurn_spec {s : State cfg} (h : Between s) (i : Fin cfg.numberSensors)
    (espRandom : BitVec 32) (now : Int) :
    Between (sensorTurn i espRandom now s) ∧
    (∀ j, ((sensorTurn i espRandom now s).node j).stalls = (s.node j).stalls ∧
      ((sensorTurn i espRandom now s).node j).taken = (s.node j).taken) ∧
    (∀ j, j ≠ i → (sensorTurn i espRandom now s).node j = s.node j) ∧
    (sensorTurn i espRandom now s).controllerQueues = s.controllerQueues ∧
    (sensorTurn i espRandom now s).printed = s.printed ∧
    ((s.node i).sensorQueue.items = [] →
      ∃ x, ((sensorTurn i espRandom now s).node i).sensorQueue.items = [x]) := by
  obtain ⟨x, q, dropped, hnode, hempty⟩ := sensorTask_twice espRandom now (s.node i) (h.sensor i)
  have hself : (sensorTurn i espRandom now s).node i =
      {s.node i with
        sensorQueue := q
        generated := (s.node i).generated ++ [x]
        dropped := dropped} := by
    simp only [sensorTurn, step, State.setNode, Function.update_self, hnode]
  have hother : ∀ j, j ≠ i → (sensorTurn i espRandom now s).node j = s.node j := by
    intro j hj
    simp only [sensorTurn, step, State.setNode, Function.update_of_ne hj]
  refine ⟨⟨fun j => ?_, fun j => ?_, h.controller, turn_keeps step_inv s (.sensor i espRandom now) h.nodes,
    turn_keeps step_set s (.sensor i espRandom now) h.set⟩, fun j => ?_, hother, rfl, rfl, fun he => ?_⟩
  · by_cases hj : j = i
    · subst hj
      rw [hself]
      exact h.sensor j
    · rw [hother j hj]
      exact h.sensor j
  · by_cases hj : j = i
    · subst hj
      rw [hself]
      exact h.filter j
    · rw [hother j hj]
      exact h.filter j
  · by_cases hj : j = i
    · subst hj
      rw [hself]
      exact ⟨rfl, rfl⟩
    · rw [hother j hj]
      exact ⟨rfl, rfl⟩
  · rw [hself]
    exact ⟨x, hempty he⟩

/-- What a step of filter task `i` leaves alone, and what it may add to the set. -/
theorem filter_step (s : State cfg) (i : Fin cfg.numberSensors) (timedOut : Bool) :
    (step s (.filter i timedOut)).node i = (filterTask i timedOut (s.node i)).1 ∧
    (∀ j, j ≠ i → (step s (.filter i timedOut)).node j = s.node j) ∧
    (step s (.filter i timedOut)).controller = s.controller ∧
    (step s (.filter i timedOut)).printed = s.printed ∧
    (step s (.filter i timedOut)).controllerQueues.items.length ≤
      s.controllerQueues.items.length + (filterTask i timedOut (s.node i)).2.toList.length := by
  simp only [step]
  generalize filterTask i timedOut (s.node i) = result
  obtain ⟨nd, _ | f⟩ := result
  · refine ⟨by simp [State.setNode], fun j hj => by simp [State.setNode, hj], rfl, rfl, Nat.le_refl _⟩
  · refine ⟨by simp [State.setNode], fun j hj => by simp [State.setNode, hj], by simp [State.setNode],
      by simp [State.setNode], notify_length_le _ i f⟩

/-- The first half of a filter's turn: a sample, if there is one, is taken and filtered. -/
theorem filterTask_receives {nd : Node cfg} {i : Fin cfg.numberSensors} {received : List (Filtered R)}
    (h : NodeInv cfg i received nd) (hf : nd.filter = .receiving) :
    (filterTask i true nd).2 = none ∧ (filterTask i true nd).1.filter ≠ .fault ∧
    (filterTask i true nd).1.sensor = nd.sensor ∧ (filterTask i true nd).1.stalls = nd.stalls ∧
    (filterTask i true nd).1.filterQueue = nd.filterQueue ∧
    (∀ x, nd.sensorQueue.items = [x] → (filterTask i true nd).1.sensorQueue.items = [] ∧
      (filterTask i true nd).1.taken = nd.taken ++ [x]) := by
  have hrunning := (filterTask_inv h true).running
  rcases filterTask_cases i true nd with
    ⟨s, q, v, out, _, hq, _, hnext⟩ | ⟨_, _, _, _, hnext⟩ | ⟨_, _, hs, _⟩ | ⟨_, hs, _⟩ | ⟨_, hs, _⟩ | hnext
  · refine ⟨by rw [hnext], hrunning, by rw [hnext], by rw [hnext], by rw [hnext], fun x hx => ?_⟩
    rw [hq] at hx
    obtain ⟨rfl, hrest⟩ := List.cons.inj hx
    rw [hnext]
    exact ⟨hrest, rfl⟩
  · rw [hnext] at hrunning
    exact absurd rfl hrunning
  · rw [hf] at hs
    cases hs
  · rw [hf] at hs
    cases hs
  · rw [hf] at hs
    cases hs
  · -- nothing to take: then the queue was empty
    refine ⟨by rw [hnext], hrunning, by rw [hnext], by rw [hnext], by rw [hnext], fun x hx => ?_⟩
    exfalso
    have hsome : nd.sensorQueue.receive = some (x, ⟨[], Nat.zero_le _⟩) := Fifo.receive_eq_some.mpr hx
    obtain ⟨v, out, htotal⟩ := filterSample_total (filterTaskName i) nd.filterCount x h.window
    have htaken := congrArg (fun r : Node cfg × Option (Filtered R) => r.1.taken.length) hnext
    simp [filterTask, hf, hsome, htotal] at htaken

/-- A value to send: the task is back at its head after it, whatever came of the send. -/
theorem filterTask_sends {nd : Node cfg} (i : Fin cfg.numberSensors) {f : Filtered R} (hf : nd.filter = .sending f) :
    (filterTask i true nd).1.filter = .receiving ∧ (filterTask i true nd).1.sensor = nd.sensor ∧
    (filterTask i true nd).1.sensorQueue = nd.sensorQueue ∧
    (filterTask i true nd).1.taken = nd.taken ∧
    (nd.filterQueue.items.length < cfg.numElemFilterQueue →
      (filterTask i true nd).1.stalls = nd.stalls) := by
  simp only [filterTask, hf]
  cases hq : nd.filterQueue.send f with
  | some q => exact ⟨rfl, rfl, rfl, rfl, fun _ => rfl⟩
  | none =>
    refine ⟨rfl, rfl, rfl, rfl, fun hroom => ?_⟩
    have := Fifo.send_eq_none.mp hq
    omega

/-- A filter's turn: a waiting sample is taken, at most one value is sent, and with a
place in its queue no send stalls. -/
theorem filterTurn_spec {s : State cfg} (h : Between s) (i : Fin cfg.numberSensors) :
    Between (filterTurn i s) ∧
    (∀ j, j ≠ i → (filterTurn i s).node j = s.node j) ∧
    (filterTurn i s).printed = s.printed ∧
    (filterTurn i s).controllerQueues.items.length ≤ s.controllerQueues.items.length + 1 ∧
    ((s.node i).filterQueue.items.length < cfg.numElemFilterQueue →
      ((filterTurn i s).node i).stalls = (s.node i).stalls) ∧
    (∀ x, (s.node i).sensorQueue.items = [x] → ((filterTurn i s).node i).sensorQueue.items = [] ∧
      ((filterTurn i s).node i).taken = (s.node i).taken ++ [x]) := by
  have hnodes : AllNodes (filterTurn i s) := turn_keeps step_inv s (.filter i) h.nodes
  have hset : SetInv (filterTurn i s) := turn_keeps step_set s (.filter i) h.set
  obtain ⟨hself, hother, hcontroller, hprinted, hlength⟩ := filter_step s i true
  obtain ⟨hnone, hnofault, hsensor, hstalls, hqueue, htaken⟩ :=
    filterTask_receives (h.nodes i) (h.filter i)
  rw [hnone, Option.toList_none, List.length_nil, Nat.add_zero] at hlength
  revert hnodes hset
  simp only [filterTurn, hself]
  cases hf : (filterTask i true (s.node i)).1.filter with
  | fault => exact absurd hf hnofault
  | receiving =>
    intro hnodes hset
    refine ⟨⟨fun j => ?_, fun j => ?_, hcontroller.trans h.controller, hnodes, hset⟩, hother, hprinted,
      Nat.le_succ_of_le hlength, fun _ => by rw [hself, hstalls], fun x hx => by rw [hself]; exact htaken x hx⟩
    · by_cases hj : j = i
      · subst hj
        rw [hself, hsensor]
        exact h.sensor j
      · rw [hother j hj]
        exact h.sensor j
    · by_cases hj : j = i
      · subst hj
        rw [hself, hf]
      · rw [hother j hj]
        exact h.filter j
  | sending f =>
    dsimp only
    intro hnodes hset
    obtain ⟨hself', hother', hcontroller', hprinted', hlength'⟩ := filter_step (step s (.filter i true)) i true
    rw [hself] at hself' hlength'
    obtain ⟨hback, hsensor', hsensorQueue', htaken', hroom⟩ := filterTask_sends i hf
    have hone : (filterTask i true (filterTask i true (s.node i)).1).2.toList.length ≤ 1 := by
      cases (filterTask i true (filterTask i true (s.node i)).1).2 <;> simp
    refine ⟨⟨fun j => ?_, fun j => ?_, (hcontroller'.trans hcontroller).trans h.controller, hnodes, hset⟩,
      fun j hj => (hother' j hj).trans (hother j hj), hprinted'.trans hprinted, by omega,
      fun hplace => ?_, fun x hx => ?_⟩
    · by_cases hj : j = i
      · subst hj
        rw [hself', hsensor', hsensor]
        exact h.sensor j
      · rw [hother' j hj, hother j hj]
        exact h.sensor j
    · by_cases hj : j = i
      · subst hj
        rw [hself', hback]
      · rw [hother' j hj, hother j hj]
        exact h.filter j
    · rw [hself', hroom (by rw [hqueue]; exact hplace), hstalls]
    · rw [hself', hsensorQueue', htaken']
      exact htaken x hx

omit [Zero R] [Add R] [Mul R] [IntCast R] in
/-- A step of the controller touches nothing of a node but its filter queue. -/
theorem controllerTask_frame (timedOut : Bool) (s : State cfg) :
    (controllerTask timedOut s).sent = s.sent ∧
    ∀ j, ∃ q, (controllerTask timedOut s).node j = {s.node j with filterQueue := q} := by
  rcases controllerTask_cases timedOut s with ⟨_, _, _, _, hnext⟩ | ⟨_, hnext⟩ |
    ⟨k, hk, f, q, _, _, hnext⟩ | ⟨_, _, _, _, hnext⟩ | ⟨_, _, _, _, _, hnext⟩ |
    ⟨_, _, _, _, _, hnext⟩ | hnext
  case inr.inr.inl =>
    rw [hnext]
    refine ⟨rfl, fun j => ?_⟩
    by_cases hj : j = ⟨k, hk⟩
    · subst hj
      exact ⟨q, by simp [State.setNode]⟩
    · exact ⟨(s.node j).filterQueue, by simp [State.setNode, hj]⟩
  all_goals
    rw [hnext]
    exact ⟨rfl, fun j => ⟨(s.node j).filterQueue, rfl⟩⟩

omit [Zero R] [Add R] [Mul R] [IntCast R] in
/-- Inside its loop, with waits that time out, the controller goes on to the next
sensor, and after the last one back to its head; it selects nothing. -/
theorem controller_visits {s : State cfg} {readingQueue : Option (Fin cfg.numberSensors)} {k : Nat}
    (hc : s.controller = .visiting readingQueue k) :
    (controllerTask true s).controllerQueues = s.controllerQueues ∧
    (controllerTask true s).controller =
      if k < cfg.numberSensors then .visiting readingQueue (k + 1) else .selecting := by
  unfold controllerTask
  rw [hc]
  by_cases hk : k < cfg.numberSensors
  · simp only [dif_pos hk, if_pos hk]
    split
    · split <;> exact ⟨rfl, rfl⟩
    · exact ⟨rfl, rfl⟩
  · simp only [dif_neg hk, if_neg hk]
    exact ⟨trivial, trivial⟩

/-- What the rest of the loop leaves behind. -/
theorem controller_loop (m : Nat) (s : State cfg) (readingQueue : Option (Fin cfg.numberSensors)) (k : Nat)
    (hc : s.controller = .visiting readingQueue k) (hm : k + m = cfg.numberSensors) :
    let s' := (pipeline cfg).runFrom s (List.replicate (m + 1) (.controller true))
    s'.controller = .selecting ∧ s'.controllerQueues = s.controllerQueues ∧ s'.sent = s.sent ∧
      ∀ j, ∃ q, s'.node j = {s.node j with filterQueue := q} := by
  obtain ⟨hset, hnext⟩ := controller_visits hc
  obtain ⟨hsent, hframe⟩ := controllerTask_frame true s
  induction m generalizing s k with
  | zero =>
    rw [if_neg (by omega)] at hnext
    exact ⟨hnext, hset, hsent, hframe⟩
  | succ m ih =>
    rw [if_pos (by omega)] at hnext
    obtain ⟨hset', hnext'⟩ := controller_visits hnext
    obtain ⟨hsent', hframe'⟩ := controllerTask_frame true (controllerTask true s)
    have hrest := ih (controllerTask true s) (k + 1) hnext (by omega) hset' hnext' hsent' hframe'
    rw [List.replicate_succ]
    refine ⟨hrest.1, hrest.2.1.trans hset, hrest.2.2.1.trans hsent, fun j => ?_⟩
    obtain ⟨q, hq⟩ := hrest.2.2.2 j
    obtain ⟨q', hq'⟩ := hframe j
    exact ⟨q, hq.trans (by rw [hq'])⟩

/-- The controller's turn: one handle fewer in the set, if there was one. -/
theorem controllerTurn_spec {s : State cfg} (h : Between s) :
    Between (controllerTurn s) ∧
    (controllerTurn s).controllerQueues.items.length = s.controllerQueues.items.length - 1 ∧
    (controllerTurn s).sent = s.sent ∧
    ∀ j, ∃ q, (controllerTurn s).node j = {s.node j with filterQueue := q} := by
  have hnodes : AllNodes (controllerTurn s) := turn_keeps step_inv s .controller h.nodes
  have hset : SetInv (controllerTurn s) := turn_keeps step_set s .controller h.set
  -- the select enters the loop with one handle fewer, or none, in the set
  obtain ⟨readingQueue, hselect, hlength⟩ : ∃ readingQueue,
      (controllerTask true s).controller = .visiting readingQueue 0 ∧
      (controllerTask true s).controllerQueues.items.length = s.controllerQueues.items.length - 1 := by
    unfold controllerTask
    rw [h.controller]
    dsimp only
    cases hq : s.controllerQueues.receive with
    | some selected =>
      obtain ⟨i, q⟩ := selected
      have hitems : s.controllerQueues.items = i :: q.items := Fifo.receive_eq_some.mp hq
      exact ⟨some i, rfl, by rw [hitems]; rfl⟩
    | none =>
      have hitems : s.controllerQueues.items = [] := Fifo.receive_eq_none.mp hq
      refine ⟨none, rfl, ?_⟩
      show s.controllerQueues.items.length = s.controllerQueues.items.length - 1
      rw [hitems]
      rfl
  obtain ⟨hsent, hframe⟩ := controllerTask_frame true s
  obtain ⟨hback, hrest, hsent', hframe'⟩ :=
    controller_loop cfg.numberSensors (controllerTask true s) readingQueue 0 hselect (Nat.zero_add _)
  have hturn : controllerTurn s = (pipeline cfg).runFrom (controllerTask true s)
      (List.replicate (cfg.numberSensors + 1) (.controller true)) := rfl
  have hnode : ∀ j, ∃ q, (controllerTurn s).node j = {s.node j with filterQueue := q} := by
    intro j
    obtain ⟨q, hq⟩ := hframe j
    obtain ⟨q', hq'⟩ := hframe' j
    exact ⟨q', by rw [hturn, hq', hq]⟩
  refine ⟨⟨fun j => ?_, fun j => ?_, hback, hnodes, hset⟩, by rw [hturn, hrest, hlength],
    hsent'.trans hsent, hnode⟩
  · obtain ⟨q, hq⟩ := hnode j
    rw [hq]
    exact h.sensor j
  · obtain ⟨q, hq⟩ := hnode j
    rw [hq]
    exact h.filter j

/-! ### Rounds with one filter -/

def Turn.isAnyFilter {n : Nat} : Turn n → Bool
  | .filter _ => true
  | _ => false

/-- The turns of a round, or what is left of it: with at most one filter's turn among
them and a backlog of one more than the controller has turns, none stalls and at most
one value is left over. -/
theorem turns_keep_up (hplaces : 2 ≤ cfg.numElemFilterQueue) (turns : List (Turn cfg.numberSensors))
    (s : State cfg) (h : Between s) (hup : KeepsUp s)
    (hfilters : turns.countP Turn.isAnyFilter ≤ 1) (hcontrollers : turns.countP Turn.isController ≤ 1)
    (hbacklog : s.controllerQueues.items.length + turns.countP Turn.isAnyFilter ≤
      1 + turns.countP Turn.isController) :
    Between (runTurns s turns) ∧ KeepsUp (runTurns s turns) ∧
      (runTurns s turns).controllerQueues.items.length ≤ 1 := by
  induction turns generalizing s with
  | nil =>
    simp only [List.countP_nil, Nat.add_zero] at hbacklog
    exact ⟨h, hup, hbacklog⟩
  | cons t rest ih =>
    cases t with
    | sensor i espRandom now =>
      obtain ⟨hbetween, hstalls, _, hset, _⟩ := sensorTurn_spec h i espRandom now
      simp only [List.countP_cons, Turn.isAnyFilter, Turn.isController, Bool.false_eq_true,
        if_false, Nat.add_zero] at hfilters hcontrollers hbacklog
      refine ih _ hbetween (fun j => (hstalls j).1.trans (hup j)) hfilters hcontrollers ?_
      show (sensorTurn i espRandom now s).controllerQueues.items.length + _ ≤ _
      rw [hset]
      exact hbacklog
    | filter i =>
      obtain ⟨hbetween, hothers, _, hlength, hstalls, _⟩ := filterTurn_spec h i
      simp only [List.countP_cons, Turn.isAnyFilter, Turn.isController, if_true, Bool.false_eq_true,
        if_false, Nat.add_zero] at hfilters hcontrollers hbacklog
      -- what waits in its queue waits in the set, and that is at most one value
      have hqueue := h.queue_le i
      refine ih _ hbetween (fun j => ?_) (by omega) hcontrollers ?_
      · by_cases hj : j = i
        · subst hj
          exact (hstalls (by omega)).trans (hup j)
        · show ((filterTurn i s).node j).stalls = 0
          rw [hothers j hj]
          exact hup j
      · show (filterTurn i s).controllerQueues.items.length + _ ≤ _
        omega
    | controller =>
      obtain ⟨hbetween, hlength, _, hnodes⟩ := controllerTurn_spec h
      simp only [List.countP_cons, Turn.isAnyFilter, Turn.isController, if_true, Bool.false_eq_true,
        if_false, Nat.add_zero] at hfilters hcontrollers hbacklog
      refine ih _ hbetween (fun j => ?_) hfilters (by omega) ?_
      · obtain ⟨q, hq⟩ := hnodes j
        show ((controllerTurn s).node j).stalls = 0
        rw [hq]
        exact hup j
      · show (controllerTurn s).controllerQueues.items.length + _ ≤ _
        omega

/-- Any number of rounds, each with at most one filter's turn. -/
theorem rounds_keep_up (cfg : Config R) (hplaces : 2 ≤ cfg.numElemFilterQueue)
    (rounds : List (List (Turn cfg.numberSensors))) (hrounds : ∀ r ∈ rounds, IsRound r)
    (hfilters : ∀ r ∈ rounds, r.countP Turn.isAnyFilter ≤ 1) (s : State cfg) (h : Between s)
    (hup : KeepsUp s) (hbacklog : s.controllerQueues.items.length ≤ 1) :
    KeepsUp (runTurns s rounds.flatten) := by
  induction rounds generalizing s with
  | nil => exact hup
  | cons r rest ih =>
    have hone := hfilters r (List.mem_cons_self ..)
    have hcontroller := (hrounds r (List.mem_cons_self ..)).controller
    obtain ⟨hbetween, hup', hbacklog'⟩ :=
      turns_keep_up hplaces r s h hup hone (by omega) (by omega)
    rw [List.flatten_cons, runTurns_append]
    exact ih (fun r' hr' => hrounds r' (List.mem_cons_of_mem r hr'))
      (fun r' hr' => hfilters r' (List.mem_cons_of_mem r hr')) _ hbetween hup' hbacklog'

/-- With at most one sensor a round has at most one filter's turn. -/
theorem IsRound.one_filter {n : Nat} {turns : List (Turn n)} (h : IsRound turns) (hn : n ≤ 1) :
    turns.countP Turn.isAnyFilter ≤ 1 := by
  by_cases hany : ∃ i : Fin n, Turn.filter i ∈ turns
  · obtain ⟨i, _⟩ := hany
    refine Nat.le_trans (List.countP_mono_left fun t _ ht => ?_) (h.filters i)
    cases t with
    | filter j =>
      have hij : j = i := by
        apply Fin.ext
        have := i.isLt
        have := j.isLt
        omega
      simp [Turn.isFilter, hij]
    | sensor => cases ht
    | controller => cases ht
  · rw [List.countP_eq_zero.mpr]
    · exact Nat.zero_le 1
    · intro t ht hfilter
      cases t with
      | filter i => exact hany ⟨i, ht⟩
      | sensor => cases hfilter
      | controller => cases hfilter

/-! ### Rounds in which every filter sends -/

/-- Every sensor of the list generates a sample and its filter takes it; then the controller. -/
def fullRound {n : Nat} : List (Fin n) → List (Turn n)
  | [] => [.controller]
  | i :: rest => .sensor i 0 0 :: .filter i :: fullRound rest

theorem fullRound_isRound (n : Nat) : IsRound (fullRound (List.finRange n)) := by
  have hcontroller : ∀ l : List (Fin n), (fullRound l).countP Turn.isController = 1 := by
    intro l
    induction l with
    | nil => rfl
    | cons i rest ih => simp [fullRound, Turn.isController, ih]
  have hfilter : ∀ (l : List (Fin n)) (i : Fin n), (fullRound l).countP (Turn.isFilter i) = l.count i := by
    intro l i
    induction l with
    | nil => rfl
    | cons j rest ih => simp [fullRound, Turn.isFilter, List.countP_cons, List.count_cons, ih]
  refine ⟨hcontroller _, fun i => ?_⟩
  rw [hfilter]
  exact List.nodup_iff_count_le_one.mp (List.nodup_finRange n) i

/-- Between rounds, with nothing waiting for a filter: how many samples each filter
has taken, and a bound on what the controller has printed. -/
structure Drained (taken : Fin cfg.numberSensors → Nat) (printed : Nat) (s : State cfg) : Prop where
  between : Between s
  empty : ∀ j, (s.node j).sensorQueue.items = []
  taken : ∀ j, (s.node j).taken.length = taken j
  printed : s.printed.length ≤ printed

/-- In a full round each filter of the list takes one sample and the controller one value. -/
theorem fullRound_drained (l : List (Fin cfg.numberSensors)) (s : State cfg)
    (taken : Fin cfg.numberSensors → Nat) (printed : Nat) (h : Drained taken printed s) :
    Drained (fun j => taken j + l.count j) (printed + 1) (runTurns s (fullRound l)) := by
  induction l generalizing s taken with
  | nil =>
    obtain ⟨hbetween, hlength, hsent, hnodes⟩ := controllerTurn_spec h.between
    refine ⟨hbetween, fun j => ?_, fun j => ?_, ?_⟩
    · obtain ⟨q, hq⟩ := hnodes j
      show ((controllerTurn s).node j).sensorQueue.items = []
      rw [hq]
      exact h.empty j
    · obtain ⟨q, hq⟩ := hnodes j
      show ((controllerTurn s).node j).taken.length = _
      rw [hq]
      exact h.taken j
    · have hbefore := h.between.backlog
      have hafter := hbetween.backlog
      have hprinted := h.printed
      rw [hsent] at hafter
      show (controllerTurn s).printed.length ≤ printed + 1
      omega
  | cons i rest ih =>
    obtain ⟨hbetween, hkeep, hothers, _, hprinted, hone⟩ := sensorTurn_spec h.between i 0 0
    obtain ⟨x, hx⟩ := hone (h.empty i)
    obtain ⟨hbetween', hothers', hprinted', _, _, htaken⟩ := filterTurn_spec hbetween i
    obtain ⟨hempty, hx'⟩ := htaken x hx
    have hnext : Drained (fun j => taken j + if j = i then 1 else 0) printed
        (filterTurn i (sensorTurn i 0 0 s)) := by
      refine ⟨hbetween', fun j => ?_, fun j => ?_, ?_⟩
      · by_cases hj : j = i
        · rw [hj]
          exact hempty
        · rw [hothers' j hj, hothers j hj]
          exact h.empty j
      · by_cases hj : j = i
        · rw [hj, hx', List.length_append, (hkeep i).2, h.taken, if_pos rfl, List.length_singleton]
        · rw [hothers' j hj, hothers j hj, h.taken, if_neg hj, Nat.add_zero]
      · rw [hprinted', hprinted]
        exact h.printed
    have hrest := ih _ _ hnext
    refine ⟨hrest.between, hrest.empty, fun j => ?_, hrest.printed⟩
    refine (hrest.taken j).trans ?_
    by_cases hj : j = i
    · subst hj
      simp only [if_true, List.count_cons_self]
      omega
    · simp only [if_neg hj, List.count_cons_of_ne (Ne.symm hj), Nat.add_zero]

/-- After `r` full rounds from the start each filter has taken `r` samples. -/
theorem fullRounds_drained (r : Nat) :
    Drained (fun _ => r) r (runTurns (State.start cfg)
      (List.replicate r (fullRound (List.finRange cfg.numberSensors))).flatten) := by
  induction r with
  | zero => exact ⟨start_between, fun _ => rfl, fun _ => rfl, Nat.le_refl 0⟩
  | succ r ih =>
    rw [List.replicate_succ', List.flatten_append, runTurns_append]
    have hnext := fullRound_drained (List.finRange cfg.numberSensors) _ _ _ ih
    rw [List.flatten_cons, List.flatten_nil, List.append_nil]
    refine ⟨hnext.between, hnext.empty, fun j => ?_, hnext.printed⟩
    rw [hnext.taken, List.count_eq_one_of_mem (List.nodup_finRange _) (List.mem_finRange j)]

/-- If no send has stalled, everything computed is printed or waits in a queue. -/
theorem Drained.balance {r : Nat} {s : State cfg} (h : Drained (fun _ => r) r s) (hup : KeepsUp s) :
    cfg.numberSensors * (r - cfg.weightingCoefficients.length) ≤
      r + cfg.numberSensors * cfg.numElemFilterQueue := by
  have hnode : ∀ j, r - cfg.weightingCoefficients.length ≤
      (member s.printed j).length + cfg.numElemFilterQueue := by
    intro j
    have hinv := h.between.nodes j
    have hcomputed := filterRun_length hinv.ran (Nat.zero_le _)
    have hcount := hinv.values_count
    have hlost := hinv.lost_le
    have hbound := (s.node j).filterQueue.bound
    rw [h.taken] at hcomputed
    rw [h.between.filter j] at hcount
    simp only [FilterTask.held, List.length_nil] at hcount
    rw [hup j] at hlost
    change (s.node j).computed.length = r - cfg.weightingCoefficients.length at hcomputed
    omega
  have hprinted : s.printed.length = ∑ j, (member s.printed j).length := by
    have hrep : Represents s.printed (s.printed.map Prod.fst) (member s.printed) := ⟨rfl, fun _ => rfl⟩
    rw [← hrep.length_eq, List.length_map]
  calc cfg.numberSensors * (r - cfg.weightingCoefficients.length)
      = ∑ _j : Fin cfg.numberSensors, (r - cfg.weightingCoefficients.length) := by
        rw [Finset.sum_const, Finset.card_univ, Fintype.card_fin, Nat.nsmul_eq_mul]
    _ ≤ ∑ j, ((member s.printed j).length + cfg.numElemFilterQueue) :=
        Finset.sum_le_sum fun j _ => hnode j
    _ = s.printed.length + cfg.numberSensors * cfg.numElemFilterQueue := by
        rw [Finset.sum_add_distrib, ← hprinted, Finset.sum_const, Finset.card_univ, Fintype.card_fin,
          Nat.nsmul_eq_mul]
    _ ≤ r + cfg.numberSensors * cfg.numElemFilterQueue := Nat.add_le_add_right h.printed _

/-- With two sensors or more, enough full rounds stall a filter. -/
theorem fullRounds_stall (cfg : Config R) (hn : 2 ≤ cfg.numberSensors) :
    ∃ r, ¬ KeepsUp (runTurns (State.start cfg)
      (List.replicate r (fullRound (List.finRange cfg.numberSensors))).flatten) := by
  refine ⟨cfg.numberSensors * (cfg.weightingCoefficients.length + cfg.numElemFilterQueue) + 1,
    fun hup => ?_⟩
  have hbalance := (fullRounds_drained _).balance hup
  generalize cfg.weightingCoefficients.length = window at hbalance
  generalize cfg.numElemFilterQueue = places at hbalance
  have hwindow : 2 * window ≤ cfg.numberSensors * window := Nat.mul_le_mul_right window hn
  have hvalues := Nat.mul_le_mul_right
    (cfg.numberSensors * (window + places) + 1 - window) hn
  rw [Nat.mul_add] at hbalance hvalues
  omega

/-- With the two sensors of `types.h`, the filters of 21 full rounds do not all find a place. -/
theorem two_sensors_stall :
    (∀ r ∈ List.replicate 21 (fullRound (List.finRange 2)), IsRound r) ∧
    ¬ KeepsUp (runTurns (State.start (typesH 2))
      (List.replicate 21 (fullRound (List.finRange 2))).flatten) := by
  refine ⟨fun r hr => ?_, fun hup => ?_⟩
  · rw [List.eq_of_mem_replicate hr]
    exact fullRound_isRound 2
  · have hbalance : 2 * (21 - 5) ≤ 21 + 2 * 5 := (fullRounds_drained 21).balance hup
    exact absurd hbalance (by decide)

/-- **The controller keeps up exactly if there is at most one sensor.** With the
settings of `types.h` and any number of sensors: no order of turns in any number of
rounds makes a filter find its queue full, if and only if the number is at most one. -/
theorem controller_keeps_up_iff (numberSensors : Nat) :
    (∀ rounds : List (List (Turn numberSensors)), (∀ r ∈ rounds, IsRound r) →
      KeepsUp (runTurns (State.start (typesH numberSensors)) rounds.flatten)) ↔ numberSensors ≤ 1 := by
  constructor
  · intro h
    by_contra hn
    obtain ⟨r, hstall⟩ := fullRounds_stall (typesH numberSensors) (Nat.lt_of_not_le hn)
    exact hstall (h _ fun r' hr' => by
      rw [List.eq_of_mem_replicate hr']
      exact fullRound_isRound numberSensors)
  · intro hn rounds hrounds
    exact rounds_keep_up (typesH numberSensors) (show 2 ≤ 5 by decide) rounds hrounds
      (fun r hr => (hrounds r hr).one_filter hn) _ start_between (fun _ => rfl) (Nat.zero_le 1)

end Aniot.P2
