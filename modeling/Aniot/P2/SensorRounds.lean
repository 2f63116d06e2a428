import Aniot.P2.Rounds

/-! Rounds of the sensors: does a filter keep up with its sensor?

In a round each sensor has at most one turn and each filter at least one, in any order and
with any turns of the controller. A filter takes one sample a turn, whether its own sends
succeed or not. So a sensor's queue holds at most one sample at the end of a round, none is
ever dropped, and what has been generated by the end of a round is taken by the end of
the next (`samples_taken_next_round`), for any number of sensors. -/
namespace Aniot.P2
variable {R : Type} {cfg : Config R} [Zero R] [Add R] [Mul R] [IntCast R]

def Turn.isSensor {n : Nat} (i : Fin n) : Turn n → Bool
  | .sensor j _ _ => j = i
  | _ => false

/-- Each sensor has at most one turn, and each filter at least one. -/
structure IsSensorRound {n : Nat} (turns : List (Turn n)) : Prop where
  sensors : ∀ i, turns.countP (Turn.isSensor i) ≤ 1
  filters : ∀ i, 1 ≤ turns.countP (Turn.isFilter i)

/-- What some turns leave of a node's samples: nothing is dropped, the queue has shrunk with the
turns of the filter and grown with those of the sensor, and what the filter could take is taken. -/
structure Took (sensors filters : Nat) (nd nd' : Node cfg) : Prop where
  dropped : nd'.dropped = nd.dropped
  generated : nd.generated <+: nd'.generated
  queue : nd'.sensorQueue.items.length ≤ (nd.sensorQueue.items.length - filters) + sensors
  taken : nd.taken.length + min nd.sensorQueue.items.length filters ≤ nd'.taken.length

omit [Zero R] [Add R] [Mul R] [IntCast R] in
theorem Took.refl (nd : Node cfg) : Took 0 0 nd nd :=
  ⟨rfl, List.prefix_rfl, Nat.le_refl _, by rw [Nat.min_zero]; exact Nat.le_refl _⟩

/-- A sensor's turn, with a place in its queue. -/
theorem sensorTurn_took {s : State cfg} (h : Between s) (i : Fin cfg.numberSensors)
    (espRandom : BitVec 32) (now : Int)
    (hroom : (s.node i).sensorQueue.items.length < cfg.numElemSensorQueue) :
    ((sensorTurn i espRandom now s).node i).dropped = (s.node i).dropped ∧
    (s.node i).generated <+: ((sensorTurn i espRandom now s).node i).generated ∧
    ((sensorTurn i espRandom now s).node i).sensorQueue.items.length =
      (s.node i).sensorQueue.items.length + 1 ∧
    ((sensorTurn i espRandom now s).node i).taken = (s.node i).taken := by
  simp only [sensorTurn, step, State.setNode, Function.update_self]
  simp only [sensorTask, h.sensor i]
  cases hq : (s.node i).sensorQueue.send ⟨(s.node i).generated.length, ⟨readSensor espRandom, now⟩⟩ with
  | some q =>
    refine ⟨rfl, List.prefix_append _ _, ?_, rfl⟩
    show q.items.length = _
    rw [(Fifo.send_eq_some.mp hq).2, List.length_append]
    rfl
  | none =>
    have hfull := Fifo.send_eq_none.mp hq
    omega

/-- A filter takes the oldest sample, if there is one. -/
theorem filterTask_takes {nd : Node cfg} {i : Fin cfg.numberSensors} {received : List (Filtered R)}
    (h : NodeInv cfg i received nd) (hf : nd.filter = .receiving) :
    (filterTask i true nd).1.dropped = nd.dropped ∧ (filterTask i true nd).1.generated = nd.generated ∧
    (filterTask i true nd).1.sensorQueue.items.length = nd.sensorQueue.items.length - 1 ∧
    (filterTask i true nd).1.taken.length = nd.taken.length + min nd.sensorQueue.items.length 1 := by
  simp only [filterTask, hf]
  cases hq : nd.sensorQueue.receive with
  | none =>
    have hempty : nd.sensorQueue.items = [] := Fifo.receive_eq_none.mp hq
    simp [hempty]
  | some taken =>
    obtain ⟨x, q⟩ := taken
    have hitems : nd.sensorQueue.items = x :: q.items := Fifo.receive_eq_some.mp hq
    obtain ⟨v, out, hs⟩ := filterSample_total (filterTaskName i) nd.filterCount x h.window
    simp [hs, hitems]

/-- Its send, whatever comes of it, leaves the samples alone. -/
theorem filterTask_offers {nd : Node cfg} (i : Fin cfg.numberSensors) {f : Filtered R}
    (hf : nd.filter = .sending f) :
    (filterTask i true nd).1.dropped = nd.dropped ∧ (filterTask i true nd).1.generated = nd.generated ∧
    (filterTask i true nd).1.sensorQueue = nd.sensorQueue ∧ (filterTask i true nd).1.taken = nd.taken := by
  simp only [filterTask, hf]
  cases nd.filterQueue.send f <;> exact ⟨rfl, rfl, rfl, rfl⟩

theorem filterTurn_took {s : State cfg} (h : Between s) (i : Fin cfg.numberSensors) :
    ((filterTurn i s).node i).dropped = (s.node i).dropped ∧
    ((filterTurn i s).node i).generated = (s.node i).generated ∧
    ((filterTurn i s).node i).sensorQueue.items.length = (s.node i).sensorQueue.items.length - 1 ∧
    ((filterTurn i s).node i).taken.length =
      (s.node i).taken.length + min (s.node i).sensorQueue.items.length 1 := by
  obtain ⟨hself, -⟩ := filter_step s i true
  have htakes := filterTask_takes (h.nodes i) (h.filter i)
  simp only [filterTurn, hself]
  cases hf : (filterTask i true (s.node i)).1.filter with
  | sending f =>
    obtain ⟨hself', -⟩ := filter_step (step s (.filter i true)) i true
    obtain ⟨hdropped, hgenerated, hqueue, htaken⟩ := filterTask_offers i hf
    dsimp only
    rw [hself', hself, hdropped, hgenerated, hqueue, htaken]
    exact htakes
  | _ =>
    dsimp only
    rw [hself]
    exact htakes

theorem turns_between (turns : List (Turn cfg.numberSensors)) {s : State cfg} (h : Between s) :
    Between (runTurns s turns) := by
  induction turns generalizing s with
  | nil => exact h
  | cons t rest ih =>
    cases t with
    | sensor i espRandom now => exact ih (sensorTurn_spec h i espRandom now).1
    | filter i => exact ih (filterTurn_spec h i).1
    | controller => exact ih (controllerTurn_spec h).1

/-- The turns of a round, or what is left of it: with places for the samples still to come, none
is dropped. -/
theorem turns_took (turns : List (Turn cfg.numberSensors)) {s : State cfg} (h : Between s)
    (i : Fin cfg.numberSensors)
    (hroom : (s.node i).sensorQueue.items.length + turns.countP (Turn.isSensor i) ≤
      cfg.numElemSensorQueue) :
    Took (turns.countP (Turn.isSensor i)) (turns.countP (Turn.isFilter i)) (s.node i)
      ((runTurns s turns).node i) := by
  induction turns generalizing s with
  | nil => exact Took.refl _
  | cons t rest ih =>
    have hbetween : Between (turn s t) := turns_between [t] h
    -- a turn of another task
    have hsame (hdropped : ((turn s t).node i).dropped = (s.node i).dropped)
        (hgenerated : ((turn s t).node i).generated = (s.node i).generated)
        (hqueue : ((turn s t).node i).sensorQueue = (s.node i).sensorQueue)
        (htaken : ((turn s t).node i).taken = (s.node i).taken)
        (hrest : (s.node i).sensorQueue.items.length + rest.countP (Turn.isSensor i) ≤
          cfg.numElemSensorQueue) :
        Took (rest.countP (Turn.isSensor i)) (rest.countP (Turn.isFilter i)) (s.node i)
          ((runTurns (turn s t) rest).node i) := by
      rw [← hqueue] at hrest
      have htook := ih hbetween hrest
      exact ⟨htook.dropped.trans hdropped, hgenerated ▸ htook.generated, hqueue ▸ htook.queue,
        hqueue ▸ htaken ▸ htook.taken⟩
    cases t with
    | sensor j espRandom now =>
      by_cases hj : i = j
      · subst hj
        simp only [List.countP_cons, Turn.isSensor, Turn.isFilter, decide_true, if_true,
          Bool.false_eq_true, if_false] at hroom ⊢
        obtain ⟨hdropped, hgenerated, hqueue, htaken⟩ := sensorTurn_took h i espRandom now (by omega)
        have htook := ih (s := sensorTurn i espRandom now s) hbetween (by rw [hqueue]; omega)
        have hshrunk := htook.queue
        have hmore := htook.taken
        rw [hqueue] at hshrunk hmore
        rw [htaken] at hmore
        refine ⟨htook.dropped.trans hdropped, hgenerated.trans htook.generated, ?_, ?_⟩
        · exact Nat.le_trans hshrunk (by omega)
        · exact Nat.le_trans (by omega) hmore
      · have hnode := (sensorTurn_spec h j espRandom now).2.2.1 i hj
        simp only [List.countP_cons, Turn.isSensor, Turn.isFilter, decide_eq_false (Ne.symm hj),
          Bool.false_eq_true, if_false, Nat.add_zero] at hroom ⊢
        exact hsame (congrArg Node.dropped hnode) (congrArg Node.generated hnode)
          (congrArg Node.sensorQueue hnode) (congrArg Node.taken hnode) hroom
    | filter j =>
      by_cases hj : i = j
      · subst hj
        simp only [List.countP_cons, Turn.isSensor, Turn.isFilter, decide_true, if_true,
          Bool.false_eq_true, if_false, Nat.add_zero] at hroom ⊢
        obtain ⟨hdropped, hgenerated, hqueue, htaken⟩ := filterTurn_took h i
        have htook := ih (s := filterTurn i s) hbetween (by rw [hqueue]; omega)
        have hshrunk := htook.queue
        have hmore := htook.taken
        rw [hqueue] at hshrunk hmore
        rw [htaken] at hmore
        refine ⟨htook.dropped.trans hdropped, hgenerated ▸ htook.generated, ?_, ?_⟩
        · exact Nat.le_trans hshrunk (by omega)
        · exact Nat.le_trans (by omega) hmore
      · have hnode := (filterTurn_spec h j).2.1 i hj
        simp only [List.countP_cons, Turn.isSensor, Turn.isFilter, decide_eq_false (Ne.symm hj),
          Bool.false_eq_true, if_false, Nat.add_zero] at hroom ⊢
        exact hsame (congrArg Node.dropped hnode) (congrArg Node.generated hnode)
          (congrArg Node.sensorQueue hnode) (congrArg Node.taken hnode) hroom
    | controller =>
      obtain ⟨q, hnode⟩ := (controllerTurn_spec h).2.2.2 i
      simp only [List.countP_cons, Turn.isSensor, Turn.isFilter, Bool.false_eq_true, if_false,
        Nat.add_zero] at hroom ⊢
      have hframe : ((controllerTurn s).node i).dropped = (s.node i).dropped ∧
          ((controllerTurn s).node i).generated = (s.node i).generated ∧
          ((controllerTurn s).node i).sensorQueue = (s.node i).sensorQueue ∧
          ((controllerTurn s).node i).taken = (s.node i).taken := by
        rw [hnode]
        exact ⟨rfl, rfl, rfl, rfl⟩
      exact hsame hframe.1 hframe.2.1 hframe.2.2.1 hframe.2.2.2 hroom

/-- Every sample generated is taken or in the queue, in order, when none is dropped. -/
theorem generated_eq {s : State cfg} (h : Between s) {i : Fin cfg.numberSensors}
    (hdropped : (s.node i).dropped = 0) :
    (s.node i).generated = (s.node i).taken ++ (s.node i).sensorQueue.items := by
  have hsamples := (h.nodes i).samples
  have hcount := (h.nodes i).samples_count
  rw [h.sensor i, SensorTask.held, List.append_nil] at hsamples
  simp only [h.sensor i, SensorTask.held, hdropped, List.length_nil, Nat.add_zero,
    ← List.length_append] at hcount
  exact (hsamples.eq_of_length hcount.symm).symm

/-- Between rounds no sample has been dropped, and no queue holds more than one. -/
structure UpToDate (s : State cfg) : Prop where
  between : Between s
  dropped : ∀ i, (s.node i).dropped = 0
  queue : ∀ i, (s.node i).sensorQueue.items.length ≤ 1

/-- A round keeps it so, and takes all that had been generated before it. -/
theorem round_upToDate (hplaces : 2 ≤ cfg.numElemSensorQueue) {turns : List (Turn cfg.numberSensors)}
    (hround : IsSensorRound turns) {s : State cfg} (h : UpToDate s) :
    UpToDate (runTurns s turns) ∧
      ∀ i, (s.node i).generated <+: ((runTurns s turns).node i).taken := by
  have htook (i : Fin cfg.numberSensors) := turns_took turns h.between i
    (Nat.le_trans (Nat.add_le_add (h.queue i) (hround.sensors i)) hplaces)
  have hlast : UpToDate (runTurns s turns) := by
    refine ⟨turns_between turns h.between, fun i => (htook i).dropped.trans (h.dropped i), fun i => ?_⟩
    have hqueue := (htook i).queue
    have hbefore := h.queue i
    have hsensors := hround.sensors i
    have hfilters := hround.filters i
    omega
  refine ⟨hlast, fun i => ?_⟩
  have hafter := generated_eq hlast.between (hlast.dropped i)
  have hbefore := congrArg List.length (generated_eq h.between (h.dropped i))
  rw [List.length_append] at hbefore
  have htaken := (htook i).taken
  have hqueue := h.queue i
  have hfilters := hround.filters i
  exact List.prefix_of_prefix_length_le (htook i).generated ⟨_, hafter.symm⟩ (by omega)

theorem rounds_upToDate (hplaces : 2 ≤ cfg.numElemSensorQueue)
    (rounds : List (List (Turn cfg.numberSensors))) (hrounds : ∀ r ∈ rounds, IsSensorRound r)
    {s : State cfg} (h : UpToDate s) : UpToDate (runTurns s rounds.flatten) := by
  induction rounds generalizing s with
  | nil => exact h
  | cons r rest ih =>
    rw [List.flatten_cons, runTurns_append]
    exact ih (fun r' hr' => hrounds r' (List.mem_cons_of_mem r hr'))
      (round_upToDate hplaces (hrounds r List.mem_cons_self) h).1

/-- **After any rounds, whatever the order of their turns and however the controller keeps up, no
sensor has dropped a sample, no sensor queue holds more than one, and a further round takes
every sample generated before it.** -/
theorem samples_taken_next_round (cfg : Config R) (hplaces : 2 ≤ cfg.numElemSensorQueue)
    (rounds : List (List (Turn cfg.numberSensors))) (hrounds : ∀ r ∈ rounds, IsSensorRound r)
    (i : Fin cfg.numberSensors) :
    let s := runTurns (State.start cfg) rounds.flatten
    (s.node i).dropped = 0 ∧ (s.node i).sensorQueue.items.length ≤ 1 ∧
      ∀ r, IsSensorRound r → (s.node i).generated <+: ((runTurns s r).node i).taken := by
  intro s
  have hstart : UpToDate (State.start cfg) := ⟨start_between, fun _ => rfl, fun _ => Nat.zero_le 1⟩
  have hlast : UpToDate s := rounds_upToDate hplaces rounds hrounds hstart
  exact ⟨hlast.dropped i, hlast.queue i, fun r hr => (round_upToDate hplaces hr hlast).2 i⟩

/-- Two sensors, whose filters have their turns before them. -/
theorem samples_taken_next_round_two :
    let rounds : List (List (Turn 2)) := [[.filter 0, .filter 1, .sensor 0 7 0, .sensor 1 8 0, .controller]]
    let s := runTurns (State.start (typesH 2)) rounds.flatten
    (s.node (1 : Fin 2)).dropped = 0 ∧ (s.node (1 : Fin 2)).sensorQueue.items.length ≤ 1 ∧
      ∀ r, IsSensorRound r → (s.node (1 : Fin 2)).generated <+: ((runTurns s r).node (1 : Fin 2)).taken := by
  refine samples_taken_next_round (typesH 2) (by decide) _ (fun r hr => ?_) (1 : Fin 2)
  obtain rfl := List.mem_singleton.mp hr
  exact ⟨by decide, by decide⟩

end Aniot.P2
