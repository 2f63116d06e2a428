import Aniot.P2.Pipeline

/-! The pipeline end to end.

`NodeInv` is what one sensor's tasks and queues keep, whatever the others do: the
samples taken, queued and held are some of those generated, in order; the values
received by the controller, queued and held are some of those computed, in order;
what was computed is the filter alone run on what was taken; and the counts of both
stages balance with the reported failures. A step of one task touches one node
(`step_inv`), so every run keeps it, for all nodes at once. -/
namespace Aniot.P2
open QueueSet
variable {R : Type} {cfg : Config R} [Zero R] [Add R] [Mul R] [IntCast R]

/-- What a node keeps, given what the controller has received from it. -/
structure NodeInv (cfg : Config R) (i : Fin cfg.numberSensors) (received : List (Filtered R))
    (nd : Node cfg) : Prop where
  numbered : nd.generated.map Sample.number = List.range nd.generated.length
  samples : (nd.taken ++ nd.sensorQueue.items ++ nd.sensor.held).Sublist nd.generated
  values : (received ++ nd.filterQueue.items ++ nd.filter.held).Sublist nd.computed
  ran : filterRun cfg.weightingCoefficients (filterTaskName i)
    (.init cfg.weightingCoefficients.length cfg.window_pos) nd.taken = some (nd.filterCount, nd.computed)
  window : cfg.weightingCoefficients.length = nd.filterCount.aforoMax
  running : nd.filter ≠ .fault
  samples_count : nd.generated.length =
    nd.taken.length + nd.sensorQueue.items.length + nd.sensor.held.length + nd.dropped
  values_count : nd.computed.length =
    received.length + nd.filterQueue.items.length + nd.filter.held.length + nd.lost
  /-- A value is only lost where a send found the queue full. -/
  lost_le : nd.lost ≤ nd.stalls

theorem start_inv (i : Fin cfg.numberSensors) : NodeInv cfg i [] (Node.start cfg) where
  numbered := rfl
  samples := List.Sublist.refl _
  values := List.Sublist.refl _
  ran := rfl
  window := rfl
  running := nofun
  samples_count := rfl
  values_count := rfl
  lost_le := Nat.le_refl 0

theorem sensorTask_inv {i : Fin cfg.numberSensors} {received : List (Filtered R)} {nd : Node cfg}
    (h : NodeInv cfg i received nd) (espRandom : BitVec 32) (now : Int) (timedOut : Bool) :
    NodeInv cfg i received (sensorTask espRandom now timedOut nd) := by
  have hsamples := h.samples
  have hcount := h.samples_count
  rcases sensorTask_cases espRandom now timedOut nd with
    ⟨s, hs, hnumber, hnext⟩ | ⟨s, q, hs, hq, hnext⟩ | ⟨s, hs, hnext⟩ | hnext
  · -- a new sample: held by the task, last of the generated ones
    rw [hs] at hsamples hcount
    rw [hnext]
    refine {h with numbered := ?_, samples := ?_, samples_count := ?_}
    · simp [h.numbered, hnumber, List.range_succ]
    · simpa [SensorTask.held] using hsamples.append (List.Sublist.refl [s])
    · simp only [SensorTask.held, List.length_append, List.length_cons, List.length_nil] at hcount ⊢
      omega
  · -- the held sample moves to the back of the queue
    rw [hs] at hsamples hcount
    rw [hnext]
    refine {h with samples := ?_, samples_count := ?_}
    · simpa [SensorTask.held, hq] using hsamples
    · simp only [SensorTask.held, hq, List.length_append, List.length_cons, List.length_nil] at hcount ⊢
      omega
  · -- the held sample is given up and reported
    rw [hs] at hsamples hcount
    rw [hnext]
    refine {h with samples := ?_, samples_count := ?_}
    · exact (List.sublist_append_left _ _).trans (by simpa [SensorTask.held] using hsamples)
    · simp only [SensorTask.held, List.length_cons, List.length_nil] at hcount ⊢
      omega
  · rw [hnext]
    exact h

theorem filterTask_inv {i : Fin cfg.numberSensors} {received : List (Filtered R)} {nd : Node cfg}
    (h : NodeInv cfg i received nd) (timedOut : Bool) :
    NodeInv cfg i received (filterTask i timedOut nd).1 := by
  have hsamples := h.samples
  have hvalues := h.values
  have hscount := h.samples_count
  have hvcount := h.values_count
  rcases filterTask_cases i timedOut nd with
    ⟨s, q, v, out, hf, hq, hs, hnext⟩ | ⟨s, q, hf, hs, hnext⟩ | ⟨f, q, hf, _, hq, hnext⟩ |
    ⟨f, hf, _, hnext⟩ | ⟨f, hf, _, hnext⟩ | hnext
  · -- the oldest queued sample is taken and filtered
    have hcases := filterSample_cases hs
    rw [hf] at hvalues hvcount
    rw [hq] at hsamples hscount
    rw [hnext]
    refine {h with samples := ?_, values := ?_, ran := filterRun_concat h.ran hs,
                   window := h.window.trans hcases.1.symm, running := ?_,
                   samples_count := ?_, values_count := ?_}
    · simpa using hsamples
    · cases out with
      | none => simpa [FilterTask.held] using hvalues
      | some f => simpa [FilterTask.held] using hvalues.append (List.Sublist.refl [f])
    · cases out <;> exact nofun
    · simp only [List.length_append, List.length_cons, List.length_nil] at hscount ⊢
      omega
    · cases out <;>
        simp only [FilterTask.held, Option.toList, List.length_append, List.length_cons,
          List.length_nil] at hvcount ⊢ <;>
        omega
  · -- the vector has a coefficient for every slot, so no access leaves its array
    obtain ⟨v, out, htotal⟩ := filterSample_total (filterTaskName i) nd.filterCount s h.window
    rw [hs] at htotal
    cases htotal
  · -- the held value moves to the back of the queue
    rw [hf] at hvalues hvcount
    rw [hnext]
    refine {h with values := ?_, running := nofun, values_count := ?_}
    · simpa [FilterTask.held, hq] using hvalues
    · simp only [FilterTask.held, hq, List.length_append, List.length_cons, List.length_nil] at hvcount ⊢
      omega
  · -- the held value is given up and reported
    rw [hf] at hvalues hvcount
    rw [hnext]
    refine {h with values := ?_, running := nofun, values_count := ?_,
                   lost_le := Nat.succ_le_succ h.lost_le}
    · exact (List.sublist_append_left _ _).trans (by simpa [FilterTask.held] using hvalues)
    · simp only [FilterTask.held, List.length_cons, List.length_nil] at hvcount ⊢
      omega
  · rw [hnext]
    exact {h with lost_le := Nat.le_succ_of_le h.lost_le}
  · rw [hnext]
    exact h

/-- Every node keeps its invariant, with what was printed under its sensor's name. -/
def AllNodes (s : State cfg) : Prop := ∀ i, NodeInv cfg i (member s.printed i) (s.node i)

theorem setNode_inv {s : State cfg} (h : AllNodes s) {i : Fin cfg.numberSensors} {nd : Node cfg}
    (hnd : NodeInv cfg i (member s.printed i) nd) : AllNodes (s.setNode i nd) := by
  intro j
  by_cases hj : j = i
  · subst hj
    simpa [State.setNode] using hnd
  · simpa [State.setNode, Function.update_of_ne hj] using h j

/-- The controller takes the oldest value of a filter queue and prints it. -/
theorem printed_inv {s : State cfg} (h : AllNodes s) {i : Fin cfg.numberSensors} {f : Filtered R}
    {q : Fifo (Filtered R) cfg.numElemFilterQueue} (hq : (s.node i).filterQueue.items = f :: q.items)
    (c : ControllerTask cfg.numberSensors) :
    AllNodes {s.setNode i {s.node i with filterQueue := q} with
      controller := c
      printed := s.printed ++ [(i, f)]} := by
  intro j
  by_cases hj : j = i
  · subst hj
    have hvalues := (h j).values
    have hcount := (h j).values_count
    rw [hq] at hvalues hcount
    simp only [State.setNode, Function.update_self, member_append, member_cons_self, member_nil]
    refine {h j with values := ?_, values_count := ?_}
    · simpa using hvalues
    · simp only [List.length_append, List.length_cons, List.length_nil] at hcount ⊢
      omega
  · simpa [State.setNode, Function.update_of_ne hj, member_cons_ne (Ne.symm hj)] using h j

/-- One step of any task keeps every node's invariant. -/
theorem step_inv (s : State cfg) (a : Action cfg.numberSensors) (h : AllNodes s) :
    AllNodes (step s a) := by
  cases a with
  | sensor i espRandom now timedOut => exact setNode_inv h (sensorTask_inv (h i) espRandom now timedOut)
  | filter i timedOut =>
    have hnode : AllNodes (s.setNode i (filterTask i timedOut (s.node i)).1) :=
      setNode_inv h (filterTask_inv (h i) timedOut)
    simp only [step]
    split
    next nd hresult =>
      rw [hresult] at hnode
      exact hnode
    next nd f hresult =>
      rw [hresult] at hnode
      intro j
      rw [notify_node, notify_printed]
      exact hnode j
  | controller timedOut =>
    show AllNodes (controllerTask timedOut s)
    rcases controllerTask_cases timedOut s with ⟨i, q, _, _, hnext⟩ | ⟨_, hnext⟩ |
      ⟨k, hk, f, q, _, hq, hnext⟩ | ⟨k, hk, _, _, hnext⟩ | ⟨_, _, _, _, _, hnext⟩ |
      ⟨_, _, _, _, _, hnext⟩ | hnext
    case inr.inr.inl =>
      rw [hnext]
      exact printed_inv h hq _
    all_goals
      rw [hnext]
      exact h

theorem pipeline_inv (actions : List (Action cfg.numberSensors)) :
    AllNodes ((pipeline cfg).run actions) :=
  Machine.run_invariant (pipeline cfg) (fun i => start_inv i) step_inv actions

/-! ### The pipeline's promise -/

/-- What is printed under a sensor's name, and what became of everything on the way. -/
structure EndToEnd (i : Fin cfg.numberSensors) (s : State cfg) : Prop where
  /-- The samples of sensor `i` carry their place in the order it generated them. -/
  numbered : (s.node i).generated.map Sample.number = List.range (s.node i).generated.length
  /-- What is printed under the name of `i` are values its own filter task computed,
  each carrying the name of that task. -/
  own : (member s.printed i).Sublist (s.node i).computed ∧
    ∀ f ∈ member s.printed i, f.data.taskName = filterTaskName i
  /-- Each carries value and timestamp of one sample that sensor `i` generated. -/
  one_sample : ∀ f ∈ member s.printed i, f.sample ∈ (s.node i).generated ∧
    f.data.valueOriginal = f.sample.data.value ∧ f.data.timestamp = f.sample.data.timestamp
  /-- The samples they stem from were generated in that order, none twice. -/
  increasing : ((member s.printed i).map (fun f => f.sample.number)).Pairwise (· < ·)
  /-- The computed values are those of the filter alone on samples of `i`. -/
  alone : filterRun cfg.weightingCoefficients (filterTaskName i)
      (.init cfg.weightingCoefficients.length cfg.window_pos) (s.node i).taken =
      some ((s.node i).filterCount, (s.node i).computed) ∧
    (s.node i).taken.Sublist (s.node i).generated
  /-- Every generated sample is taken, queued, in the sensor task's hands or reported. -/
  samples : (s.node i).generated.length = (s.node i).taken.length +
    (s.node i).sensorQueue.items.length + (s.node i).sensor.held.length + (s.node i).dropped
  /-- Every computed value is received, queued, in the filter task's hands or reported. -/
  values : (s.node i).computed.length = (member s.printed i).length +
    (s.node i).filterQueue.items.length + (s.node i).filter.held.length + (s.node i).lost

/-- **The pipeline is end to end what it should be**, for any number of sensors, any
interleaving and any pattern of failed sends. -/
theorem pipeline_end_to_end (cfg : Config R) (actions : List (Action cfg.numberSensors))
    (i : Fin cfg.numberSensors) : EndToEnd i ((pipeline cfg).run actions) := by
  have h := pipeline_inv actions i
  obtain ⟨hsub, hstamped⟩ := filterRun_stamped h.ran
  have hown : (member ((pipeline cfg).run actions).printed i).Sublist
      (((pipeline cfg).run actions).node i).computed :=
    ((List.sublist_append_left _ _).trans (List.sublist_append_left _ _)).trans h.values
  have htaken : (((pipeline cfg).run actions).node i).taken.Sublist
      (((pipeline cfg).run actions).node i).generated :=
    ((List.sublist_append_left _ _).trans (List.sublist_append_left _ _)).trans h.samples
  have hfrom := ((hown.map Filtered.sample).trans hsub).trans htaken
  refine ⟨h.numbered, ⟨hown, fun f hf => (hstamped f (hown.subset hf)).taskName⟩, fun f hf => ?_, ?_,
    ⟨h.ran, htaken⟩, h.samples_count, h.values_count⟩
  · have := hstamped f (hown.subset hf)
    exact ⟨hfrom.subset (List.mem_map_of_mem hf), this.value, this.timestamp⟩
  · -- their numbers are some of 0, 1, 2, … in order
    have hnumbers := hfrom.map Sample.number
    rw [h.numbered, List.map_map] at hnumbers
    exact List.pairwise_lt_range.sublist hnumbers

end Aniot.P2
