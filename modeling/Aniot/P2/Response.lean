import Mathlib.Algebra.Group.Nat.Defs
import Aniot.Machine.Response
import Aniot.P2.EndToEnd
import Aniot.P2.ControllerQueues

/-! How long a value waits for the controller, and a sample for its filter task.

A pass of the controller takes one move to select, one for each sensor and one to round off,
and brings the oldest value sent to the output. So whatever the other tasks do in between,
a pass for each value waiting, and what is left of the pass it is in, are enough for all
that had been sent (`values_printed_within`). A filter task whose waits end takes a sample
in every second move (`samples_taken_within`). -/
namespace Aniot.P2
open QueueSet
variable {R : Type} {cfg : Config R}

def Action.isController {n : Nat} : Action n → Bool
  | .controller _ => true
  | _ => false

/-- How far the controller is behind the start of a pass that will print. -/
def ControllerTask.movesLeft {n : Nat} : ControllerTask n → Nat
  | .selecting => 0
  | .visiting readingQueue k =>
    if (ControllerTask.visiting readingQueue k).selected = [] then n - k + 1 else 0

/-- How many moves of a pass that will print it has made. -/
def ControllerTask.movesMade {n : Nat} : ControllerTask n → Nat
  | .selecting => 0
  | .visiting readingQueue k =>
    if (ControllerTask.visiting readingQueue k).selected = [] then 0 else k + 1

/-- How many moves of the controller there are at most before so many values are printed. -/
def State.movesTo (target : Nat) (s : State cfg) : Nat :=
  if target ≤ s.printed.length then 0
  else (target - s.printed.length) * (cfg.numberSensors + 2) + s.controller.movesLeft -
    s.controller.movesMade

/-- How many moves of the controller what was sent still takes. -/
def State.backlog (s : State cfg) : Nat :=
  (s.sent.length - s.printed.length) * (cfg.numberSensors + 2) + s.controller.movesLeft

/-- A queue is selected and its place in the loop not passed. -/
theorem selected_ne_nil {n : Nat} {readingQueue : Option (Fin n)} {k : Nat} :
    (ControllerTask.visiting readingQueue k).selected ≠ [] ↔ ∃ i, readingQueue = some i ∧ k ≤ i.val := by
  cases readingQueue with
  | none => simp [ControllerTask.selected]
  | some i => simp [ControllerTask.selected]

theorem movesMade_le {n : Nat} (c : ControllerTask n) : c.movesMade ≤ n := by
  unfold ControllerTask.movesMade
  split
  · exact Nat.zero_le n
  · split
    · exact Nat.zero_le n
    · next hpending =>
      obtain ⟨i, -, hki⟩ := selected_ne_nil.mp hpending
      exact Nat.lt_of_le_of_lt hki i.isLt

/-- With nothing selected and no handle in the set, all that was sent is printed. -/
theorem printed_of_empty {s : State cfg} (h : SetInv s) (hc : s.controller = .selecting)
    (hempty : s.controllerQueues.items = []) : s.sent = s.printed := by
  obtain ⟨_, outstanding, hsent, hrep⟩ := h
  have hhandles := hrep.handles
  rw [pending, hc, hempty] at hhandles
  rw [hsent, List.map_eq_nil_iff.mp hhandles.symm, List.append_nil]

/-- What a move of the controller does: it has nothing to print, it selects, prints, passes a place
that is not the selected queue's, or rounds off. -/
theorem controllerTask_moves {s : State cfg} (h : SetInv s) (timedOut : Bool) :
    let t := controllerTask timedOut s
    (s.controller = .selecting ∧ s.sent = s.printed ∧ t.printed.length = s.printed.length) ∨
    (∃ i, s.controller = .selecting ∧ t.controller = .visiting (some i) 0 ∧
      t.printed.length = s.printed.length) ∨
    (∃ i : Fin cfg.numberSensors, s.controller = .visiting (some i) i.val ∧
      t.controller = .visiting (some i) (i.val + 1) ∧ t.printed.length = s.printed.length + 1) ∨
    (∃ readingQueue k, s.controller = .visiting readingQueue k ∧ k < cfg.numberSensors ∧
      (∀ h, readingQueue ≠ some ⟨k, h⟩) ∧ t.controller = .visiting readingQueue (k + 1) ∧
      t.printed.length = s.printed.length) ∨
    (∃ readingQueue k, s.controller = .visiting readingQueue k ∧ ¬ k < cfg.numberSensors ∧
      t.controller = .selecting ∧ t.printed.length = s.printed.length) := by
  intro t
  show _ ∨ _
  have ht : t = controllerTask timedOut s := rfl
  clear_value t
  rw [controllerTask] at ht
  cases hc : s.controller with
  | selecting =>
    rw [hc] at ht
    dsimp only at ht
    cases hq : s.controllerQueues.receive with
    | some selected =>
      rw [hq] at ht
      exact .inr (.inl ⟨selected.1, rfl, by rw [ht], by rw [ht]⟩)
    | none =>
      rw [hq] at ht
      refine .inl ⟨rfl, printed_of_empty h hc (Fifo.receive_eq_none.mp hq), ?_⟩
      cases timedOut <;> rw [ht] <;> rfl
  | visiting readingQueue k =>
    rw [hc] at ht
    dsimp only at ht
    by_cases hk : k < cfg.numberSensors
    · rw [dif_pos hk] at ht
      by_cases hsame : readingQueue = some ⟨k, hk⟩
      · rw [if_pos hsame] at ht
        subst hsame
        cases hq : (s.node ⟨k, hk⟩).filterQueue.receive with
        | some taken =>
          rw [hq] at ht
          exact .inr (.inr (.inl ⟨⟨k, hk⟩, rfl, by rw [ht], by rw [ht]; exact List.length_append⟩))
        | none =>
          have hfound := selected_found h (i := ⟨k, hk⟩) (by rw [hc]; simp [ControllerTask.selected])
          exact absurd (Fifo.receive_eq_none.mp hq) hfound
      · rw [if_neg hsame] at ht
        exact .inr (.inr (.inr (.inl ⟨readingQueue, k, rfl, hk, fun _ => hsame, by rw [ht], by rw [ht]⟩)))
    · rw [dif_neg hk] at ht
      exact .inr (.inr (.inr (.inr ⟨readingQueue, k, rfl, hk, by rw [ht], by rw [ht]⟩)))

/-- A move of the controller brings it nearer, until as many values are printed. -/
theorem controllerTask_movesTo {s : State cfg} (h : SetInv s) {target : Nat}
    (htarget : target ≤ s.sent.length) (timedOut : Bool) :
    (controllerTask timedOut s).movesTo target ≤ s.movesTo target - 1 := by
  rw [State.movesTo, State.movesTo]
  rcases controllerTask_moves h timedOut with ⟨hc, hsent, hprinted⟩ | ⟨i, hc, hnext, hprinted⟩ |
    ⟨i, hc, hnext, hprinted⟩ | ⟨readingQueue, k, hc, hk, hne, hnext, hprinted⟩ |
    ⟨readingQueue, k, hc, hk, hnext, hprinted⟩
  · rw [hprinted, if_pos (by rw [← hsent]; exact htarget)]
    exact Nat.zero_le _
  all_goals rw [hprinted, hnext, hc]
  · have hpending : (ControllerTask.visiting (some i) 0).selected ≠ [] :=
      selected_ne_nil.mpr ⟨i, rfl, Nat.zero_le _⟩
    simp only [ControllerTask.movesLeft, ControllerTask.movesMade, if_neg hpending]
    split <;> omega
  · -- one value fewer to print, and the rest of the pass to make
    have hi := i.isLt
    have hbefore : (ControllerTask.visiting (some i) i.val).selected ≠ [] :=
      selected_ne_nil.mpr ⟨i, rfl, Nat.le_refl _⟩
    have hafter : (ControllerTask.visiting (some i) (i.val + 1)).selected = [] := by
      simp [ControllerTask.selected]
    simp only [ControllerTask.movesLeft, ControllerTask.movesMade, if_neg hbefore, if_pos hafter]
    split
    · exact Nat.zero_le _
    · next hmore =>
      obtain ⟨waiting, hwaiting⟩ := Nat.exists_eq_add_of_lt (Nat.lt_of_not_le hmore)
      rw [if_neg (by omega), show target - s.printed.length = waiting + 1 + 1 by omega,
        show target - (s.printed.length + 1) = waiting + 1 by omega, Nat.succ_mul (waiting + 1)]
      omega
  · by_cases hpending : (ControllerTask.visiting readingQueue k).selected = []
    · have hstill : (ControllerTask.visiting readingQueue (k + 1)).selected = [] := by
        by_contra hnot
        obtain ⟨i, hi, hki⟩ := selected_ne_nil.mp hnot
        exact selected_ne_nil.mpr ⟨i, hi, by omega⟩ hpending
      simp only [ControllerTask.movesLeft, ControllerTask.movesMade, if_pos hpending, if_pos hstill]
      split <;> omega
    · have hstill : (ControllerTask.visiting readingQueue (k + 1)).selected ≠ [] := by
        obtain ⟨i, hi, hki⟩ := selected_ne_nil.mp hpending
        refine selected_ne_nil.mpr ⟨i, hi, Nat.lt_of_le_of_ne hki fun he => ?_⟩
        exact hne hk (by rw [hi]; exact congrArg some (Fin.ext he.symm))
      simp only [ControllerTask.movesLeft, ControllerTask.movesMade, if_neg hpending, if_neg hstill]
      split <;> omega
  · have hpassed : (ControllerTask.visiting readingQueue k).selected = [] := by
      by_contra hnot
      obtain ⟨i, hi, hki⟩ := selected_ne_nil.mp hnot
      have := i.isLt
      omega
    simp only [ControllerTask.movesLeft, ControllerTask.movesMade, if_pos hpassed]
    split <;> omega

/-! ### Everything sent is printed -/

/-- The set is consistent, and all of `first` are among the values sent. -/
structure Awaits (first : List (Fin cfg.numberSensors × Filtered R)) (s : State cfg) : Prop where
  set : SetInv s
  sent : first <+: s.sent

section Runs
variable [Zero R] [Add R] [Mul R] [IntCast R]

/-- The other tasks print nothing, leave the controller where it is, and may send. -/
theorem others_sent {s : State cfg} {a : Action cfg.numberSensors} (ha : a.isController = false) :
    s.sent <+: (step s a).sent ∧ (step s a).printed = s.printed ∧
      (step s a).controller = s.controller := by
  cases a with
  | sensor i espRandom now timedOut => exact ⟨List.prefix_rfl, rfl, rfl⟩
  | filter i timedOut =>
    simp only [step]
    split
    · exact ⟨List.prefix_rfl, rfl, rfl⟩
    · next nd f hresult =>
      refine ⟨?_, notify_printed _ _ _, notify_controller _ _ _⟩
      unfold State.notify
      dsimp only
      split <;> exact List.prefix_append _ _
  | controller timedOut => cases ha

omit [Zero R] [Add R] [Mul R] [IntCast R] in
theorem controllerTask_sent (timedOut : Bool) (s : State cfg) :
    (controllerTask timedOut s).sent = s.sent := by
  rcases controllerTask_cases timedOut s with ⟨_, _, _, _, h⟩ | ⟨_, h⟩ | ⟨_, _, _, _, _, _, h⟩ |
    ⟨_, _, _, _, h⟩ | ⟨_, _, _, _, _, h⟩ | ⟨_, _, _, _, _, h⟩ | h <;> rw [h]
  rfl

theorem step_awaits {first : List (Fin cfg.numberSensors × Filtered R)} (s : State cfg)
    (a : Action cfg.numberSensors) (h : Awaits first s) : Awaits first ((pipeline cfg).step s a) := by
  refine ⟨step_set s a h.set, h.sent.trans ?_⟩
  cases ha : a.isController with
  | false => exact (others_sent ha).1
  | true =>
    cases a with
    | controller timedOut => exact (controllerTask_sent timedOut s) ▸ List.prefix_rfl
    | _ => cases ha

theorem step_movesTo {first : List (Fin cfg.numberSensors × Filtered R)} (s : State cfg)
    (a : Action cfg.numberSensors) (h : Awaits first s) :
    ((pipeline cfg).step s a).movesTo first.length ≤
      s.movesTo first.length - if a.isController then 1 else 0 := by
  cases ha : a.isController with
  | false =>
    obtain ⟨-, hprinted, hcontroller⟩ := others_sent (s := s) ha
    show (step s a).movesTo first.length ≤ _
    rw [State.movesTo, State.movesTo, hprinted, hcontroller]
    exact Nat.le_refl _
  | true =>
    cases a with
    | controller timedOut => exact controllerTask_movesTo h.set h.sent.length_le timedOut
    | _ => cases ha

omit [Zero R] [Add R] [Mul R] [IntCast R] in
/-- No more values wait than the filter queues have places. -/
theorem waiting_le {s : State cfg} (h : SetInv s) :
    s.sent.length - s.printed.length ≤ cfg.numElemFilterQueue * cfg.numberSensors := by
  obtain ⟨_, outstanding, hsent, hrep⟩ := h
  have hhandles := congrArg List.length hrep.handles
  rw [List.length_map, hrep.length_eq] at hhandles
  have hsum : ∑ i, (queues s i).length ≤ ∑ _i : Fin cfg.numberSensors, cfg.numElemFilterQueue :=
    Finset.sum_le_sum fun i _ => (s.node i).filterQueue.bound
  rw [Finset.sum_const, Finset.card_univ, Fintype.card_fin, Nat.nsmul_eq_mul, Nat.mul_comm] at hsum
  rw [hsent, List.length_append]
  omega

/-- **Whatever the tasks do in between, once the controller has made as many moves as there are
outstanding it has printed every value sent before them, in the order they were sent; and
outstanding are at most a pass for each place of the filter queues and the pass it is in.** -/
theorem values_printed_within (cfg : Config R) (actions : List (Action cfg.numberSensors)) :
    let s := (pipeline cfg).run actions
    s.backlog ≤ cfg.numElemFilterQueue * cfg.numberSensors * (cfg.numberSensors + 2) +
      (cfg.numberSensors + 1) ∧
    ∀ later : List (Action cfg.numberSensors), s.backlog ≤ later.countP Action.isController →
      s.sent <+: ((pipeline cfg).run (actions ++ later)).printed := by
  intro s
  have hset : SetInv s := pipeline_set actions
  refine ⟨?_, fun later hmoves => ?_⟩
  · have hpasses := Nat.mul_le_mul_right (cfg.numberSensors + 2) (waiting_le hset)
    have hleft : s.controller.movesLeft ≤ cfg.numberSensors + 1 := by
      unfold ControllerTask.movesLeft
      split
      · exact Nat.zero_le _
      · split <;> omega
    exact Nat.add_le_add hpasses hleft
  · have hstart : Awaits s.sent s := ⟨hset, List.prefix_rfl⟩
    have hbacklog : s.movesTo s.sent.length ≤ later.countP Action.isController := by
      refine Nat.le_trans ?_ hmoves
      rw [State.movesTo, State.backlog]
      split <;> omega
    have hlast : Awaits s.sent ((pipeline cfg).runFrom s later) :=
      Machine.runFrom_invariant step_awaits s hstart later
    have hrank : ((pipeline cfg).runFrom s later).movesTo s.sent.length = 0 :=
      Machine.runFrom_rank_zero step_awaits step_movesTo hstart hbacklog
    rw [Machine.run_append]
    show s.sent <+: ((pipeline cfg).runFrom s later).printed
    generalize (pipeline cfg).runFrom s later = t at hlast hrank
    obtain ⟨_, outstanding, hsent, _⟩ := hlast.set
    refine List.prefix_of_prefix_length_le hlast.sent ⟨outstanding, hsent.symm⟩ ?_
    rw [State.movesTo] at hrank
    split at hrank
    · next hdone => exact hdone
    · next hmore =>
      -- a pass that will print has not been made whole
      obtain ⟨waiting, hwaiting⟩ := Nat.exists_eq_add_of_lt (Nat.lt_of_not_le hmore)
      have hmade := movesMade_le t.controller
      rw [show s.sent.length - t.printed.length = waiting + 1 by omega, Nat.succ_mul] at hrank
      omega

/-! ### Every sample queued is taken -/

/-- A move of filter task `i` whose wait is over. -/
def Action.isFilter {n : Nat} (i : Fin n) : Action n → Bool
  | .filter j timedOut => j = i && timedOut
  | _ => false

/-- How many such moves there are at most before so many samples are taken. -/
def Node.movesTo (target : Nat) (nd : Node cfg) : Nat :=
  if target ≤ nd.taken.length then 0
  else 2 * (target - nd.taken.length) - 1 + nd.filter.held.length

/-- What the filter task has taken and what waits for it, in order. -/
def Node.offered (nd : Node cfg) : List Sample := nd.taken ++ nd.sensorQueue.items

/-- A move of the filter task takes nothing out of order, and brings it nearer when its wait is over. -/
theorem filterTask_movesTo {i : Fin cfg.numberSensors} {received : List (Filtered R)} {nd : Node cfg}
    (h : NodeInv cfg i received nd) {target : Nat} (htarget : target ≤ nd.offered.length)
    (timedOut : Bool) :
    (filterTask i timedOut nd).1.offered = nd.offered ∧
    (filterTask i timedOut nd).1.movesTo target ≤ nd.movesTo target - if timedOut then 1 else 0 := by
  rw [Node.offered, List.length_append] at htarget
  unfold filterTask
  cases hf : nd.filter with
  | fault => exact absurd hf h.running
  | receiving =>
    dsimp only
    cases hq : nd.sensorQueue.receive with
    | none =>
      rw [Fifo.receive_eq_none.mp hq, List.length_nil, Nat.add_zero] at htarget
      refine ⟨rfl, ?_⟩
      rw [Node.movesTo, if_pos htarget]
      exact Nat.zero_le _
    | some taken =>
      obtain ⟨s, q⟩ := taken
      have hitems : nd.sensorQueue.items = s :: q.items := Fifo.receive_eq_some.mp hq
      obtain ⟨v, out, hs⟩ := filterSample_total (filterTaskName i) nd.filterCount s h.window
      simp only [hs]
      refine ⟨by simp [Node.offered, hitems], ?_⟩
      simp only [Node.movesTo, List.length_append, List.length_singleton, hf, FilterTask.held, List.length_nil]
      cases out <;> cases timedOut <;>
        simp only [List.length_nil, List.length_singleton, if_true, Bool.false_eq_true, if_false] <;>
        split <;> split <;> omega
  | sending f =>
    dsimp only
    cases hq : nd.filterQueue.send f with
    | some q =>
      refine ⟨rfl, ?_⟩
      simp only [Node.movesTo, hf, FilterTask.held, List.length_nil, List.length_singleton]
      cases timedOut <;> simp only [if_true, Bool.false_eq_true, if_false] <;> split <;> omega
    | none =>
      cases timedOut with
      | true =>
        refine ⟨rfl, ?_⟩
        simp only [Node.movesTo, hf, FilterTask.held, List.length_nil, List.length_singleton, if_true]
        split <;> omega
      | false =>
        refine ⟨rfl, ?_⟩
        simp only [Node.movesTo, hf, Bool.false_eq_true, if_false]
        exact Nat.le_refl _

omit [Zero R] [Add R] [Mul R] [IntCast R] in
/-- A sensor task offers at the back, or nothing, and leaves its filter task alone. -/
theorem sensorTask_offered (espRandom : BitVec 32) (now : Int) (timedOut : Bool) (nd : Node cfg) :
    nd.offered <+: (sensorTask espRandom now timedOut nd).offered ∧
    ∀ target, (sensorTask espRandom now timedOut nd).movesTo target = nd.movesTo target := by
  rcases sensorTask_cases espRandom now timedOut nd with
    ⟨s, _, _, hnext⟩ | ⟨s, q, _, hq, hnext⟩ | ⟨s, _, hnext⟩ | hnext <;> rw [hnext]
  · exact ⟨List.prefix_rfl, fun _ => rfl⟩
  · refine ⟨?_, fun _ => rfl⟩
    rw [Node.offered, Node.offered, hq, ← List.append_assoc]
    exact List.prefix_append _ _
  · exact ⟨List.prefix_rfl, fun _ => rfl⟩
  · exact ⟨List.prefix_rfl, fun _ => rfl⟩

omit [Zero R] [Add R] [Mul R] [IntCast R] in
/-- The controller leaves a node's samples and its filter task alone. -/
theorem controllerTask_offered (timedOut : Bool) (s : State cfg) (i : Fin cfg.numberSensors) :
    ((controllerTask timedOut s).node i).offered = (s.node i).offered ∧
    ∀ target, ((controllerTask timedOut s).node i).movesTo target = (s.node i).movesTo target := by
  rcases controllerTask_cases timedOut s with ⟨_, _, _, _, hnext⟩ | ⟨_, hnext⟩ |
    ⟨k, hk, f, q, _, _, hnext⟩ | ⟨_, _, _, _, hnext⟩ | ⟨_, _, _, _, _, hnext⟩ |
    ⟨_, _, _, _, _, hnext⟩ | hnext <;> rw [hnext]
  case inr.inr.inl =>
    by_cases hi : i = ⟨k, hk⟩
    · subst hi
      simp [State.setNode, Node.offered, Node.movesTo]
    · simp [State.setNode, Function.update_of_ne hi]
  all_goals exact ⟨rfl, fun _ => rfl⟩

/-- One step: what was offered stays so, and each move that counts brings the filter task nearer. -/
theorem step_offered {s : State cfg} (h : AllNodes s) (a : Action cfg.numberSensors)
    (i : Fin cfg.numberSensors) {target : Nat} (htarget : target ≤ (s.node i).offered.length) :
    (s.node i).offered <+: ((step s a).node i).offered ∧
    ((step s a).node i).movesTo target ≤ (s.node i).movesTo target - if a.isFilter i then 1 else 0 := by
  cases a with
  | sensor j espRandom now timedOut =>
    simp only [step, Action.isFilter, Bool.false_eq_true, if_false]
    by_cases hj : i = j
    · subst hj
      obtain ⟨hoffered, hmoves⟩ := sensorTask_offered espRandom now timedOut (s.node i)
      simp only [State.setNode, Function.update_self, hmoves]
      exact ⟨hoffered, Nat.le_refl _⟩
    · simp only [State.setNode, Function.update_of_ne hj]
      exact ⟨List.prefix_rfl, Nat.le_refl _⟩
  | controller timedOut =>
    obtain ⟨hoffered, hmoves⟩ := controllerTask_offered timedOut s i
    simp only [step, Action.isFilter, Bool.false_eq_true, if_false]
    rw [hoffered, hmoves]
    exact ⟨List.prefix_rfl, Nat.le_refl _⟩
  | filter j timedOut =>
    have hnode : (step s (.filter j timedOut)).node =
        Function.update s.node j (filterTask j timedOut (s.node j)).1 := by
      simp only [step]
      split
      · next hresult => rw [hresult]; rfl
      · next hresult => rw [hresult, notify_node]; rfl
    rw [hnode]
    by_cases hj : i = j
    · subst hj
      obtain ⟨hoffered, hmoves⟩ := filterTask_movesTo (h i) htarget timedOut
      rw [Function.update_self, hoffered]
      refine ⟨List.prefix_rfl, ?_⟩
      simpa [Action.isFilter] using hmoves
    · rw [Function.update_of_ne hj]
      simp only [Action.isFilter, decide_eq_false (Ne.symm hj), Bool.false_and, Bool.false_eq_true, if_false]
      exact ⟨List.prefix_rfl, Nat.le_refl _⟩

/-- **Whatever the tasks do in between, two moves of a filter task whose waits are over for each
sample in its queue are enough for it to have taken them all, in order, after those it had
taken before.** -/
theorem samples_taken_within (cfg : Config R) (actions : List (Action cfg.numberSensors))
    (i : Fin cfg.numberSensors) :
    let nd := ((pipeline cfg).run actions).node i
    ∀ later : List (Action cfg.numberSensors),
      2 * nd.sensorQueue.items.length ≤ later.countP (Action.isFilter i) →
      nd.taken ++ nd.sensorQueue.items <+: (((pipeline cfg).run (actions ++ later)).node i).taken := by
  intro nd later hmoves
  let Inv (s : State cfg) : Prop := AllNodes s ∧ nd.offered <+: (s.node i).offered
  let rank (s : State cfg) : Nat := (s.node i).movesTo nd.offered.length
  have hstart : Inv ((pipeline cfg).run actions) := ⟨pipeline_inv actions, List.prefix_rfl⟩
  have hinv (s : State cfg) (a : Action cfg.numberSensors) (h : Inv s) : Inv ((pipeline cfg).step s a) :=
    ⟨step_inv s a h.1, h.2.trans (step_offered h.1 a i (Nat.le_refl _)).1⟩
  have hstep (s : State cfg) (a : Action cfg.numberSensors) (h : Inv s) :
      rank ((pipeline cfg).step s a) ≤ rank s - if a.isFilter i then 1 else 0 :=
    (step_offered h.1 a i h.2.length_le).2
  have hcount : rank ((pipeline cfg).run actions) ≤ later.countP (Action.isFilter i) := by
    show nd.movesTo nd.offered.length ≤ _
    have hheld : nd.filter.held.length ≤ 1 := by
      cases nd.filter <;> simp [FilterTask.held]
    rw [Node.movesTo, Node.offered, List.length_append]
    split <;> omega
  have hrank : rank ((pipeline cfg).runFrom ((pipeline cfg).run actions) later) = 0 :=
    Machine.runFrom_rank_zero hinv hstep hstart hcount
  have hlast : Inv ((pipeline cfg).runFrom ((pipeline cfg).run actions) later) :=
    Machine.runFrom_invariant hinv _ hstart later
  rw [Machine.run_append]
  generalize (pipeline cfg).runFrom ((pipeline cfg).run actions) later = t at hrank hlast
  refine List.prefix_of_prefix_length_le hlast.2 (List.prefix_append _ _) ?_
  simp only [rank, Node.movesTo] at hrank
  split at hrank
  · next hdone => exact hdone
  · omega

end Runs

end Aniot.P2
