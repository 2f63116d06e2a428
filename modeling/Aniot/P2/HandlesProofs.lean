import Aniot.P2.Handles

/-! What `p2/src/main.c` survives of failed queue creations.

The test in `app_main` guards the tasks of a sensor, so no send is given NULL and a
sensor that lacks a queue takes no part, whatever fails (`run_sound`). It guards neither
`xQueueAddToSet` nor the controller, to which a select that timed out and a filter queue
that was not created look the same: only sensor queues may fail (`survives_iff`). -/
namespace Aniot.P2.Handles
open Boot (Created Answer)

/-! ### Whose handles are whose -/

/-- The set and every filter queue were created. -/
def Complete (numberSensors : Nat) (created : Created) : Prop :=
  created.controllerQueues = true ∧ ∀ i < numberSensors, created.filterQueue i = true

/-- How many filter queues `app_main` has created, or tried to. -/
def AppMain.rounds (numberSensors : Nat) : AppMain → Nat
  | .createSet => 0
  | .createSensorQueue i => i
  | .createFilterQueue i => i
  | .addToSet i => i + 1
  | .testHandles i => i + 1
  | .createSensorTask i => i + 1
  | .createFilterTask i => i + 1
  | .createController => numberSensors
  | .returned => numberSensors

/-- The round of the loop `app_main` is in. -/
def AppMain.round : AppMain → Option Nat
  | .createSensorQueue i => some i
  | .createFilterQueue i => some i
  | .addToSet i => some i
  | .testHandles i => some i
  | .createSensorTask i => some i
  | .createFilterTask i => some i
  | _ => none

/-- The round whose record has been written and whose tasks are being created. -/
def AppMain.creating : AppMain → Option Nat
  | .createSensorTask i => some i
  | .createFilterTask i => some i
  | _ => none

/-- A queue of a sensor that has both. -/
def Owned (created : Created) (q : Queue) : Prop :=
  ∃ i, Served created i ∧ (q = .sensorQueue i ∨ q = .filterQueue i)

/-- The handles of sensor `i`. -/
def ownHandles (i : Nat) : Handle × Handle := (some (.sensorQueue i), some (.filterQueue i))

/-- A filter task's copies of its handles. -/
def FilterTask.handles : FilterTask → Option (Handle × Handle)
  | .entry => none
  | .receiving sensorQueue filterQueue => some (sensorQueue, filterQueue)
  | .sending sensorQueue filterQueue => some (sensorQueue, filterQueue)

/-- What holds of every call, and of every call when nothing it needs is missing. -/
structure Proper (numberSensors : Nat) (created : Created) (c : Call) : Prop where
  traffic : ∀ q, some q ∈ c.traffic → Owned created q
  sent : c ≠ .sendToBack none
  handles : Complete numberSensors created → none ∉ c.handles

/-- Round `i` has found both handles, and they are in the sensor's record. -/
def Recorded (created : Created) (s : State) (i : Nat) : Prop :=
  Served created i ∧ s.sensors i = ownHandles i

structure Sound (numberSensors : Nat) (created : Created) (s : State) : Prop where
  set : s.appMain ≠ .createSet → s.controllerQueues = setHandle created
  loop : ∀ i, s.appMain.round = some i → i < numberSensors
  rounds : ∀ i < s.appMain.rounds numberSensors, s.filterQueues i = filterHandle created i
  sensorQueues : ∀ i q, s.sensorQueues i = some q → q = .sensorQueue i ∧ created.sensorQueue i = true
  filterQueues : ∀ i q, s.filterQueues i = some q → q = .filterQueue i ∧ created.filterQueue i = true
  creating : ∀ i, s.appMain.creating = some i → Recorded created s i
  launched : ∀ i, s.sensorTask i ≠ none ∨ s.filterTask i ≠ none → Recorded created s i
  sensorTask : ∀ i queue, s.sensorTask i = some (.sending queue) → queue = some (.sensorQueue i)
  filterTask : ∀ i task handles, s.filterTask i = some task → task.handles = some handles →
    handles = ownHandles i
  controller : s.controller ≠ none → s.appMain = .returned
  pending : ∀ q ∈ s.pending, Owned created q
  reading : ∀ q i, s.controller = some (.visiting (some q) i) → Owned created q
  calls : ∀ c ∈ s.calls, Proper numberSensors created c

variable {numberSensors : Nat} {created : Created}

theorem calls_concat {calls : List Call} {c : Call} (h : ∀ c ∈ calls, Proper numberSensors created c)
    (hc : Proper numberSensors created c) : ∀ c' ∈ calls ++ [c], Proper numberSensors created c' := by
  intro c' hc'
  rcases List.mem_append.mp hc' with hc' | hc'
  · exact h c' hc'
  · rw [List.mem_singleton.mp hc']
    exact hc

theorem nextRound_rounds (i : Nat) : (nextRound numberSensors i).rounds numberSensors ≤ i := by
  unfold nextRound
  split
  · exact Nat.le_refl i
  · next hi => exact Nat.le_of_not_lt hi

theorem nextRound_round (i j : Nat) (h : (nextRound numberSensors i).round = some j) :
    j < numberSensors := by
  unfold nextRound at h
  split at h
  · next hi => exact Option.some.inj h ▸ hi
  · cases h

theorem nextRound_creating (numberSensors i : Nat) : (nextRound numberSensors i).creating = none := by
  unfold nextRound
  split <;> rfl

theorem setHandle_ne_none (h : created.controllerQueues = true) : setHandle created ≠ none := by
  rw [setHandle, if_pos h]
  nofun

theorem filterHandle_ne_none {i : Nat} (h : created.filterQueue i = true) :
    filterHandle created i ≠ none := by
  rw [filterHandle, if_pos h]
  nofun

/-! ### What `app_main` does -/

/-- Another statement's turn, before the controller is there. -/
theorem sound_appMain {s : State} {m : AppMain} (h : Sound numberSensors created s)
    (hset : s.controllerQueues = setHandle created)
    (hloop : ∀ i, m.round = some i → i < numberSensors)
    (hrounds : ∀ i < m.rounds numberSensors, s.filterQueues i = filterHandle created i)
    (hcreating : ∀ i, m.creating = some i → Recorded created s i)
    (hlater : s.appMain ≠ .returned) : Sound numberSensors created {s with appMain := m} :=
  { h with
    set := fun _ => hset
    loop := hloop
    rounds := hrounds
    creating := hcreating
    controller := fun hc => absurd (h.controller hc) hlater }

theorem sound_nextRound {s : State} {i : Nat} (h : Sound numberSensors created s)
    (hset : s.controllerQueues = setHandle created)
    (hrounds : ∀ j < i, s.filterQueues j = filterHandle created j) (hlater : s.appMain ≠ .returned) :
    Sound numberSensors created {s with appMain := nextRound numberSensors i} := by
  apply sound_appMain h hset (nextRound_round i) _ _ hlater
  · exact fun j hj => hrounds j (Nat.lt_of_lt_of_le hj (nextRound_rounds i))
  · intro j hj
    rw [nextRound_creating] at hj
    cases hj

theorem createSensorQueue_update {s : State} (i : Nat) (h : Sound numberSensors created s) :
    Sound numberSensors created
      {s with sensorQueues := Function.update s.sensorQueues i (sensorHandle created i)} := by
  refine {h with sensorQueues := fun j q hq => ?_}
  dsimp only at hq
  by_cases hji : j = i
  · subst hji
    rw [Function.update_self, sensorHandle] at hq
    split at hq
    · next hc => exact ⟨(Option.some.inj hq).symm, hc⟩
    · cases hq
  · rw [Function.update_of_ne hji] at hq
    exact h.sensorQueues j q hq

theorem createFilterQueue_update {s : State} (i : Nat) (h : Sound numberSensors created s) :
    Sound numberSensors created
      {s with filterQueues := Function.update s.filterQueues i (filterHandle created i)} := by
  refine {h with rounds := fun j hj => ?_, filterQueues := fun j q hq => ?_}
  · dsimp only
    by_cases hji : j = i
    · rw [hji, Function.update_self]
    · rw [Function.update_of_ne hji]
      exact h.rounds j hj
  · dsimp only at hq
    by_cases hji : j = i
    · subst hji
      rw [Function.update_self, filterHandle] at hq
      split at hq
      · next hc => exact ⟨(Option.some.inj hq).symm, hc⟩
      · cases hq
    · rw [Function.update_of_ne hji] at hq
      exact h.filterQueues j q hq

theorem xQueueAddToSet_sound {s : State} {queue set : Handle} (h : Sound numberSensors created s)
    (hcall : Proper numberSensors created (.addToSet queue set)) :
    Sound numberSensors created (xQueueAddToSet queue set s) := by
  have hnoted : Sound numberSensors created (s.call (.addToSet queue set)) :=
    {h with calls := calls_concat h.calls hcall}
  unfold xQueueAddToSet
  dsimp only
  split
  · exact {hnoted with}
  · exact hnoted

/-- When nothing is missing, `xQueueAddToSet` is given a queue and a set. -/
theorem addToSet_proper {s : State} {i : Nat} (h : Sound numberSensors created s)
    (hm : s.appMain = .addToSet i) :
    Proper numberSensors created (.addToSet (s.filterQueues i) s.controllerQueues) := by
  refine ⟨nofun, nofun, fun hcomplete => ?_⟩
  have hi := h.loop i (by rw [hm]; rfl)
  have hset := setHandle_ne_none hcomplete.1
  have hfilter := filterHandle_ne_none (hcomplete.2 i hi)
  rw [h.set (by rw [hm]; nofun), h.rounds i (by rw [hm]; exact Nat.lt_succ_self i)]
  simp [Call.handles, hset.symm, hfilter.symm]

/-- Handles that are both there are the sensor's own. -/
theorem handles_recorded {s : State} {i : Nat} (h : Sound numberSensors created s)
    (hboth : s.sensorQueues i ≠ none ∧ s.filterQueues i ≠ none) :
    Served created i ∧ (s.sensorQueues i, s.filterQueues i) = ownHandles i := by
  obtain ⟨sensorQueue, hsensor⟩ := Option.ne_none_iff_exists'.mp hboth.1
  obtain ⟨filterQueue, hfilter⟩ := Option.ne_none_iff_exists'.mp hboth.2
  obtain ⟨rfl, hs⟩ := h.sensorQueues i sensorQueue hsensor
  obtain ⟨rfl, hf⟩ := h.filterQueues i filterQueue hfilter
  exact ⟨⟨hs, hf⟩, by rw [hsensor, hfilter, ownHandles]⟩

/-- A record written again is written with the same handles. -/
theorem recorded_update {s : State} {i j : Nat} (h : Sound numberSensors created s)
    (hboth : s.sensorQueues i ≠ none ∧ s.filterQueues i ≠ none)
    (hj : j = i ∨ Recorded created s j) :
    Recorded created
      {s with sensors := Function.update s.sensors i (s.sensorQueues i, s.filterQueues i)} j := by
  obtain ⟨hserved, hown⟩ := handles_recorded h hboth
  unfold Recorded
  dsimp only
  by_cases hji : j = i
  · subst hji
    rw [Function.update_self]
    exact ⟨hserved, hown⟩
  · rw [Function.update_of_ne hji]
    exact hj.resolve_left hji

theorem sensors_update {s : State} {i : Nat} (h : Sound numberSensors created s)
    (hboth : s.sensorQueues i ≠ none ∧ s.filterQueues i ≠ none) :
    Sound numberSensors created
      {s with sensors := Function.update s.sensors i (s.sensorQueues i, s.filterQueues i)} :=
  { h with
    creating := fun j hj => recorded_update h hboth (.inr (h.creating j hj))
    launched := fun j hj => recorded_update h hboth (.inr (h.launched j hj)) }

/-- A sensor whose handles are recorded gets on with its own queue. -/
theorem sensorTask_update {s : State} {i : Nat} {task : SensorTask}
    (h : Sound numberSensors created s) (hrecord : Recorded created s i)
    (htask : ∀ queue, task = .sending queue → queue = some (.sensorQueue i)) :
    Sound numberSensors created {s with sensorTask := Function.update s.sensorTask i (some task)} :=
  { h with
    launched := fun j hj => by
      by_cases hji : j = i
      · rw [hji]
        exact hrecord
      · apply h.launched j
        simpa [Function.update_of_ne hji] using hj
    sensorTask := fun j queue hq => by
      by_cases hji : j = i
      · subst hji
        exact htask queue (by simpa using hq)
      · apply h.sensorTask j
        simpa [Function.update_of_ne hji] using hq }

/-- Its filter task gets on with its two. -/
theorem filterTask_update {s : State} {i : Nat} {task : FilterTask}
    (h : Sound numberSensors created s) (hrecord : Recorded created s i)
    (htask : ∀ handles, task.handles = some handles → handles = ownHandles i) :
    Sound numberSensors created {s with filterTask := Function.update s.filterTask i (some task)} :=
  { h with
    launched := fun j hj => by
      by_cases hji : j = i
      · rw [hji]
        exact hrecord
      · apply h.launched j
        simpa [Function.update_of_ne hji] using hj
    filterTask := fun j task' handles ht hhandles => by
      dsimp only at ht
      by_cases hji : j = i
      · subst hji
        rw [Function.update_self] at ht
        exact htask handles (Option.some.inj ht ▸ hhandles)
      · rw [Function.update_of_ne hji] at ht
        exact h.filterTask j task' handles ht hhandles }

theorem appMain_sound {s : State} (h : Sound numberSensors created s) :
    Sound numberSensors created (appMain numberSensors created s) := by
  unfold appMain
  split
  case h_1 hm =>
    have hcreates : Sound numberSensors created {s with controllerQueues := setHandle created} :=
      {h with set := fun _ => rfl}
    exact sound_nextRound hcreates rfl (fun j hj => absurd hj (Nat.not_lt_zero j)) (by rw [hm]; nofun)
  case h_2 i hm =>
    apply sound_appMain (m := .createFilterQueue i) (createSensorQueue_update i h) (h.set (by rw [hm]; nofun)) _ _ nofun
      (by rw [hm]; nofun)
    · exact fun j hj => h.loop j (by rw [hm]; exact hj)
    · exact fun j hj => h.rounds j (by rw [hm]; exact hj)
  case h_3 i hm =>
    apply sound_appMain (m := .addToSet i) (createFilterQueue_update i h) (h.set (by rw [hm]; nofun)) _ _ nofun
      (by rw [hm]; nofun)
    · exact fun j hj => h.loop j (by rw [hm]; exact hj)
    · intro j hj
      dsimp only
      by_cases hji : j = i
      · rw [hji, Function.update_self]
      · rw [Function.update_of_ne hji]
        have hlt : j < i := Nat.lt_of_le_of_ne (Nat.le_of_lt_succ hj) hji
        exact h.rounds j (by rw [hm]; exact hlt)
  case h_4 i hm =>
    apply xQueueAddToSet_sound _ (addToSet_proper h hm)
    apply sound_appMain (m := .testHandles i) h (h.set (by rw [hm]; nofun)) _ _ nofun (by rw [hm]; nofun)
    · exact fun j hj => h.loop j (by rw [hm]; exact hj)
    · exact fun j hj => h.rounds j (by rw [hm]; exact hj)
  case h_5 i hm =>
    have hset := h.set (by rw [hm]; nofun)
    have hrounds : ∀ j < i + 1, s.filterQueues j = filterHandle created j :=
      fun j hj => h.rounds j (by rw [hm]; exact hj)
    split
    · next hboth =>
      apply sound_appMain (m := .createSensorTask i) (sensors_update h hboth) hset _ hrounds _
        (by rw [hm]; nofun)
      · exact fun j hj => h.loop j (by rw [hm]; exact hj)
      · exact fun j hj => recorded_update h hboth (.inl (Option.some.inj hj).symm)
    · exact sound_nextRound h hset hrounds (by rw [hm]; nofun)
  case h_6 i hm =>
    have hrecord : Recorded created s i := h.creating i (by rw [hm]; rfl)
    have hnext : Sound numberSensors created {s with appMain := .createFilterTask i} := by
      apply sound_appMain h (h.set (by rw [hm]; nofun)) _ _ _ (by rw [hm]; nofun)
      · exact fun j hj => h.loop j (by rw [hm]; exact hj)
      · exact fun j hj => h.rounds j (by rw [hm]; exact hj)
      · exact fun j hj => h.creating j (by rw [hm]; exact hj)
    exact sensorTask_update hnext hrecord nofun
  case h_7 i hm =>
    have hrecord : Recorded created s i := h.creating i (by rw [hm]; rfl)
    have hnext : Sound numberSensors created {s with appMain := nextRound numberSensors (i + 1)} :=
      sound_nextRound h (h.set (by rw [hm]; nofun)) (fun j hj => h.rounds j (by rw [hm]; exact hj))
        (by rw [hm]; nofun)
    exact filterTask_update hnext hrecord nofun
  case h_8 hm =>
    have hnext : Sound numberSensors created {s with appMain := .returned} := by
      apply sound_appMain (m := .returned) h (h.set (by rw [hm]; nofun)) nofun _ nofun (by rw [hm]; nofun)
      exact fun j hj => h.rounds j (by rw [hm]; exact hj)
    exact {hnext with controller := fun _ => rfl, reading := nofun}
  case h_9 hm => exact h

/-! ### What the tasks do -/

theorem sensorTask_sound {s : State} (i : Nat) (h : Sound numberSensors created s) :
    Sound numberSensors created (sensorTask i s) := by
  unfold sensorTask
  split
  · exact h
  · next ht =>
    have hrecord := h.launched i (.inl (by rw [ht]; nofun))
    apply sensorTask_update h hrecord
    intro queue hq
    rw [← SensorTask.sending.inj hq, hrecord.2, ownHandles]
  · next queue ht =>
    have hrecord := h.launched i (.inl (by rw [ht]; nofun))
    have hqueue := h.sensorTask i queue ht
    have hcall : Proper numberSensors created (.sendToBack queue) := by
      rw [hqueue]
      refine ⟨fun q hq => ⟨i, hrecord.1, .inl ?_⟩, nofun, fun _ => by simp [Call.handles]⟩
      exact Option.some.inj (List.mem_singleton.mp hq)
    exact {h with calls := calls_concat h.calls hcall}

/-- The handle a send puts in the set is that of the queue it was sent to. -/
theorem notify_sound {s : State} {queue : Handle} (h : Sound numberSensors created s)
    (hqueue : ∀ q, queue = some q → Owned created q) : Sound numberSensors created (s.notify queue) := by
  unfold State.notify
  split
  · next q =>
    split
    · refine {h with pending := fun q' hq' => ?_}
      rcases List.mem_append.mp hq' with hq' | hq'
      · exact h.pending q' hq'
      · rw [List.mem_singleton.mp hq']
        exact hqueue q rfl
    · exact h
  · exact h

theorem filterTask_sound {s : State} (i : Nat) (answer : Answer) (h : Sound numberSensors created s) :
    Sound numberSensors created (filterTask i answer s) := by
  unfold filterTask
  split
  · exact h
  · next ht =>
    have hrecord := h.launched i (.inr (by rw [ht]; nofun))
    apply filterTask_update h hrecord
    exact fun handles hhandles => (Option.some.inj hhandles).symm.trans hrecord.2
  · next sensorQueue filterQueue ht =>
    have hrecord := h.launched i (.inr (by rw [ht]; nofun))
    have hown := h.filterTask i _ (sensorQueue, filterQueue) ht rfl
    have hqueue : sensorQueue = some (.sensorQueue i) := congrArg Prod.fst hown
    have hcall : Proper numberSensors created (.receive sensorQueue) := by
      rw [hqueue]
      refine ⟨fun q hq => ⟨i, hrecord.1, .inl ?_⟩, nofun, fun _ => by simp [Call.handles]⟩
      exact Option.some.inj (List.mem_singleton.mp hq)
    have hnoted : Sound numberSensors created (s.call (.receive sensorQueue)) :=
      {h with calls := calls_concat h.calls hcall}
    dsimp only
    split
    · apply filterTask_update hnoted hrecord
      exact fun handles hhandles => (Option.some.inj hhandles).symm.trans hown
    · exact hnoted
  · next sensorQueue filterQueue ht =>
    have hrecord := h.launched i (.inr (by rw [ht]; nofun))
    have hown := h.filterTask i _ (sensorQueue, filterQueue) ht rfl
    have hqueue : filterQueue = some (.filterQueue i) := congrArg Prod.snd hown
    have howned : ∀ q, filterQueue = some q → Owned created q :=
      fun q hq => ⟨i, hrecord.1, .inr (Option.some.inj (hqueue.symm.trans hq)).symm⟩
    have hcall : Proper numberSensors created (.sendToBack filterQueue) := by
      refine ⟨fun q hq => howned q (List.mem_singleton.mp hq).symm, ?_, fun _ => ?_⟩
      · rw [hqueue]
        nofun
      · simp [Call.handles, hqueue]
    have hnoted : Sound numberSensors created (s.call (.sendToBack filterQueue)) :=
      {h with calls := calls_concat h.calls hcall}
    have hsent : Sound numberSensors created {s.call (.sendToBack filterQueue) with
        filterTask := Function.update s.filterTask i (some (.receiving sensorQueue filterQueue))} := by
      apply filterTask_update hnoted hrecord
      exact fun handles hhandles => (Option.some.inj hhandles).symm.trans hown
    dsimp only
    split
    · exact notify_sound hsent howned
    · exact hsent

theorem selectFromSet_proper {s : State} (h : Sound numberSensors created s) (hc : s.controller ≠ none) :
    Proper numberSensors created (.selectFromSet s.controllerQueues) := by
  refine ⟨nofun, nofun, fun hcomplete => ?_⟩
  rw [h.set (by rw [h.controller hc]; nofun)]
  simpa [Call.handles] using (setHandle_ne_none hcomplete.1).symm

theorem controllerTask_sound {s : State} (timedOut : Bool) (h : Sound numberSensors created s) :
    Sound numberSensors created (controllerTask numberSensors timedOut s) := by
  unfold controllerTask
  split
  · exact h
  · next hc =>
    have hstarted : s.controller ≠ none := by rw [hc]; nofun
    have hcalls := calls_concat h.calls (selectFromSet_proper h hstarted)
    split
    · next q pending hp =>
      have howned := h.pending
      rw [hp] at howned
      exact
        { h with
          controller := fun _ => h.controller hstarted
          pending := fun q' hq' => howned q' (List.mem_cons_of_mem q hq')
          reading := fun q' i hr => by
            cases hr
            exact howned q List.mem_cons_self
          calls := hcalls }
    · split
      · exact {h with controller := fun _ => h.controller hstarted, reading := nofun, calls := hcalls}
      · exact h
  · next readingQueue i hc =>
    have hreturned : s.appMain = .returned := h.controller (by rw [hc]; nofun)
    split
    · next hi =>
      have hnext (t : State) (ht : Sound numberSensors created t) (hm : t.appMain = .returned)
          (hr : t.controller = some (.visiting readingQueue i)) :
          Sound numberSensors created
            {t with controller := some (.visiting readingQueue (i + 1))} :=
        { ht with
          controller := fun _ => hm
          reading := fun q j hq => by
            cases hq
            exact ht.reading q i hr }
      dsimp only
      split
      · next hsame =>
        -- the controller reads from the handle it compared, whatever that was
        have hcall : Proper numberSensors created (.receive readingQueue) := by
          refine ⟨fun q hq => ?_, nofun, fun hcomplete => ?_⟩
          · rw [← List.mem_singleton.mp hq] at hc
            exact h.reading q i hc
          · rw [hsame, h.rounds i (by rw [hreturned]; exact hi)]
            simpa [Call.handles] using (filterHandle_ne_none (hcomplete.2 i hi)).symm
        exact hnext _ {h with calls := calls_concat h.calls hcall} hreturned hc
      · exact hnext s h hreturned hc
    · exact {h with controller := fun _ => hreturned, reading := nofun}

variable (numberSensors created)

theorem run_sound (actions : List Action) :
    Sound numberSensors created ((program numberSensors created).run actions) := by
  apply Machine.run_invariant
  · refine ⟨fun h => absurd rfl h, nofun, nofun, nofun, nofun, nofun, ?_, nofun, nofun,
      fun h => absurd rfl h, nofun, nofun, nofun⟩
    · rintro i (h | h) <;> exact absurd rfl h
  · intro s a h
    cases a with
    | appMain => exact appMain_sound h
    | sensorTask i => exact sensorTask_sound i h
    | filterTask i answer => exact filterTask_sound i answer h
    | controllerTask timedOut => exact controllerTask_sound timedOut h

/-- The test in `app_main` keeps NULL from every send, whichever creations fail. -/
theorem sends_not_null (actions : List Action) :
    .sendToBack none ∉ ((program numberSensors created).run actions).calls :=
  fun h => ((run_sound numberSensors created actions).calls _ h).sent rfl

/-! ### Where NULL gets in -/

theorem xQueueAddToSet_frame (queue set : Handle) (s : State) :
    (xQueueAddToSet queue set s).appMain = s.appMain ∧
      (xQueueAddToSet queue set s).calls = s.calls ++ [.addToSet queue set] := by
  unfold xQueueAddToSet
  dsimp only
  split <;> exact ⟨rfl, rfl⟩

theorem round_begins {s : State} {i : Nat} (hm : s.appMain = .createSensorQueue i) :
    ((program numberSensors created).runFrom s [.appMain, .appMain]).appMain = .addToSet i := by
  simp [program, step, appMain, hm]

theorem round_ends {s : State} {i : Nat} (hm : s.appMain = .createSensorQueue i) : ∃ actions,
    ((program numberSensors created).runFrom s actions).appMain = nextRound numberSensors (i + 1) := by
  have hadd := round_begins numberSensors created hm
  have htest : (appMain numberSensors created
      ((program numberSensors created).runFrom s [.appMain, .appMain])).appMain = .testHandles i := by
    rw [appMain, hadd]
    exact (xQueueAddToSet_frame _ _ _).1
  generalize ht : appMain numberSensors created
    ((program numberSensors created).runFrom s [.appMain, .appMain]) = t at htest
  by_cases hcreated : t.sensorQueues i ≠ none ∧ t.filterQueues i ≠ none
  · refine ⟨List.replicate 6 .appMain, ?_⟩
    show (appMain numberSensors created (appMain numberSensors created (appMain numberSensors created
      (appMain numberSensors created
        ((program numberSensors created).runFrom s [.appMain, .appMain]))))).appMain = _
    rw [ht]
    simp [appMain, htest, hcreated]
  · refine ⟨List.replicate 4 .appMain, ?_⟩
    show (appMain numberSensors created (appMain numberSensors created
      ((program numberSensors created).runFrom s [.appMain, .appMain]))).appMain = _
    rw [ht, appMain, htest]
    exact congrArg State.appMain (if_neg hcreated)

theorem reaches_round (i : Nat) (hi : i ≤ numberSensors) : ∃ actions,
    ((program numberSensors created).run actions).appMain = nextRound numberSensors i := by
  induction i with
  | zero => exact ⟨[.appMain], rfl⟩
  | succ i ih =>
    obtain ⟨before, hbefore⟩ := ih (Nat.le_of_succ_le hi)
    rw [nextRound, if_pos (Nat.lt_of_succ_le hi)] at hbefore
    obtain ⟨round, hround⟩ := round_ends numberSensors created hbefore
    refine ⟨before ++ round, ?_⟩
    rw [Machine.run_append]
    exact hround

/-- `app_main` adds a filter queue it could not create to the set. -/
theorem adds_null {i : Nat} (hi : i < numberSensors) (hmissing : created.filterQueue i = false) :
    ∃ actions, ∃ c ∈ ((program numberSensors created).run actions).calls, none ∈ c.handles := by
  obtain ⟨actions, hround⟩ := reaches_round numberSensors created i hi.le
  rw [nextRound, if_pos hi] at hround
  have hadd := round_begins numberSensors created hround
  rw [← Machine.run_append] at hadd
  have hnull : ((program numberSensors created).run (actions ++ [.appMain, .appMain])).filterQueues i =
      none := by
    have hsound := run_sound numberSensors created (actions ++ [.appMain, .appMain])
    rw [hsound.rounds i (by rw [hadd]; exact Nat.lt_succ_self i), filterHandle, hmissing]
    rfl
  refine ⟨actions ++ [.appMain, .appMain] ++ [.appMain], ?_⟩
  rw [Machine.run_append]
  generalize (program numberSensors created).run (actions ++ [.appMain, .appMain]) = s at hadd hnull
  show ∃ c ∈ (appMain numberSensors created s).calls, none ∈ c.handles
  rw [appMain, hadd]
  dsimp only
  rw [(xQueueAddToSet_frame _ _ _).2, hnull]
  exact ⟨_, List.mem_append_right _ (List.mem_singleton.mpr rfl), List.mem_cons_self⟩

/-- The controller selects from a set that could not be created. -/
theorem selects_null (hmissing : created.controllerQueues = false) :
    ∃ actions, ∃ c ∈ ((program numberSensors created).run actions).calls, none ∈ c.handles := by
  obtain ⟨actions, hround⟩ := reaches_round numberSensors created numberSensors (Nat.le_refl _)
  rw [nextRound, if_neg (Nat.lt_irrefl _)] at hround
  have hset := (run_sound numberSensors created actions).set
    (by rw [hround]; nofun)
  rw [setHandle, hmissing] at hset
  refine ⟨actions ++ [.appMain, .controllerTask true], ?_⟩
  rw [Machine.run_append]
  generalize (program numberSensors created).run actions = s at hround hset
  show ∃ c ∈ (controllerTask numberSensors true (appMain numberSensors created s)).calls, none ∈ c.handles
  rw [appMain, hround]
  refine ⟨.selectFromSet none, ?_, List.mem_cons_self⟩
  dsimp only [controllerTask]
  rw [hset]
  split <;> exact List.mem_append_right _ (List.mem_singleton.mpr rfl)

/-- **The program never gives a queue operation NULL, and leaves out the sensors without both of
their queues, exactly if the set and every filter queue were created**: of the creations it
survives the failure of sensor queues only. -/
theorem survives_iff :
    Survives numberSensors created ↔
      created.controllerQueues = true ∧ ∀ i < numberSensors, created.filterQueue i = true := by
  constructor
  · intro h
    refine ⟨?_, fun i hi => ?_⟩
    · by_contra hset
      obtain ⟨actions, c, hc, hnull⟩ :=
        selects_null numberSensors created (Bool.eq_false_iff.mpr hset)
      exact (h actions).1 c hc hnull
    · by_contra hfilter
      obtain ⟨actions, c, hc, hnull⟩ := adds_null numberSensors created hi (Bool.eq_false_iff.mpr hfilter)
      exact (h actions).1 c hc hnull
  · intro hcomplete actions s
    have hsound : Sound numberSensors created s := run_sound numberSensors created actions
    refine ⟨fun c hc => (hsound.calls c hc).handles hcomplete, fun i hi => ⟨?_, ?_, fun c hc => ?_⟩⟩
    · by_contra ht
      exact hi (hsound.launched i (.inl ht)).1
    · by_contra ht
      exact hi (hsound.launched i (.inr ht)).1
    · have htraffic := (hsound.calls c hc).traffic
      constructor
      · intro hq
        obtain ⟨j, hj, hq | hq⟩ := htraffic _ hq
        · exact hi (Queue.sensorQueue.inj hq ▸ hj)
        · cases hq
      · intro hq
        obtain ⟨j, hj, hq | hq⟩ := htraffic _ hq
        · cases hq
        · exact hi (Queue.filterQueue.inj hq ▸ hj)

/-- Two sensors, and no filter queue for the first. -/
theorem missing_filterQueue_fails : ¬ ∀ numberSensors created, Survives numberSensors created :=
  fun h => absurd ((h 2 ⟨true, fun _ => true, fun i => i ≠ 0⟩ (List.replicate 4 .appMain)).1
    (.addToSet none (some .controllerQueues)) List.mem_cons_self) (by decide)

end Aniot.P2.Handles
