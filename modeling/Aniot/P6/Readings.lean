import Aniot.P6.Recorder

/-! Whether each `WRITE_LOG` logs the reading it announces.

The reading does not travel with the event: the handler logs what `value_sensor` holds
when it comes to it. As long as the callback stores no other value while a `WRITE_LOG`
is waiting or in the handler's hand, that is the reading announced, and the log is the
accepted readings in order. A handler still mounting lets several readings share the
last of them. -/
namespace Aniot.P6

/-- The readings a list of events announces. -/
def readings (l : List Posted) : List Int := l.filterMap (·.reading)

theorem readings_append (l l' : List Posted) : readings (l ++ l') = readings l ++ readings l' :=
  List.filterMap_append

/-- The events accepted and not acted on. -/
def State.pending (s : State) : List Posted := s.handler.held ++ s.queueOut.items

/-- The callback is about to store another value over one that a waiting event announces. -/
def overwrites (s : State) : Action → Bool
  | .hall v => s.hall = .storing && v ≠ s.valueSensor && s.pending.any (·.status = .writeLog)
  | _ => false

/-! ### What a step does to the events and to the value -/

/-- Nothing, one more pending, or the one in hand acted on. -/
inductive Flows (s s' : State) : Prop where
  | keeps (haccepted : s'.accepted = s.accepted) (hhandled : s'.handled = s.handled)
      (hpending : s'.pending = s.pending) (hlogged : s'.logged = s.logged)
  | posts (e : Posted) (he : e.status = .writeLog ↔ e.reading.isSome)
      (hreading : ∀ reading, e.reading = some reading → s.hall = .posting reading)
      (haccepted : s'.accepted = s.accepted ++ [e]) (hhandled : s'.handled = s.handled)
      (hpending : s'.pending = s.pending ++ [e]) (hlogged : s'.logged = s.logged)
  | acts (e : Posted) (haccepted : s'.accepted = s.accepted) (hhandled : s'.handled = s.handled ++ [e])
      (hpending : s.pending = e :: s'.pending)
      (hlogged : s'.logged = s.logged ++ if e.status = .writeLog then [s.valueSensor] else [])

/-- A post, from a state `t` that has the same events as `s`. -/
theorem sendMachineState_flows {e : Posted} {s t : State} (he : e.status = .writeLog ↔ e.reading.isSome)
    (hreading : ∀ reading, e.reading = some reading → s.hall = .posting reading)
    (haccepted : t.accepted = s.accepted) (hhandled : t.handled = s.handled)
    (hpending : t.pending = s.pending) (hlogged : t.logged = s.logged) :
    Flows s (sendMachineState e t) := by
  rcases sendMachineState_cases e t with ⟨q, hq, heq⟩ | ⟨_, heq⟩ <;> rw [heq]
  · refine .posts e he hreading (by rw [← haccepted]) hhandled ?_ hlogged
    rw [← hpending]
    simp only [State.pending, hq, List.append_assoc]
  · exact .keeps haccepted hhandled hpending hlogged

theorem pending_of_held {s : State} (hh : s.handler.held = []) : s.pending = s.queueOut.items := by
  rw [State.pending, hh]
  rfl

theorem pending_of_handling {s : State} {e : Posted} (hh : s.handler = .handling e) :
    s.pending = e :: s.queueOut.items := by
  rw [State.pending, hh]
  rfl

theorem moves_flows {s : State} {a : Action} {s' : State} (hm : Moves s a s') : Flows s s' := by
  cases hm with
  | boots =>
    obtain ⟨m, created, hall, reader, heq⟩ := appMain_frame s
    rw [heq]
    exact .keeps rfl rfl rfl rfl
  | announces v reading hh =>
    refine sendMachineState_flows (by simp) (fun r hr => ?_) rfl rfl rfl rfl
    rw [← Option.some.inj hr]
    exact hh
  | asks hr => exact sendMachineState_flows (by simp) nofun rfl rfl rfl rfl
  | receives opens e q hh hq =>
    refine .keeps rfl rfl ?_ rfl
    rw [pending_of_held (s := s) (by rw [hh]; rfl), hq]
    rfl
  | logs opens e hh he =>
    refine .acts e rfl rfl (pending_of_handling hh) ?_
    rw [if_pos he]
  | stopsHall opens e hh he =>
    refine .acts e rfl rfl (pending_of_handling hh) ?_
    rw [he, if_neg nofun, List.append_nil]
  | mounts opens hh => exact .keeps rfl rfl (pending_of_held (s := s) (by rw [hh]; rfl)).symm rfl
  | stopsReader opens hh => exact .keeps rfl rfl (pending_of_held (s := s) (by rw [hh]; rfl)).symm rfl
  | reads hh => exact .keeps rfl rfl (pending_of_held (s := s) (by rw [hh]; rfl)).symm rfl
  | givesUp hh => exact .keeps rfl rfl (pending_of_held (s := s) (by rw [hh]; rfl)).symm rfl
  | _ => exact .keeps rfl rfl rfl rfl

theorem sendMachineState_value (e : Posted) (s : State) :
    (sendMachineState e s).valueSensor = s.valueSensor ∧ (sendMachineState e s).hall = s.hall := by
  obtain ⟨q, accepted, refused, _, heq⟩ := sendMachineState_frame e s
  rw [heq]
  exact ⟨rfl, rfl⟩

/-- Only the callback's own store changes the value and what it is about to announce. -/
theorem moves_value {s : State} {a : Action} {s' : State} (hm : Moves s a s') :
    (s'.valueSensor = s.valueSensor ∧ ∀ reading, s'.hall = .posting reading → s.hall = .posting reading) ∨
    ∃ v, a = .hall v ∧ s.hall = .storing ∧ s' = {s with hall := .posting v, valueSensor := v} := by
  cases hm with
  | stores v hh => exact .inr ⟨v, rfl, hh, rfl⟩
  | hallFires v hh ht => exact .inl ⟨rfl, nofun⟩
  | boots =>
    obtain ⟨m, created, hall, reader, heq⟩ := appMain_frame s
    rw [heq]
    exact .inl ⟨rfl, fun _ h => h⟩
  | announces v reading hh =>
    obtain ⟨hvalue, hhall⟩ := sendMachineState_value ⟨.writeLog, some reading⟩ {s with hall := .idle}
    exact .inl ⟨hvalue, fun r hr => nomatch hhall.symm.trans hr⟩
  | asks hr =>
    obtain ⟨hvalue, hhall⟩ := sendMachineState_value ⟨.readLog, none⟩ {s with reader := .idle}
    exact .inl ⟨hvalue, fun _ hr => hhall.symm.trans hr⟩
  | _ => exact .inl ⟨rfl, fun _ h => h⟩

/-! ### In order, and announced -/

/-- What was accepted has been acted on or is pending, in this order; and a `WRITE_LOG`,
and nothing else, has a reading. -/
structure InOrder (s : State) : Prop where
  order : s.accepted = s.handled ++ s.pending
  marked : ∀ e ∈ s.pending, e.status = .writeLog ↔ e.reading.isSome

theorem flows_inOrder {s s' : State} (h : InOrder s) (hf : Flows s s') : InOrder s' := by
  obtain ⟨horder, hmarked⟩ := h
  cases hf with
  | keeps haccepted hhandled hpending _ =>
    constructor
    · rw [haccepted, hhandled, hpending, horder]
    · rw [hpending]
      exact hmarked
  | posts e he _ haccepted hhandled hpending _ =>
    constructor
    · rw [haccepted, hhandled, hpending, horder, List.append_assoc]
    · rw [hpending]
      intro p hp
      rcases List.mem_append.mp hp with hp | hp
      · exact hmarked p hp
      · rw [List.mem_singleton.mp hp]
        exact he
  | acts e haccepted hhandled hpending _ =>
    rw [hpending] at horder hmarked
    constructor
    · rw [haccepted, hhandled, horder, List.append_assoc]
      rfl
    · exact fun p hp => hmarked p (List.mem_cons_of_mem e hp)

/-- What is announced is what `value_sensor` holds, and what was logged is what was announced. -/
structure Announced (s : State) : Prop where
  inOrder : InOrder s
  posting : ∀ reading, s.hall = .posting reading → reading = s.valueSensor
  current : ∀ reading ∈ readings s.pending, reading = s.valueSensor
  logged : s.logged = readings s.handled

/-- A value stored without overwriting one that is announced. -/
theorem stored_announced {s : State} {v : Int} (hh : s.hall = .storing) (h : Announced s)
    (hC : overwrites s (.hall v) = false) :
    Announced {s with hall := .posting v, valueSensor := v} := by
  refine ⟨⟨h.inOrder.order, h.inOrder.marked⟩, fun reading hr => (HallCallback.posting.inj hr).symm,
    fun reading hr => ?_, h.logged⟩
  by_cases hv : v = s.valueSensor
  · exact (h.current reading hr).trans hv.symm
  · -- nothing is announced, so there is no reading to lose
    obtain ⟨p, hp, hpr⟩ := List.mem_filterMap.mp hr
    have hwrite : p.status = .writeLog := (h.inOrder.marked p hp).mpr (by rw [hpr]; rfl)
    have hany : s.pending.any (·.status = .writeLog) = true :=
      List.any_eq_true.mpr ⟨p, hp, by simpa using hwrite⟩
    simp [overwrites, hh, hv, hany] at hC

/-- What is logged for an event whose reading is still the value. -/
theorem acted_reading {s : State} {e : Posted} (he : e.status = .writeLog ↔ e.reading.isSome)
    (hcurrent : ∀ reading ∈ readings [e], reading = s.valueSensor) :
    (if e.status = .writeLog then [s.valueSensor] else []) = readings [e] := by
  cases hr : e.reading with
  | none =>
    rw [if_neg (by rw [he, hr]; nofun)]
    simp [readings, hr]
  | some reading =>
    rw [if_pos (by rw [he, hr]; rfl), ← hcurrent reading (by simp [readings, hr])]
    simp [readings, hr]

theorem moves_announced {s : State} {a : Action} {s' : State} (hC : overwrites s a = false)
    (h : Announced s) (hm : Moves s a s') : Announced s' := by
  rcases moves_value hm with ⟨hvalue, hhall⟩ | ⟨v, rfl, hh, rfl⟩
  · have hf := moves_flows hm
    have hposting : ∀ reading, s'.hall = .posting reading → reading = s'.valueSensor := by
      rw [hvalue]
      exact fun reading hr => h.posting reading (hhall reading hr)
    have horder := flows_inOrder h.inOrder hf
    cases hf with
    | keeps haccepted hhandled hpending hlogged =>
      refine ⟨horder, hposting, ?_, ?_⟩
      · rw [hpending, hvalue]
        exact h.current
      · rw [hlogged, hhandled, h.logged]
    | posts e he hreading haccepted hhandled hpending hlogged =>
      refine ⟨horder, hposting, ?_, ?_⟩
      · rw [hpending, hvalue, readings_append]
        intro reading hr
        rcases List.mem_append.mp hr with hr | hr
        · exact h.current reading hr
        · exact h.posting reading (hreading reading (by simpa [readings] using hr))
      · rw [hlogged, hhandled, h.logged]
    | acts e haccepted hhandled hpending hlogged =>
      have hcurrent := h.current
      rw [hpending, show e :: s'.pending = [e] ++ s'.pending from rfl, readings_append] at hcurrent
      refine ⟨horder, hposting, ?_, ?_⟩
      · rw [hvalue]
        exact fun reading hr => hcurrent reading (List.mem_append_right _ hr)
      · have hmarked := h.inOrder.marked e (by rw [hpending]; exact List.mem_cons_self)
        rw [hlogged, hhandled, h.logged, readings_append, acted_reading hmarked]
        exact fun reading hr => hcurrent reading (List.mem_append_left _ hr)
  · exact stored_announced hh h hC

/-- **In a run in which the callback never stores another value over one that is still
announced, the values logged are the readings accepted, in order, each once, up to
those still pending.** -/
theorem readings_logged (actions : List Action)
    (hC : recorder.Meets (fun s a => overwrites s a = false) recorder.start actions) :
    let s := recorder.run actions
    s.logged = readings s.handled ∧ readings s.accepted = s.logged ++ readings s.pending := by
  intro s
  have hstart : Announced recorder.start := ⟨⟨rfl, nofun⟩, nofun, nofun, rfl⟩
  have hannounced : Announced s :=
    Machine.Meets.invariant (fun s a hC h => moves_announced hC h (step_moves s a)) hC hstart
  refine ⟨hannounced.logged, ?_⟩
  rw [hannounced.inOrder.order, hannounced.logged, readings_append]

/-- `app_main`, and a callback that fires, stores and posts. -/
def started : List Action := List.replicate 5 .appMain
def measures (v : Int) : List Action := List.replicate 3 (.hall v)

/-- The handler mounts and logs each reading before the next. -/
theorem readings_logged_one_by_one :
    let s := recorder.run (started ++ [.handler true] ++ measures 1 ++
      [.handler true, .handler true] ++ measures 2 ++ [.handler true, .handler true])
    s.logged = readings s.handled ∧ readings s.accepted = s.logged ++ readings s.pending :=
  readings_logged _ (by decide)

/-- A second reading comes while the handler is still mounting, and is logged twice. -/
theorem reading_overwritten :
    ¬ ∀ actions, let s := recorder.run actions
      s.logged = readings s.handled ∧ readings s.accepted = s.logged ++ readings s.pending :=
  fun h => absurd (h (started ++ measures 1 ++ measures 2 ++ List.replicate 5 (.handler true)))
    (by decide)

end Aniot.P6
