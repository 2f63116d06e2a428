import Mathlib.Data.List.Forall2
import Aniot.Machine.History
import Aniot.P6.Readings

/-! Which readings are logged, with nothing assumed of the run.

A reading can be overwritten before it is logged, and another logged in its place. Still
each value logged is one that the callback stored, none before one that was logged
earlier, and for each `WRITE_LOG` it is the reading announced or a later one
(`logged_values_sampled`). -/
namespace Aniot.P6
open Esp

/-- What a step stores in `value_sensor`. -/
def stores (s : State) : Action → List Int
  | .hall v => if s.hall = .storing then [v] else []
  | _ => []

/-- Where the readings accepted and those logged are among the ones stored. -/
structure Places (stored accepted logged : List Int) (announced taken : List Nat) : Prop where
  accepted : accepted.map some = announced.map (stored[·]?)
  increasing : announced.Pairwise (· < ·)
  logged : logged.map some = taken.map (stored[·]?)
  nondecreasing : taken.Pairwise (· ≤ ·)
  fresh : List.Forall₂ (· ≤ ·) (announced.take taken.length) taken

/-- The values logged are stored ones in order, each the reading announced or a later one. -/
def SampledFrom (stored accepted logged : List Int) : Prop :=
  ∃ announced taken, Places stored accepted logged announced taken

/-! ### Places -/

section Places
variable {stored accepted logged : List Int} {announced taken : List Nat}

theorem places_lt {values : List Int} {places : List Nat}
    (h : values.map some = places.map (stored[·]?)) : ∀ i ∈ places, i < stored.length := by
  intro i hi
  have hmem : stored[i]? ∈ values.map some := by
    rw [h]
    exact List.mem_map_of_mem hi
  obtain ⟨x, _, hx⟩ := List.mem_map.mp hmem
  exact (List.getElem?_eq_some_iff.mp hx.symm).1

/-- A value stored behind the others leaves the places as they are. -/
theorem places_snoc {values : List Int} {places : List Nat}
    (h : values.map some = places.map (stored[·]?)) (v : Int) :
    values.map some = places.map ((stored ++ [v])[·]?) := by
  rw [h]
  refine List.map_congr_left fun i hi => ?_
  exact (List.getElem?_append_left (places_lt h i hi)).symm

theorem Places.stores (h : Places stored accepted logged announced taken) (v : Int) :
    Places (stored ++ [v]) accepted logged announced taken :=
  ⟨places_snoc h.accepted v, h.increasing, places_snoc h.logged v, h.nondecreasing, h.fresh⟩

theorem Places.length_le (h : Places stored accepted logged announced taken) :
    taken.length ≤ announced.length := by
  have hlength := h.fresh.length_eq
  rw [List.length_take] at hlength
  omega

/-- The last value stored is announced, and none is announced twice. -/
theorem Places.announces (h : Places stored accepted logged announced taken) {reading : Int}
    (hlast : stored.getLast? = some reading) (hnew : ∀ i ∈ announced, i + 1 < stored.length) :
    Places stored (accepted ++ [reading]) logged (announced ++ [stored.length - 1]) taken := by
  rw [List.getLast?_eq_getElem?] at hlast
  refine ⟨?_, ?_, h.logged, h.nondecreasing, ?_⟩
  · rw [List.map_append, List.map_append, h.accepted, List.map_singleton, List.map_singleton, hlast]
  · rw [List.pairwise_append]
    refine ⟨h.increasing, List.pairwise_singleton _ _, fun i hi j hj => ?_⟩
    have := hnew i hi
    rw [List.mem_singleton.mp hj]
    omega
  · rw [List.take_append_of_le_length h.length_le]
    exact h.fresh

/-- The last value stored is logged for an announcement that is still to be met. -/
theorem Places.logs (h : Places stored accepted logged announced taken) {value : Int}
    (hlast : stored.getLast? = some value) (hmore : taken.length < announced.length) :
    Places stored accepted (logged ++ [value]) announced (taken ++ [stored.length - 1]) := by
  rw [List.getLast?_eq_getElem?] at hlast
  refine ⟨h.accepted, h.increasing, ?_, ?_, ?_⟩
  · rw [List.map_append, List.map_append, h.logged, List.map_singleton, List.map_singleton, hlast]
  · rw [List.pairwise_append]
    refine ⟨h.nondecreasing, List.pairwise_singleton _ _, fun i hi j hj => ?_⟩
    have := places_lt h.logged i hi
    rw [List.mem_singleton.mp hj]
    omega
  · have hnext := places_lt h.accepted announced[taken.length] (List.getElem_mem hmore)
    rw [List.length_append, List.length_singleton, ← List.take_append_getElem hmore]
    exact List.rel_append h.fresh (.cons (by omega) .nil)

end Places

/-! ### The runs -/

/-- The last value stored is the value kept and, while the callback posts, not yet announced. -/
structure Sampling (stored : List Int) (s : State) (announced taken : List Nat) : Prop where
  places : Places stored (readings s.accepted) s.logged announced taken
  inOrder : InOrder s
  count : s.logged.length = (readings s.handled).length
  value : stored ≠ [] → stored.getLast? = some s.valueSensor
  posting : ∀ reading, s.hall = .posting reading →
    stored.getLast? = some reading ∧ ∀ i ∈ announced, i + 1 < stored.length

def Sampled (stored : List Int) (s : State) : Prop := ∃ announced taken, Sampling stored s announced taken

/-- A step that accepts no reading, logs none and stores none. -/
theorem Sampling.frame {stored : List Int} {s s' : State} {announced taken : List Nat}
    (h : Sampling stored s announced taken) (hinOrder : InOrder s')
    (haccepted : readings s'.accepted = readings s.accepted)
    (hhandled : readings s'.handled = readings s.handled) (hlogged : s'.logged = s.logged)
    (hvalue : s'.valueSensor = s.valueSensor)
    (hposting : ∀ reading, s'.hall = .posting reading → s.hall = .posting reading) :
    Sampling stored s' announced taken := by
  refine ⟨?_, hinOrder, ?_, ?_, fun reading hr => h.posting reading (hposting reading hr)⟩
  · rw [haccepted, hlogged]
    exact h.places
  · rw [hlogged, hhandled]
    exact h.count
  · rw [hvalue]
    exact h.value

theorem taken_length {stored : List Int} {s : State} {announced taken : List Nat}
    (h : Sampling stored s announced taken) : taken.length = (readings s.handled).length := by
  have hlogged := congrArg List.length h.places.logged
  rw [List.length_map, List.length_map] at hlogged
  rw [← hlogged, h.count]

theorem announced_length {stored : List Int} {s : State} {announced taken : List Nat}
    (h : Sampling stored s announced taken) :
    announced.length = (readings s.handled).length + (readings s.pending).length := by
  have haccepted := congrArg List.length h.places.accepted
  rw [List.length_map, List.length_map, h.inOrder.order, readings_append, List.length_append] at haccepted
  exact haccepted.symm

/-- A `WRITE_LOG` in hand logs the last value stored. -/
theorem Sampling.logs {stored : List Int} {s : State} {announced taken : List Nat} {e : Posted}
    (h : Sampling stored s announced taken) (hh : s.handler = .handling e) (he : e.status = .writeLog)
    (hinOrder : InOrder {s with
      handler := .receiving
      handled := s.handled ++ [e]
      logged := s.logged ++ [s.valueSensor]}) :
    Sampling stored {s with
      handler := .receiving
      handled := s.handled ++ [e]
      logged := s.logged ++ [s.valueSensor]} announced (taken ++ [stored.length - 1]) := by
  have hpending := pending_of_handling hh
  have hreading : e.reading.isSome := (h.inOrder.marked e (by rw [hpending]; exact List.mem_cons_self)).mp he
  obtain ⟨reading, hreading⟩ := Option.isSome_iff_exists.mp hreading
  have hone : readings [e] = [reading] := by simp [readings, hreading]
  have hmore : taken.length < announced.length := by
    rw [taken_length h, announced_length h, hpending, ← List.singleton_append, readings_append, hone,
      List.length_append, List.length_singleton]
    omega
  have hstored : stored ≠ [] := by
    rintro rfl
    exact absurd (places_lt h.places.accepted _ (List.getElem_mem hmore)) (Nat.not_lt_zero _)
  refine ⟨h.places.logs (h.value hstored) hmore, hinOrder, ?_, h.value, h.posting⟩
  show (s.logged ++ [s.valueSensor]).length = (readings (s.handled ++ [e])).length
  rw [readings_append, hone, List.length_append, List.length_append, h.count]
  rfl

/-- The callback's post of what it has stored. -/
theorem Sampling.announces {stored : List Int} {s : State} {announced taken : List Nat} {reading : Int}
    (h : Sampling stored s announced taken) (hh : s.hall = .posting reading)
    (hinOrder : InOrder (sendMachineState ⟨.writeLog, some reading⟩ {s with hall := .idle})) :
    ∃ announced, Sampling stored
      (sendMachineState ⟨.writeLog, some reading⟩ {s with hall := .idle}) announced taken := by
  obtain ⟨hlast, hnew⟩ := h.posting reading hh
  rcases sendMachineState_cases ⟨.writeLog, some reading⟩ {s with hall := .idle} with
    ⟨q, _, heq⟩ | ⟨_, heq⟩ <;> rw [heq] at hinOrder ⊢
  · refine ⟨announced ++ [stored.length - 1], ?_, hinOrder, h.count, h.value,
      fun _ hr => HallCallback.noConfusion hr⟩
    show Places stored (readings (s.accepted ++ [⟨.writeLog, some reading⟩])) s.logged _ taken
    rw [readings_append]
    exact h.places.announces hlast hnew
  · exact ⟨announced, h.frame hinOrder rfl rfl rfl rfl fun _ hr => HallCallback.noConfusion hr⟩

/-- The callback stores the value it will announce. -/
theorem Sampling.stores {stored : List Int} {s : State} {announced taken : List Nat} {v : Int}
    (h : Sampling stored s announced taken)
    (hinOrder : InOrder {s with hall := .posting v, valueSensor := v}) :
    Sampling (stored ++ [v]) {s with hall := .posting v, valueSensor := v} announced taken := by
  have hlast : (stored ++ [v]).getLast? = some v := List.getLast?_concat
  refine ⟨h.places.stores v, hinOrder, h.count, fun _ => hlast, fun reading hr => ?_⟩
  refine ⟨hlast.trans (congrArg some (HallCallback.posting.inj hr)), fun i hi => ?_⟩
  rw [List.length_append, List.length_singleton]
  exact Nat.succ_lt_succ (places_lt h.places.accepted i hi)

theorem stores_eq (s : State) (a : Action) :
    stores s a = [] ∨ ∃ v, a = .hall v ∧ s.hall = .storing ∧ stores s a = [v] := by
  cases a with
  | hall v =>
    by_cases hh : s.hall = .storing
    · exact .inr ⟨v, rfl, hh, if_pos hh⟩
    · exact .inl (if_neg hh)
  | _ => exact .inl rfl

theorem asks_frame (s : State) :
    readings (sendMachineState ⟨.readLog, none⟩ s).accepted = readings s.accepted ∧
    (sendMachineState ⟨.readLog, none⟩ s).logged = s.logged := by
  rcases sendMachineState_cases ⟨.readLog, none⟩ s with ⟨q, _, heq⟩ | ⟨_, heq⟩ <;> rw [heq]
  · exact ⟨by simp [readings], rfl⟩
  · exact ⟨rfl, rfl⟩

/-- A step that stores nothing. -/
theorem moves_sampling {stored : List Int} {s : State} {a : Action} {s' : State}
    {announced taken : List Nat} (h : Sampling stored s announced taken) (hstores : stores s a = [])
    (hm : Moves s a s') : Sampled stored s' := by
  have hinOrder := flows_inOrder h.inOrder (moves_flows hm)
  cases hm with
  | boots =>
    obtain ⟨m, created, hall, reader, heq⟩ := appMain_frame s
    rw [heq] at hinOrder ⊢
    exact ⟨announced, taken, h.frame hinOrder rfl rfl rfl rfl fun _ hr => hr⟩
  | hallFires v hh ht =>
    exact ⟨announced, taken, h.frame hinOrder rfl rfl rfl rfl fun _ hr => HallCallback.noConfusion hr⟩
  | stores v hh => simp [Aniot.P6.stores, hh] at hstores
  | announces v reading hh =>
    obtain ⟨announced, h⟩ := h.announces hh hinOrder
    exact ⟨announced, taken, h⟩
  | asks hr =>
    obtain ⟨haccepted, hlogged⟩ := asks_frame {s with reader := .idle}
    obtain ⟨hvalue, hhall⟩ := sendMachineState_value ⟨.readLog, none⟩ {s with reader := .idle}
    have hhandled := congrArg readings (sendMachineState_keeps ⟨.readLog, none⟩ {s with reader := .idle}).handled
    exact ⟨announced, taken, h.frame hinOrder haccepted hhandled hlogged hvalue fun _ hr => hhall.symm.trans hr⟩
  | logs opens e hh he => exact ⟨announced, _, h.logs hh he hinOrder⟩
  | stopsHall opens e hh he =>
    have hmarked := h.inOrder.marked e (by rw [pending_of_handling hh]; exact List.mem_cons_self)
    have hnone : e.reading = none := by
      cases hr : e.reading with
      | none => rfl
      | some reading => simp [he, hr] at hmarked
    have hhandled : readings (s.handled ++ [e]) = readings s.handled := by simp [readings, hnone]
    exact ⟨announced, taken, h.frame hinOrder rfl hhandled rfl rfl fun _ hr => hr⟩
  | _ => exact ⟨announced, taken, h.frame hinOrder rfl rfl rfl rfl fun _ hr => hr⟩

theorem step_sampled (stored : List Int) (s : State) (a : Action) (h : Sampled stored s) :
    Sampled (stored ++ stores s a) (recorder.step s a) := by
  show Sampled _ (step s a)
  obtain ⟨announced, taken, h⟩ := h
  rcases stores_eq s a with hnone | ⟨v, rfl, hh, hv⟩
  · rw [hnone, List.append_nil]
    exact moves_sampling h hnone (step_moves s a)
  · have hstep : step s (.hall v) = {s with hall := .posting v, valueSensor := v} := by
      rw [step, sensorHallTimerCallback, hh]
    have hinOrder := flows_inOrder h.inOrder (moves_flows (step_moves s (.hall v)))
    rw [hstep] at hinOrder
    rw [hv, hstep]
    exact ⟨announced, taken, h.stores hinOrder⟩

/-- **In every run the values logged are stored ones, none before one logged earlier, and each is
the reading its event announces or one stored later.** -/
theorem logged_values_sampled (actions : List Action) :
    let s := recorder.run actions
    SampledFrom (recorder.emitted stores recorder.start actions) (readings s.accepted) s.logged := by
  intro s
  have hstart : Sampled [] recorder.start :=
    ⟨[], [], ⟨rfl, .nil, rfl, .nil, .nil⟩, ⟨rfl, fun _ hp => nomatch hp⟩, rfl, fun h => absurd rfl h,
      fun _ hr => HallCallback.noConfusion hr⟩
  obtain ⟨announced, taken, h⟩ := Machine.runFrom_history step_sampled hstart actions
  exact ⟨announced, taken, h.places⟩

end Aniot.P6
