import Mathlib.Data.List.DropRight
import Aniot.P3.Chronometer

/-! What becomes of the events, and what they make of the count.

`queueOut` hands on what it accepts in order and loses none of it; what it refuses is
reported and lost, a press included. The count has a closed form in the handled
events: they are cut at the last reset, and a tick counts when the presses before it in
its part are of the right parity, even in the first part and odd in every other. -/
namespace Aniot.P3

/-! ### Events on their way -/

/-- What was accepted has been handled, is being handled, or waits, in this order. -/
def InOrder (s : State) : Prop := s.accepted = s.handled ++ (s.handler.held ++ s.queueOut.items)

theorem sendMachineState_inOrder {status : MachineStatus} {run : Nat} {s : State} (h : InOrder s) :
    InOrder (sendMachineState status run s) := by
  unfold InOrder at h ⊢
  rcases sendMachineState_cases status run s with ⟨q, hq, heq⟩ | ⟨_, heq⟩ <;> rw [heq]
  · dsimp only
    rw [h, hq]
    simp only [List.append_assoc]
  · exact h

theorem moves_inOrder (s : State) (a : Action) (s' : State) (h : InOrder s) (hm : Moves s a s') :
    InOrder s' := by
  cases hm with
  | presses ht => exact sendMachineState_inOrder h
  | ticks run htick => exact sendMachineState_inOrder h
  | resets value => exact sendMachineState_inOrder h
  | receives e q hh hq =>
    unfold InOrder at h ⊢
    rw [h, hh, hq]
    rfl
  | handles e hh =>
    obtain ⟨active, count, ticks, timer, heq⟩ := handleStatus_frame e (s.handling e)
    unfold InOrder at h ⊢
    rw [heq]
    show s.accepted = (s.handled ++ [e]) ++ s.queueOut.items
    rw [h, hh, List.append_assoc]
    rfl
  | _ => exact h

def isPress (e : Posted) : Bool := e.status = .startStopTimer

/-- Every press the touch task took was accepted or refused. -/
def Taken (s : State) : Prop := s.presses = s.accepted.countP isPress + s.refused.countP isPress

theorem sendMachineState_taken {status : MachineStatus} {run : Nat} {s : State}
    (h : s.presses = s.accepted.countP isPress + s.refused.countP isPress +
      if status = .startStopTimer then 1 else 0) : Taken (sendMachineState status run s) := by
  unfold Taken
  rcases sendMachineState_cases status run s with ⟨q, _, heq⟩ | ⟨_, heq⟩ <;> rw [heq] <;>
    simp only [List.countP_append, List.countP_singleton, isPress, decide_eq_true_eq] at h ⊢ <;>
    omega

theorem moves_taken (s : State) (a : Action) (s' : State) (h : Taken s) (hm : Moves s a s') :
    Taken s' := by
  unfold Taken at h
  cases hm with
  | presses ht => exact sendMachineState_taken (congrArg (· + 1) h)
  | ticks run htick => exact sendMachineState_taken h
  | resets value => exact sendMachineState_taken h
  | handles e hh =>
    obtain ⟨active, count, ticks, timer, heq⟩ := handleStatus_frame e (s.handling e)
    rw [heq]
    exact h
  | _ => exact h

theorem sendMachineState_refused {status : MachineStatus} {run : Nat} (s : State)
    (h : (sendMachineState status run s).refused ≠ s.refused) : s.queueOut.items.length = 10 := by
  rcases sendMachineState_cases status run s with ⟨q, _, heq⟩ | ⟨hfull, _⟩
  · rw [heq] at h
    exact absurd rfl h
  · exact hfull

/-- Only a full queue refuses. -/
theorem moves_refused {s : State} {a : Action} {s' : State} (hm : Moves s a s')
    (h : s'.refused ≠ s.refused) : s.queueOut.items.length = 10 := by
  cases hm with
  | presses ht =>
    exact sendMachineState_refused {s with touch := .clearing, presses := s.presses + 1} h
  | ticks run htick => exact sendMachineState_refused {s with tick := none} h
  | resets value => exact sendMachineState_refused s h
  | handles e hh =>
    obtain ⟨active, count, ticks, timer, heq⟩ := handleStatus_frame e (s.handling e)
    rw [heq] at h
    exact absurd rfl h
  | _ => exact absurd rfl h

/-- **Every press taken is handled, in the handler's hand, in the queue, or among the
posts that were refused and reported, and only a queue of ten events refuses one.** -/
theorem presses_accounted (b : Build) (actions : List Action) :
    let s := (chronometer b).run actions
    s.presses = s.handled.countP isPress + s.handler.held.countP isPress +
      s.queueOut.items.countP isPress + s.refused.countP isPress ∧
    ∀ a, (step b s a).refused ≠ s.refused → s.queueOut.items.length = 10 := by
  intro s
  have horder : InOrder s := chronometer_invariant (by rfl) moves_inOrder b actions
  have htaken : Taken s := chronometer_invariant (by rfl) moves_taken b actions
  refine ⟨?_, fun a h => moves_refused (step_moves b s a) h⟩
  unfold InOrder at horder
  unfold Taken at htaken
  rw [htaken, horder]
  simp only [List.countP_append]
  omega

/-- The hall sensor's build, started up to its timer; a magnet then stays for ten of its
readings, the pad is touched, and the touch task finds the flag and sends. -/
def pressedWhileReset : List Action :=
  List.replicate 5 .appMain ++ List.replicate 10 (.sensor 0) ++ [.isr 1, .touch, .touch]

/-- Taken behind ten waiting resets, a press is lost. -/
theorem press_behind_resets_lost :
    ¬ ∀ (b : Build) (actions : List Action),
      let s := (chronometer b).run actions
      s.presses = s.handled.countP isPress + s.handler.held.countP isPress +
        s.queueOut.items.countP isPress :=
  fun h => absurd (h ⟨false, fun _ => 0⟩ pressedWhileReset) (by decide)

/-! ### The count -/

/-- How many ticks of `l` have presses before them in it of the given parity. -/
def ticksAt (parity : Nat) (l : List MachineStatus) : Nat :=
  (List.range l.length).countP fun k =>
    l[k]? = some .countTimer ∧ (l.take k).count .startStopTimer % 2 = parity

theorem ticksAt_concat (parity : Nat) (l : List MachineStatus) (x : MachineStatus) :
    ticksAt parity (l ++ [x]) = ticksAt parity l +
      if x = .countTimer ∧ l.count .startStopTimer % 2 = parity then 1 else 0 := by
  unfold ticksAt
  rw [List.length_append, List.length_singleton, List.range_succ, List.countP_append]
  congr 1
  · refine List.countP_congr fun k hk => ?_
    have hk := List.mem_range.mp hk
    rw [List.getElem?_append_left hk, List.take_append_of_le_length (Nat.le_of_lt hk)]
  · rw [List.countP_singleton, List.getElem?_concat_length, List.take_left]
    simp

/-- The part after the last reset, all of it if there is none. -/
def sinceReset (l : List MachineStatus) : List MachineStatus := l.rtakeWhile (· ≠ .resetTimer)

/-- The parity at which ticks count: a reset leaves the chronometer stopped. -/
def parity (l : List MachineStatus) : Nat := if .resetTimer ∈ l then 1 else 0

theorem sinceReset_reset (l : List MachineStatus) : sinceReset (l ++ [.resetTimer]) = [] :=
  List.rtakeWhile_concat_neg _ _ _ (by simp)

theorem sinceReset_concat (l : List MachineStatus) {x : MachineStatus} (hx : x ≠ .resetTimer) :
    sinceReset (l ++ [x]) = sinceReset l ++ [x] :=
  List.rtakeWhile_concat_pos _ _ _ (by simpa using hx)

theorem parity_concat (l : List MachineStatus) {x : MachineStatus} (hx : x ≠ .resetTimer) :
    parity (l ++ [x]) = parity l := by
  simp [parity, hx.symm]

theorem sinceReset_none {l : List MachineStatus} (h : .resetTimer ∉ l) :
    sinceReset l = l ∧ parity l = 0 := by
  refine ⟨List.rtakeWhile_eq_self_iff.mpr fun x hx => ?_, if_neg h⟩
  rw [decide_eq_true_eq]
  rintro rfl
  exact h hx

theorem sinceReset_last (before : List MachineStatus) {after : List MachineStatus}
    (h : .resetTimer ∉ after) :
    sinceReset (before ++ .resetTimer :: after) = after ∧ parity (before ++ .resetTimer :: after) = 1 := by
  refine ⟨?_, if_pos (by simp)⟩
  induction after using List.reverseRecOn with
  | nil => exact sinceReset_reset before
  | append_singleton rest x ih =>
    rw [List.mem_append, List.mem_singleton, not_or] at h
    rw [← List.cons_append, ← List.append_assoc, sinceReset_concat _ (Ne.symm h.2), ih h.1]

/-- The handler's two variables, after the events `l`. -/
structure CountOf (l : List MachineStatus) (isTimerActive : Bool) (countTimer : Nat) : Prop where
  count : countTimer = ticksAt (parity l) (sinceReset l)
  active : isTimerActive = true ↔ (sinceReset l).count .startStopTimer % 2 = parity l

theorem CountOf.nil : CountOf [] true 0 := ⟨rfl, by simp [sinceReset, parity]⟩

theorem CountOf.tick {l : List MachineStatus} {active : Bool} {count : Nat} (h : CountOf l active count) :
    CountOf (l ++ [.countTimer]) active (if active then count + 1 else count) := by
  have hne : MachineStatus.countTimer ≠ .resetTimer := nofun
  constructor
  · rw [sinceReset_concat l hne, parity_concat l hne, ticksAt_concat, ← h.count]
    cases active with
    | true => rw [if_pos rfl, if_pos ⟨rfl, h.active.mp rfl⟩]
    | false =>
      rw [if_neg nofun, if_neg fun hp => nomatch h.active.mpr hp.2]
      rfl
  · rw [sinceReset_concat l hne, parity_concat l hne, List.count_append, h.active]
    rfl

theorem CountOf.press {l : List MachineStatus} {active : Bool} {count : Nat} (h : CountOf l active count) :
    CountOf (l ++ [.startStopTimer]) (!active) count := by
  have hlt : parity l < 2 := by
    unfold parity
    split <;> omega
  have hne : MachineStatus.startStopTimer ≠ .resetTimer := nofun
  constructor
  · rw [sinceReset_concat l hne, parity_concat l hne, ticksAt_concat, ← h.count, if_neg nofun]
    rfl
  · have hactive := h.active
    rw [sinceReset_concat l hne, parity_concat l hne, List.count_append, List.count_singleton_self]
    cases active <;> simp only [Bool.not_true, Bool.not_false, Bool.false_eq_true, true_iff, false_iff]
      at hactive ⊢ <;> omega

theorem CountOf.reset (l : List MachineStatus) : CountOf (l ++ [.resetTimer]) false 0 := by
  have hparity : parity (l ++ [.resetTimer]) = 1 := if_pos (by simp)
  constructor
  · rw [sinceReset_reset]
    rfl
  · rw [sinceReset_reset, hparity]
    simp

def State.statuses (s : State) : List MachineStatus := s.handled.map (·.status)

def Counted (s : State) : Prop := CountOf s.statuses s.isTimerActive s.countTimer

theorem handleStatus_counted (e : Posted) {s : State} (h : Counted s) :
    Counted (handleStatus e (s.handling e)) := by
  have hstatuses : (s.handled ++ [e]).map (·.status) = s.handled.map (·.status) ++ [e.status] :=
    List.map_append
  unfold Counted State.statuses at h ⊢
  unfold handleStatus State.handling
  cases hstatus : e.status with
  | countTimer =>
    have htick := h.tick
    rw [← hstatus, ← hstatuses] at htick
    dsimp only
    split
    · next hactive =>
      rw [if_pos hactive] at htick
      exact htick
    · next hactive =>
      rw [if_neg hactive] at htick
      exact htick
  | startStopTimer =>
    have hpress := h.press
    rw [← hstatus, ← hstatuses] at hpress
    dsimp only
    split <;> exact hpress
  | resetTimer =>
    simp only [hstatuses, hstatus]
    exact CountOf.reset _

theorem sendMachineState_counted {status : MachineStatus} {run : Nat} {s : State} (h : Counted s) :
    Counted (sendMachineState status run s) := by
  rcases sendMachineState_cases status run s with ⟨q, _, heq⟩ | ⟨_, heq⟩ <;> rw [heq] <;> exact h

theorem moves_counted (s : State) (a : Action) (s' : State) (h : Counted s) (hm : Moves s a s') :
    Counted s' := by
  cases hm with
  | presses ht => exact sendMachineState_counted h
  | ticks run htick => exact sendMachineState_counted h
  | resets value => exact sendMachineState_counted h
  | handles e hh => exact handleStatus_counted e h
  | _ => exact h

/-- **The handled events are those accepted, in order, up to the one in hand and those in
the queue, and the count is that of the ticks handled at an odd number of presses since
the last reset, or at an even number of presses when there was none.** -/
theorem count_of_handled (b : Build) (actions : List Action) :
    let s := (chronometer b).run actions
    s.accepted = s.handled ++ (s.handler.held ++ s.queueOut.items) ∧
    (.resetTimer ∉ s.statuses →
      s.countTimer = ticksAt 0 s.statuses ∧
      (s.isTimerActive = true ↔ s.statuses.count .startStopTimer % 2 = 0)) ∧
    ∀ before after, s.statuses = before ++ .resetTimer :: after → .resetTimer ∉ after →
      s.countTimer = ticksAt 1 after ∧
      (s.isTimerActive = true ↔ after.count .startStopTimer % 2 = 1) := by
  intro s
  have horder : InOrder s := chronometer_invariant (by rfl) moves_inOrder b actions
  have hcounted : Counted s := chronometer_invariant CountOf.nil moves_counted b actions
  refine ⟨horder, fun hnone => ?_, fun before after hsplit hlast => ?_⟩
  · obtain ⟨hsince, hparity⟩ := sinceReset_none hnone
    obtain ⟨hcount, hactive⟩ := hcounted
    rw [hsince, hparity] at hcount hactive
    exact ⟨hcount, hactive⟩
  · obtain ⟨hsince, hparity⟩ := sinceReset_last before hlast
    obtain ⟨hcount, hactive⟩ := hcounted
    rw [hsplit, hsince, hparity] at hcount hactive
    exact ⟨hcount, hactive⟩

end Aniot.P3
