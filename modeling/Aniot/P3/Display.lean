import Aniot.C.Print
import Aniot.Machine.History
import Aniot.P3.Response

/-! What the log of the chronometer tells.

`status_handler_task` logs one line for each event it handles: the count as minutes and
seconds after a tick, whether a press started or stopped the chronometer, and a reset. A
watch with a count and a switch is what these events are about; the handler's variables
are such a watch, and its lines, read back, are what the watch shows event by event
(`log_reads_back`). So two shown counts with no reset between them are as far apart as the
ticks counted between them, and no further (`shown_counts`). -/
namespace Aniot.P3
open C

/-! ### The watch -/

/-- A switch, and the ticks counted while it was on. -/
structure Watch where
  active : Bool
  count : Nat
deriving DecidableEq

/-- What is to be seen of an event. -/
inductive Shown where
  | count (n : Nat)
  | started
  | stopped
  | reset
deriving DecidableEq

namespace Watch

def start : Watch := ⟨true, 0⟩

def next (w : Watch) : MachineStatus → Watch
  | .countTimer => if w.active then {w with count := w.count + 1} else w
  | .startStopTimer => {w with active := !w.active}
  | .resetTimer => ⟨false, 0⟩

def after (w : Watch) (l : List MachineStatus) : Watch := l.foldl next w

/-- What the watch shows of the event it has just had. -/
def shows (w : Watch) : MachineStatus → Shown
  | .countTimer => .count w.count
  | .startStopTimer => if w.active then .started else .stopped
  | .resetTimer => .reset

/-- What it shows of one event after the other. -/
def trace (w : Watch) : List MachineStatus → List Shown
  | [] => []
  | e :: rest => (w.next e).shows e :: (w.next e).trace rest

theorem trace_append (w : Watch) (l m : List MachineStatus) :
    w.trace (l ++ m) = w.trace l ++ (w.after l).trace m := by
  induction l generalizing w with
  | nil => rfl
  | cons e rest ih => exact congrArg _ (ih (w.next e))

/-- What is shown at one place is shown of the event there. -/
theorem trace_split {w : Watch} {l : List MachineStatus} {before : List Shown} {x : Shown}
    {later : List Shown} (h : w.trace l = before ++ x :: later) :
    ∃ l₁ e l₂, l = l₁ ++ e :: l₂ ∧ w.trace l₁ = before ∧ ((w.after l₁).next e).shows e = x ∧
      ((w.after l₁).next e).trace l₂ = later := by
  induction before generalizing w l with
  | nil =>
    cases l with
    | nil => cases h
    | cons e rest =>
      obtain ⟨hx, hlater⟩ := List.cons.inj h
      exact ⟨[], e, rest, rfl, rfl, hx, hlater⟩
  | cons y before ih =>
    cases l with
    | nil => cases h
    | cons e rest =>
      obtain ⟨hy, hrest⟩ := List.cons.inj h
      obtain ⟨l₁, e', l₂, rfl, hbefore, hx, hlater⟩ := ih hrest
      exact ⟨e :: l₁, e', l₂, rfl, by rw [trace, hy, hbefore], hx, hlater⟩

/-- A watch shows a count of ticks only. -/
theorem shows_count {w : Watch} {e : MachineStatus} {n : Nat} (h : w.shows e = .count n) :
    e = .countTimer ∧ w.count = n := by
  cases e with
  | countTimer => exact ⟨rfl, Shown.count.inj h⟩
  | startStopTimer =>
    rw [shows] at h
    split at h <;> cases h
  | resetTimer => cases h

/-- Without a reset the count grows by one for each tick at most, and without a press by one for
each tick or by none. -/
theorem after_count {l : List MachineStatus} (h : .resetTimer ∉ l) (w : Watch) :
    w.count ≤ (w.after l).count ∧ (w.after l).count ≤ w.count + l.count .countTimer ∧
      (.startStopTimer ∉ l → (w.after l).active = w.active ∧
        (w.after l).count = w.count + if w.active then l.count .countTimer else 0) := by
  induction l generalizing w with
  | nil =>
    refine ⟨Nat.le_refl _, Nat.le_refl _, fun _ => ⟨rfl, ?_⟩⟩
    split <;> rfl
  | cons e rest ih =>
    rw [List.mem_cons, not_or] at h
    obtain ⟨hlow, hhigh, hpress⟩ := ih h.2 (w.next e)
    cases e with
    | countTimer =>
      simp only [List.count_cons_self]
      have hnext : (w.next .countTimer).active = w.active ∧
          (w.next .countTimer).count = w.count + if w.active then 1 else 0 := by
        rw [next]
        split <;> exact ⟨rfl, rfl⟩
      rw [hnext.2] at hlow hhigh hpress
      rw [hnext.1] at hpress
      refine ⟨?_, ?_, fun hnone => ?_⟩
      · exact Nat.le_trans (Nat.le_add_right _ _) hlow
      · refine Nat.le_trans hhigh ?_
        split <;> omega
      · rw [List.mem_cons, not_or] at hnone
        obtain ⟨hactive, hcount⟩ := hpress hnone.2
        refine ⟨hactive, hcount.trans ?_⟩
        split <;> omega
    | startStopTimer =>
      rw [List.count_cons_of_ne (by decide)]
      exact ⟨hlow, hhigh, fun hnone => absurd List.mem_cons_self hnone⟩
    | resetTimer => exact absurd rfl h.1

/-- Something is shown of every event. -/
theorem shows_mem {w : Watch} {l : List MachineStatus} {e : MachineStatus} (h : e ∈ l) :
    ∃ w' : Watch, w'.shows e ∈ w.trace l := by
  induction l generalizing w with
  | nil => cases h
  | cons e' rest ih =>
    rcases List.mem_cons.mp h with rfl | h
    · exact ⟨w.next e, List.mem_cons_self⟩
    · obtain ⟨w', hw'⟩ := ih (w := w.next e') h
      exact ⟨w', List.mem_cons_of_mem _ hw'⟩

theorem reset_shown {w : Watch} {l : List MachineStatus} (h : .reset ∉ w.trace l) :
    .resetTimer ∉ l := by
  intro hmem
  obtain ⟨w', hw'⟩ := shows_mem (w := w) hmem
  exact h hw'

theorem press_shown {w : Watch} {l : List MachineStatus} (hstarted : .started ∉ w.trace l)
    (hstopped : .stopped ∉ w.trace l) : .startStopTimer ∉ l := by
  intro hmem
  obtain ⟨w', hw'⟩ := shows_mem (w := w) hmem
  rw [shows] at hw'
  split at hw'
  · exact hstarted hw'
  · exact hstopped hw'

end Watch

/-- A count is shown. -/
def Shown.isCount : Shown → Bool
  | .count _ => true
  | _ => false

theorem Watch.trace_ticks (w : Watch) (l : List MachineStatus) :
    (w.trace l).countP Shown.isCount = l.count .countTimer := by
  induction l generalizing w with
  | nil => rfl
  | cons e rest ih =>
    rw [Watch.trace, List.countP_cons, ih, List.count_cons]
    cases e with
    | countTimer => rfl
    | startStopTimer =>
      rw [Watch.shows]
      split <;> rfl
    | resetTimer => rfl

/-- Two counts on the watch, without a reset between them. -/
theorem Watch.trace_between {w : Watch} {l : List MachineStatus} {before between later : List Shown}
    {m n : Nat} (h : w.trace l = before ++ .count m :: (between ++ .count n :: later))
    (hreset : .reset ∉ between) :
    m ≤ n ∧ n ≤ m + between.countP Shown.isCount + 1 ∧
      (.started ∉ between → .stopped ∉ between → n = m ∨ n = m + between.countP Shown.isCount + 1) := by
  obtain ⟨l₁, e, rest, -, -, hfirst, hrest⟩ := trace_split h
  generalize (w.after l₁).next e = w₁ at hfirst hrest
  obtain ⟨l₂, e', l₃, -, hbetween, hsecond, -⟩ := trace_split hrest
  obtain ⟨-, rfl⟩ := shows_count hfirst
  obtain ⟨rfl, rfl⟩ := shows_count hsecond
  have hnone : .resetTimer ∉ l₂ ++ [.countTimer] := by
    rw [List.mem_append, not_or, List.mem_singleton]
    exact ⟨reset_shown (hbetween ▸ hreset), by decide⟩
  have hlast : (w₁.after l₂).next .countTimer = w₁.after (l₂ ++ [.countTimer]) := by
    rw [after, after, List.foldl_append]
    rfl
  have hticks : (l₂ ++ [MachineStatus.countTimer]).count .countTimer = between.countP Shown.isCount + 1 := by
    rw [List.count_append, ← hbetween, trace_ticks]
    rfl
  obtain ⟨hlow, hhigh, hpress⟩ := after_count hnone w₁
  rw [hticks] at hhigh hpress
  rw [hlast]
  refine ⟨hlow, hhigh, fun hstarted hstopped => ?_⟩
  have hstill : .startStopTimer ∉ l₂ ++ [.countTimer] := by
    rw [List.mem_append, not_or, List.mem_singleton]
    exact ⟨press_shown (hbetween ▸ hstarted) (hbetween ▸ hstopped), by decide⟩
  have hcount := (hpress hstill).2
  split at hcount
  · exact .inr hcount
  · exact .inl hcount

/-! ### The lines -/

def chronometerText : List Char := "Chronometer (".toList
def startedText : List Char := "T0 activated, chronometer started".toList
def stoppedText : List Char := "T0 activated, chronometer stopped".toList
def resetText : List Char := "Chronometer reset".toList

/-- `"Chronometer (%02d:%02d)"`, of minutes and seconds. -/
def countText (countTimer : Nat) : List Char :=
  chronometerText ++ (padded 10 2 (countTimer / 60) ++ ':' :: (padded 10 2 (countTimer % 60) ++ [')']))

/-- What the handler logs of an event, from its variables after it. -/
def logged (e : Posted) (s : State) : List Char :=
  match e.status with
  | .countTimer => countText s.countTimer
  | .startStopTimer => if s.isTimerActive then startedText else stoppedText
  | .resetTimer => resetText

/-- The lines a step logs. -/
def printed (s : State) : Action → List (List Char)
  | .handler =>
    if s.handlerCreated then
      match s.handler with
      | .handling e => [logged e (handleStatus e (s.handling e))]
      | .receiving => []
    else []
  | _ => []

/-- What a line shows. -/
def readLine (l : List Char) : Option Shown :=
  if l.take 13 = chronometerText then
    let minutes := readNumber (l.drop 13)
    let seconds := readNumber (minutes.2.drop 1)
    some (.count (60 * minutes.1 + seconds.1))
  else if l = startedText then some .started
  else if l = stoppedText then some .stopped
  else if l = resetText then some .reset
  else none

/-- The count of a line is the one it was printed of, over an hour as well. -/
theorem readLine_countText (n : Nat) : readLine (countText n) = some (.count n) := by
  have hlength : chronometerText.length = 13 := rfl
  have hminutes : readNumber ((countText n).drop 13) = (n / 60, ':' :: (padded 10 2 (n % 60) ++ [')'])) := by
    rw [countText, List.drop_left' hlength]
    exact readNumber_padded 2 (n / 60) (.cons rfl _)
  have hseconds : readNumber (padded 10 2 (n % 60) ++ [')']) = (n % 60, [')']) :=
    readNumber_padded 2 (n % 60) (.cons rfl _)
  have hcount : 60 * (n / 60) + n % 60 = n := Nat.div_add_mod n 60
  rw [readLine, if_pos (by rw [countText, List.take_left' hlength]), hminutes]
  show some (Shown.count (60 * (n / 60) + (readNumber (padded 10 2 (n % 60) ++ [')'])).1)) = _
  rw [hseconds, hcount]

/-! ### The handler is a watch -/

def State.watch (s : State) : Watch := ⟨s.isTimerActive, s.countTimer⟩

theorem handleStatus_watch (e : Posted) (s : State) :
    (handleStatus e s).watch = s.watch.next e.status := by
  unfold handleStatus
  cases e.status with
  | countTimer =>
    dsimp only
    rw [Watch.next]
    split
    · next hactive => rw [if_pos (show s.watch.active = true from hactive)]; rfl
    · next hactive => rw [if_neg (show ¬ s.watch.active = true from hactive)]
  | startStopTimer =>
    dsimp only
    split <;> rfl
  | resetTimer => rfl

/-- A line shows what the watch shows. -/
theorem readLine_logged (e : Posted) (s : State) :
    readLine (logged e s) = some (s.watch.shows e.status) := by
  unfold logged
  cases e.status with
  | countTimer => exact readLine_countText s.countTimer
  | startStopTimer =>
    rw [Watch.shows]
    show readLine (if s.isTimerActive = true then startedText else stoppedText) = _
    cases hactive : s.isTimerActive with
    | true =>
      rw [if_pos (show s.watch.active = true from hactive)]
      rfl
    | false =>
      rw [if_neg (show ¬ s.watch.active = true by rw [State.watch, hactive]; exact Bool.false_ne_true)]
      rfl
  | resetTimer => rfl

/-- The log so far, read back, and where it leaves the watch. -/
structure Tells (log : List (List Char)) (s : State) : Prop where
  lines : log.map readLine = (Watch.start.trace s.statuses).map some
  watch : s.watch = Watch.start.after s.statuses

theorem sendMachineState_watch (status : MachineStatus) (run : Nat) (s : State) :
    (sendMachineState status run s).watch = s.watch ∧
      (sendMachineState status run s).statuses = s.statuses := by
  rcases sendMachineState_cases status run s with ⟨q, _, heq⟩ | ⟨_, heq⟩ <;> rw [heq] <;>
    exact ⟨rfl, rfl⟩

/-- Whoever else moves leaves the watch alone. -/
theorem others_watch {s : State} {a : Action} {s' : State} (ha : a ≠ .handler) (hm : Moves s a s') :
    s'.watch = s.watch ∧ s'.statuses = s.statuses := by
  cases hm with
  | presses ht =>
    exact sendMachineState_watch .startStopTimer s.epoch {s with touch := .clearing, presses := s.presses + 1}
  | ticks run htick => exact sendMachineState_watch .countTimer run {s with tick := none}
  | resets value => exact sendMachineState_watch .resetTimer s.epoch s
  | receives e q hh hq => exact absurd rfl ha
  | handles e hh => exact absurd rfl ha
  | _ => exact ⟨rfl, rfl⟩

/-- A step handles an event and logs it, or leaves the watch alone and logs nothing. -/
theorem step_printed (b : Build) (s : State) (a : Action) :
    (∃ e, printed s a = [logged e (handleStatus e (s.handling e))] ∧
      step b s a = handleStatus e (s.handling e)) ∨
    (printed s a = [] ∧ (step b s a).watch = s.watch ∧ (step b s a).statuses = s.statuses) := by
  have hothers : a ≠ .handler → (step b s a).watch = s.watch ∧ (step b s a).statuses = s.statuses :=
    fun ha => others_watch ha (step_moves b s a)
  cases a with
  | handler =>
    show (∃ e, printed s .handler = _ ∧ statusHandlerTask s = _) ∨
      (printed s .handler = [] ∧ (statusHandlerTask s).watch = _ ∧ (statusHandlerTask s).statuses = _)
    cases hcreated : s.handlerCreated with
    | false =>
      rw [printed, statusHandlerTask, hcreated]
      exact .inr ⟨rfl, rfl, rfl⟩
    | true =>
      rcases handler_moves hcreated with ⟨hh, _, heq⟩ | ⟨e, q, hh, _, heq⟩ | ⟨e, hh, heq⟩ <;>
        rw [heq, printed, if_pos hcreated, hh]
      · exact .inr ⟨rfl, rfl, rfl⟩
      · exact .inr ⟨rfl, rfl, rfl⟩
      · exact .inl ⟨e, rfl, rfl⟩
  | _ => exact .inr ⟨rfl, hothers fun h => Action.noConfusion h⟩

theorem step_tells (b : Build) (log : List (List Char)) (s : State) (a : Action) (h : Tells log s) :
    Tells (log ++ printed s a) (step b s a) := by
  rcases step_printed b s a with ⟨e, hprinted, heq⟩ | ⟨hprinted, hwatch, hstatuses⟩
  · obtain ⟨active, count, ticks, timer, hframe⟩ := handleStatus_frame e (s.handling e)
    have hnext : (handleStatus e (s.handling e)).watch = s.watch.next e.status :=
      handleStatus_watch e (s.handling e)
    have hstatuses : (handleStatus e (s.handling e)).statuses = s.statuses ++ [e.status] := by
      rw [hframe]
      exact List.map_append
    rw [hprinted, heq]
    refine ⟨?_, ?_⟩
    · rw [hstatuses, Watch.trace_append, List.map_append, List.map_append, h.lines, ← h.watch,
        List.map_singleton, readLine_logged, hnext]
      rfl
    · rw [hstatuses, Watch.after, List.foldl_append, hnext, h.watch]
      rfl
  · rw [hprinted, List.append_nil]
    exact ⟨by rw [hstatuses]; exact h.lines, by rw [hwatch, hstatuses]; exact h.watch⟩

/-! ### What the log tells -/

/-- The lines logged from reset on. -/
def log (b : Build) (actions : List Action) : List (List Char) :=
  (chronometer b).emitted printed State.start actions

theorem log_tells (b : Build) (actions : List Action) :
    Tells (log b actions) ((chronometer b).run actions) := by
  have hstart : Tells [] State.start := ⟨rfl, rfl⟩
  exact Machine.runFrom_history (M := chronometer b) (step_tells b) hstart actions

/-- **Read back, the log is what a watch shows of the accepted events one by one, as far as they are
handled, and the handler's variables are that watch's; for counts below 2^31.** -/
theorem log_reads_back (b : Build) (actions : List Action) :
    let s := (chronometer b).run actions
    (log b actions).map readLine = (Watch.start.trace s.statuses).map some ∧
      s.watch = Watch.start.after s.statuses ∧ s.handled <+: s.accepted := by
  intro s
  have hstart : InOrder State.start := rfl
  have horder : InOrder s := chronometer_invariant hstart moves_inOrder b actions
  have htells : Tells (log b actions) s := log_tells b actions
  exact ⟨htells.lines, htells.watch, _, horder.symm⟩

/-- A line that shows a count. -/
def isCountLine (l : List Char) : Bool := (readLine l).any Shown.isCount

/-- **Between two counts shown without a reset, both below 2^31, the count has not gone back and has not
grown by more than the ticks shown since; without a press either it has grown by all of them or by none.** -/
theorem shown_counts (b : Build) (actions : List Action) {before between later : List (List Char)}
    {first second : List Char} {m n : Nat}
    (hlog : log b actions = before ++ first :: (between ++ second :: later))
    (hfirst : readLine first = some (.count m)) (hsecond : readLine second = some (.count n))
    (hreset : ∀ l ∈ between, readLine l ≠ some .reset) :
    m ≤ n ∧ n ≤ m + between.countP isCountLine + 1 ∧
      ((∀ l ∈ between, readLine l ≠ some .started ∧ readLine l ≠ some .stopped) →
        n = m ∨ n = m + between.countP isCountLine + 1) := by
  have hlines := (log_tells b actions).lines
  rw [hlog, List.map_append, List.map_cons, hfirst, List.map_append, List.map_cons, hsecond] at hlines
  obtain ⟨shown₁, rest, htrace, -, hrest⟩ := List.map_eq_append_iff.mp hlines.symm
  obtain ⟨x, rest', rfl, hx, hrest'⟩ := List.map_eq_cons_iff.mp hrest
  obtain ⟨shown₂, rest'', rfl, hbetween, hrest''⟩ := List.map_eq_append_iff.mp hrest'
  obtain ⟨y, shown₃, rfl, hy, -⟩ := List.map_eq_cons_iff.mp hrest''
  obtain rfl := Option.some.inj hx
  obtain rfl := Option.some.inj hy
  have hread : ∀ x ∈ shown₂, ∃ l ∈ between, readLine l = some x := by
    intro x hx
    have hmem : some x ∈ between.map readLine := hbetween ▸ List.mem_map_of_mem hx
    exact List.mem_map.mp hmem
  have hticks : between.countP isCountLine = shown₂.countP Shown.isCount := by
    have hmapped : (between.map readLine).countP (·.any Shown.isCount) =
        (shown₂.map some).countP (·.any Shown.isCount) := by rw [hbetween]
    rw [List.countP_map, List.countP_map] at hmapped
    exact hmapped
  have hnone : Shown.reset ∉ shown₂ := by
    intro hmem
    obtain ⟨l, hl, hreads⟩ := hread _ hmem
    exact hreset l hl hreads
  obtain ⟨hlow, hhigh, hpress⟩ := Watch.trace_between htrace hnone
  rw [hticks]
  refine ⟨hlow, hhigh, fun hstill => hpress (fun hmem => ?_) (fun hmem => ?_)⟩
  · obtain ⟨l, hl, hreads⟩ := hread _ hmem
    exact (hstill l hl).1 hreads
  · obtain ⟨l, hl, hreads⟩ := hread _ hmem
    exact (hstill l hl).2 hreads

/-- A second, a pause and a second in it, then a resume and a second, with the handler after each. -/
def pausedTick : List Action :=
  let ticks : List Action := [.chrono, .chrono, .handler, .handler]
  let presses : List Action := [.isr 1, .touch, .touch, .handler, .handler, .touch]
  List.replicate 7 .appMain ++ ticks ++ presses ++ ticks ++ presses ++ ticks

theorem shown_counts_paused :
    let between := [stoppedText, countText 1, startedText]
    1 ≤ 2 ∧ 2 ≤ 1 + between.countP isCountLine + 1 ∧
      ((∀ l ∈ between, readLine l ≠ some .started ∧ readLine l ≠ some .stopped) →
        2 = 1 ∨ 2 = 1 + between.countP isCountLine + 1) :=
  shown_counts ⟨false, fun _ => 0⟩ pausedTick
    (show log ⟨false, fun _ => 0⟩ pausedTick =
      [] ++ countText 1 :: ([stoppedText, countText 1, startedText] ++ countText 2 :: []) from rfl)
    (readLine_countText 1) (readLine_countText 2) (by decide)

end Aniot.P3
