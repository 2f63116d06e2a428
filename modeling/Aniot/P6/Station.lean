import Mathlib.Data.List.Forall2
import Aniot.P6.Readout
import Aniot.P6.RedirectLog
import Aniot.P6.LogFormat

/-! The recorder, its log and the file, over any number of boots.

`redirect_log` is installed once the file system is mounted. From then on the reading of
a `WRITE_LOG` and the error of a refused post go to the file, and a read-out prints what it
finds there. Each move comes with the time stamp and the outcome of the `fopen` it may
need. A restart, which can come at any time, takes everything but the file; that the mount of a later
boot fails and formats the file system anew (`format_if_mount_failed`) is not modelled. A call of
`redirect_log` is one step, and so is a read-out.

What the file holds is always the messages of `kept`: a boot whose first call opens the
file leaves its own, any other adds to those before (`file_eq`). So a read-out prints the
first five of them (`read_outs_print_kept`), and those are the boot's readings in order as
long as nothing is lost on the way (`read_out_prints_readings`). -/
namespace Aniot.P6.Station
open Esp

/-- A call of `redirect_log`: its time stamp, the reading logged or none for the error, and
whether its `fopen` succeeds. -/
structure Entry where
  stamp : UInt32
  reading : Option Int
  opens : Bool
deriving DecidableEq

def message (f : LogFormat) (e : Entry) : List UInt8 :=
  match e.reading with
  | some value => f.info e.stamp value
  | none => f.error e.stamp

def call (f : LogFormat) (e : Entry) : Call := ⟨message f e, e.opens⟩

/-- The recorder and the log, with the calls of this boot, those of the boots before and
what the read-outs have printed. -/
structure State where
  recorder : P6.State
  log : Log
  entries : List Entry
  boots : List (List Entry)
  printed : List (List (List UInt8))

inductive Action where
  | moves (a : P6.Action) (stamp : UInt32) (opens : Bool)
  | restarts
deriving DecidableEq

/-- A log that has never been written does not open for reading. -/
def answered (s : State) : P6.Action → P6.Action
  | .handler opens => .handler (opens && s.log.file.isSome)
  | a => a

/-- A full queue refuses the post, and the error goes to the log. -/
def refuses (s : P6.State) (e : Posted) : Bool := s.handler ≠ .mounting && (s.queueOut.send e).isNone

/-- What a move of the recorder logs. -/
def logs (s : P6.State) : P6.Action → Option (Option Int)
  | .appMain => none
  | .hall _ =>
    match s.hall with
    | .posting reading => if refuses s ⟨.writeLog, some reading⟩ then some none else none
    | _ => none
  | .reader =>
    match s.reader with
    | .posting => if refuses s ⟨.readLog, none⟩ then some none else none
    | _ => none
  | .handler _ =>
    if s.handlerCreated then
      match s.handler with
      | .handling e =>
        match e.status with
        | .writeLog => some (some s.valueSensor)
        | .readLog => none
      | _ => none
    else none

/-- The move opens the log to read it out. -/
def readsOut (s : P6.State) : P6.Action → Bool
  | .handler true => s.handlerCreated && s.handler = .opening
  | _ => false

def step (f : LogFormat) (s : State) : Action → State
  | .moves a stamp opens =>
    let a := answered s a
    let printed := if readsOut s.recorder a then [readLogs (s.log.file.getD []) 0] else []
    match logs s.recorder a with
    | none => {s with recorder := P6.step s.recorder a, printed := s.printed ++ printed}
    | some reading =>
      let e : Entry := ⟨stamp, reading, opens⟩
      {s with
        recorder := P6.step s.recorder a
        log := (redirectLog (call f e) s.log).2
        entries := s.entries ++ [e]
        printed := s.printed ++ printed}
  | .restarts =>
    {s with
      recorder := P6.recorder.start
      log := .boot s.log.file
      entries := []
      boots := s.boots ++ [s.entries]}

/-- The station as it is first switched on, its file system just formatted. -/
def station (f : LogFormat) : Machine State Action where
  start :=
    { recorder := P6.recorder.start
      log := .boot none
      entries := []
      boots := []
      printed := [] }
  step := step f

/-! ### What is kept -/

/-- A boot whose first call opens the file keeps its own calls that do; any other adds them. -/
def keptAfter (kept boot : List Entry) : List Entry :=
  if boot.head?.any (·.opens) then boot.filter (·.opens) else kept ++ boot.filter (·.opens)

/-- The calls whose messages are in the file. -/
def State.kept (s : State) : List Entry := (s.boots ++ [s.entries]).foldl keptAfter []

/-- The file with so many calls' messages; without any there is none. -/
def content (f : LogFormat) (kept : List Entry) : Option (List UInt8) :=
  if kept = [] then none else some (kept.map (message f)).flatten

/-- What a step does, with what it found. -/
inductive Steps (f : LogFormat) (s : State) : Action → State → Prop where
  | silent (a : P6.Action) (stamp : UInt32) (opens : Bool) (hlogs : logs s.recorder (answered s a) = none) :
      Steps f s (.moves a stamp opens) {s with
        recorder := P6.step s.recorder (answered s a)
        printed := s.printed ++
          if readsOut s.recorder (answered s a) then [readLogs (s.log.file.getD []) 0] else []}
  | logs (a : P6.Action) (stamp : UInt32) (opens : Bool) (reading : Option Int)
      (hlogs : logs s.recorder (answered s a) = some reading) :
      Steps f s (.moves a stamp opens) {s with
        recorder := P6.step s.recorder (answered s a)
        log := (redirectLog (call f ⟨stamp, reading, opens⟩) s.log).2
        entries := s.entries ++ [⟨stamp, reading, opens⟩]}
  | restarts : Steps f s .restarts (step f s .restarts)

/-- What logs reads nothing out. -/
theorem readsOut_of_logs {s : P6.State} {a : P6.Action} {reading : Option Int}
    (h : logs s a = some reading) : readsOut s a = false := by
  cases a with
  | handler opens =>
    cases opens with
    | false => rfl
    | true =>
      rw [readsOut, Bool.and_eq_false_iff]
      refine .inr (decide_eq_false fun hopening => ?_)
      simp [logs, hopening] at h
  | _ => rfl

theorem step_steps (f : LogFormat) (s : State) (a : Action) : Steps f s a (step f s a) := by
  cases a with
  | moves a stamp opens =>
    unfold step
    dsimp only
    split
    · next hlogs => exact .silent a stamp opens hlogs
    · next reading hlogs =>
      rw [readsOut_of_logs hlogs, if_neg Bool.false_ne_true, List.append_nil]
      exact .logs a stamp opens reading hlogs
  | restarts => exact .restarts

theorem step_recorder (f : LogFormat) (s : State) (a : P6.Action) (stamp : UInt32) (opens : Bool) :
    (step f s (.moves a stamp opens)).recorder = P6.step s.recorder (answered s a) := by
  unfold step
  dsimp only
  split <;> rfl

theorem step_printed (f : LogFormat) (s : State) (a : P6.Action) (stamp : UInt32) (opens : Bool) :
    (step f s (.moves a stamp opens)).printed = s.printed ++
      if readsOut s.recorder (answered s a) then [readLogs (s.log.file.getD []) 0] else [] := by
  unfold step
  dsimp only
  split <;> rfl

/-! ### The file -/

theorem redirectLogs_snoc (calls : List Call) (c : Call) (s : Log) :
    (redirectLogs (calls ++ [c]) s).2 = (redirectLog c (redirectLogs calls s).2).2 := by
  induction calls generalizing s with
  | nil => rfl
  | cons d rest ih => exact ih _

theorem written_calls (f : LogFormat) (boot : List Entry) :
    written (boot.map (call f)) = ((boot.filter (·.opens)).map (message f)).flatten := by
  rw [written, List.filter_map, List.flatMap_map]
  rfl

/-- A boot leaves the messages of what is kept after it. -/
theorem content_keptAfter (f : LogFormat) (kept boot : List Entry) :
    (redirectLogs (boot.map (call f)) (.boot (content f kept))).2.file =
      content f (keptAfter kept boot) := by
  cases boot with
  | nil => exact congrArg (content f) (List.append_nil kept).symm
  | cons e rest =>
    rw [List.map_cons, boot_file, ← List.map_cons, written_calls, written_calls, keptAfter]
    cases hopens : e.opens with
    | true => simp [call, hopens, content]
    | false =>
      have hany : (rest.map (call f)).any (·.opens) = rest.any (·.opens) := by
        rw [List.any_map]
        rfl
      simp only [call, hopens, hany, List.head?_cons, Option.any_some, Bool.false_eq_true, if_false,
        List.filter_cons]
      by_cases hrest : rest.filter (·.opens) = []
      · have hnone : rest.any (·.opens) = false := by
          simpa [List.filter_eq_nil_iff] using hrest
        rw [hnone, hrest, List.append_nil, if_neg Bool.false_ne_true]
      · have hsome : rest.any (·.opens) = true := by
          rw [List.any_eq_true]
          obtain ⟨x, hx⟩ := List.exists_mem_of_ne_nil _ hrest
          exact ⟨x, List.mem_filter.mp hx⟩
        rw [hsome, if_pos rfl, content, content,
          if_neg fun h => hrest (List.append_eq_nil_iff.mp h).2, List.map_append, List.flatten_append]
        by_cases hkept : kept = []
        · rw [if_pos hkept, hkept]
          rfl
        · rw [if_neg hkept]
          rfl

/-- The log is what the calls of this boot make of what the boots before have left. -/
def Written (f : LogFormat) (s : State) : Prop :=
  s.log = (redirectLogs (s.entries.map (call f)) (.boot (content f (s.boots.foldl keptAfter [])))).2

theorem Written.file {f : LogFormat} {s : State} (h : Written f s) : s.log.file = content f s.kept := by
  rw [h, content_keptAfter, State.kept, List.foldl_append]
  rfl

theorem step_written (f : LogFormat) (s : State) (a : Action) (h : Written f s) :
    Written f (step f s a) := by
  have hs := step_steps f s a
  generalize step f s a = s' at hs
  cases hs with
  | silent a stamp opens hlogs => exact h
  | logs a stamp opens reading hlogs =>
    rw [Written, List.map_append, List.map_singleton, redirectLogs_snoc]
    exact congrArg (fun log => (redirectLog (call f ⟨stamp, reading, opens⟩) log).2) h
  | restarts =>
    show Log.boot s.log.file = Log.boot (content f ((s.boots ++ [s.entries]).foldl keptAfter []))
    rw [h.file, State.kept]

theorem run_written (f : LogFormat) (actions : List Action) : Written f ((station f).run actions) := by
  have hstart : Written f (station f).start := rfl
  exact Machine.run_invariant (station f) hstart (step_written f) actions

/-- What every step of the recorder preserves holds in every boot. -/
theorem recorder_invariant {Inv : P6.State → Prop} (hstart : Inv P6.recorder.start)
    (hstep : ∀ s a, Inv s → Inv (P6.step s a)) (f : LogFormat) (actions : List Action) :
    Inv ((station f).run actions).recorder := by
  have hmoves (s : State) (a : Action) (h : Inv s.recorder) : Inv (step f s a).recorder := by
    have hs := step_steps f s a
    generalize step f s a = s' at hs
    cases hs with
    | silent a stamp opens hlogs => exact hstep _ _ h
    | logs a stamp opens reading hlogs => exact hstep _ _ h
    | restarts => exact hstart
  exact Machine.runFrom_invariant (M := station f) hmoves (station f).start hstart actions

theorem isLine_message (f : LogFormat) (e : Entry) : IsLine (message f e) := by
  unfold message
  split
  · exact f.info_line _ _
  · exact f.error_line _

/-- The loop prints the first messages of a file, each as it was written. -/
theorem readLogs_content (f : LogFormat) {kept : List Entry} (h : kept ≠ []) :
    readLogs ((content f kept).getD []) 0 = (kept.map (message f)).take numLogsRead := by
  rw [content, if_neg h]
  refine readLogs_lines fun l hl => ?_
  obtain ⟨e, _, rfl⟩ := List.mem_map.mp hl
  exact isLine_message f e

theorem content_isSome {f : LogFormat} {kept : List Entry} : (content f kept).isSome = true ↔ kept ≠ [] := by
  rw [content]
  split
  · next h => simp [h]
  · next h => simp [h]

/-- The handler at its `fopen` prints the first five messages of what is kept, or finds nothing
kept and returns. -/
theorem opening_prints (f : LogFormat) {s : State} (hbegun : Begun s.recorder)
    (hfile : s.log.file = content f s.kept) (hopening : s.recorder.handler = .opening) (opens : Bool)
    (stamp : UInt32) (redirects : Bool) :
    let t := step f s (.moves (.handler opens) stamp redirects)
    t.recorder.handler = (if opens = true ∧ s.kept ≠ [] then .receiving else .returned) ∧
    t.printed = s.printed ++
      (if opens = true ∧ s.kept ≠ [] then [(s.kept.map (message f)).take numLogsRead] else []) := by
  intro t
  have hreturned : s.recorder.appMain = .returned := (hbegun.branch (by rw [hopening]; rfl)).1
  have hcreated : s.recorder.handlerCreated = true := hbegun.handler_created hreturned
  rw [step_recorder, step_printed]
  by_cases hreads : opens = true ∧ s.kept ≠ []
  · have hanswer : answered s (.handler opens) = .handler true := by
      rw [answered, hfile, hreads.1, content_isSome.mpr hreads.2]
      rfl
    have hprints : readsOut s.recorder (.handler true) = true := by
      simp [readsOut, hcreated, hopening]
    rw [hanswer, opening_step hbegun hopening, if_pos hreads, if_pos hreads, if_pos hprints, hfile,
      readLogs_content f hreads.2]
    exact ⟨rfl, rfl⟩
  · have hanswer : answered s (.handler opens) = .handler false := by
      rw [answered, hfile]
      congr 1
      rw [Bool.eq_false_iff, ne_eq, Bool.and_eq_true, content_isSome]
      exact hreads
    rw [hanswer, opening_step hbegun hopening, if_neg hreads, if_neg hreads]
    exact ⟨rfl, rfl⟩

theorem run_recorder (f : LogFormat) (actions : List Action) :
    Begun ((station f).run actions).recorder :=
  recorder_invariant start_begun (fun s a h => moves_begun s a _ h (step_moves s a)) f actions

/-- A reading is overwritten, a post refused, or a message not written. -/
def loses (s : State) : Action → Bool
  | .moves a _ opens =>
    overwrites s.recorder a || logs s.recorder a = some none || ((logs s.recorder a).isSome && !opens)
  | .restarts => false

theorem sendMachineState_logged (e : Posted) (s : P6.State) :
    (sendMachineState e s).logged = s.logged := by
  obtain ⟨q, accepted, refused, _, heq⟩ := sendMachineState_frame e s
  rw [heq]

/-- What a step adds to the values logged is what it hands to the log. -/
theorem step_logged (s : P6.State) (a : P6.Action) :
    (P6.step s a).logged = s.logged ++ (logs s a).join.toList := by
  cases a with
  | appMain =>
    obtain ⟨m, created, hall, reader, heq⟩ := appMain_frame s
    rw [P6.step, heq]
    exact (List.append_nil _).symm
  | hall v =>
    have hnone : (logs s (.hall v)).join = none := by
      rw [logs]
      split
      · split <;> rfl
      · rfl
    rw [hnone, P6.step, sensorHallTimerCallback]
    split
    · split <;> exact (List.append_nil _).symm
    · exact (List.append_nil _).symm
    · rw [sendMachineState_logged]
      exact (List.append_nil _).symm
  | reader =>
    have hnone : (logs s .reader).join = none := by
      rw [logs]
      split
      · split <;> rfl
      · rfl
    rw [hnone, P6.step, readerTimerCallback]
    split
    · split <;> exact (List.append_nil _).symm
    · rw [sendMachineState_logged]
      exact (List.append_nil _).symm
  | handler opens =>
    rw [P6.step, statusHandlerTask, logs]
    by_cases hcreated : s.handlerCreated = true
    · rw [if_pos hcreated, if_pos hcreated]
      cases hh : s.handler with
      | receiving =>
        dsimp only
        split <;> exact (List.append_nil _).symm
      | handling e => cases he : e.status <;> simp [he]
      | _ => exact (List.append_nil _).symm
    · rw [if_neg hcreated, if_neg hcreated]
      exact (List.append_nil _).symm

theorem logs_answered (s : State) (a : P6.Action) : logs s.recorder (answered s a) = logs s.recorder a := by
  cases a <;> rfl

theorem overwrites_answered (s : State) (a : P6.Action) :
    overwrites s.recorder (answered s a) = overwrites s.recorder a := by
  cases a <;> rfl

/-- In this boot each reading announced has been logged, and every message written. -/
structure Lossless (s : State) : Prop where
  announced : Announced s.recorder
  entries : s.entries.map (·.reading) = s.recorder.logged.map some
  opens : ∀ e ∈ s.entries, e.opens = true

theorem step_lossless (f : LogFormat) (s : State) (a : Action) (hC : loses s a = false)
    (h : Lossless s) : Lossless (step f s a) := by
  have hs := step_steps f s a
  generalize step f s a = s' at hs
  cases hs with
  | restarts => exact ⟨⟨⟨rfl, nofun⟩, nofun, nofun, rfl⟩, rfl, nofun⟩
  | silent a stamp opens hlogs =>
    simp only [loses, Bool.or_eq_false_iff] at hC
    have hannounced := moves_announced ((overwrites_answered s a).trans hC.1.1) h.announced (step_moves _ _)
    have hlogged := step_logged s.recorder (answered s a)
    rw [hlogs] at hlogged
    refine ⟨hannounced, h.entries.trans ?_, h.opens⟩
    show _ = (P6.step s.recorder (answered s a)).logged.map some
    rw [hlogged]
    simp
  | logs a stamp opens reading hlogs =>
    rw [logs_answered] at hlogs
    simp only [loses, hlogs, Bool.or_eq_false_iff] at hC
    obtain ⟨⟨hoverwrites, hsome⟩, hopens⟩ := hC
    have hannounced := moves_announced ((overwrites_answered s a).trans hoverwrites) h.announced (step_moves _ _)
    have hlogged := step_logged s.recorder (answered s a)
    rw [logs_answered, hlogs] at hlogged
    cases reading with
    | none => simp at hsome
    | some value =>
      refine ⟨hannounced, ?_, fun e he => ?_⟩
      · show _ = (P6.step s.recorder (answered s a)).logged.map some
        rw [hlogged, List.map_append, List.map_append, h.entries]
        rfl
      · rcases List.mem_append.mp he with he | he
        · exact h.opens e he
        · rw [List.mem_singleton.mp he]
          simpa using hopens

/-- A boot that has logged something and lost nothing keeps just its own calls. -/
theorem Lossless.kept {s : State} (h : Lossless s) (hentries : s.entries ≠ []) : s.kept = s.entries := by
  have hall : s.entries.filter (·.opens) = s.entries := List.filter_eq_self.mpr h.opens
  have hfirst : s.entries.head?.any (·.opens) = true := by
    obtain ⟨e, rest, heq⟩ := List.exists_cons_of_ne_nil hentries
    rw [heq, List.head?_cons]
    exact h.opens e (by rw [heq]; exact List.mem_cons_self)
  rw [State.kept, List.foldl_append]
  show keptAfter _ s.entries = s.entries
  rw [keptAfter, if_pos hfirst, hall]

/-- The messages of readings are lines with these readings, each with a time stamp of its own. -/
theorem lines_of_readings (f : LogFormat) {entries : List Entry} {values : List Int}
    (h : entries.map (·.reading) = values.map some) :
    List.Forall₂ (fun line value => ∃ stamp, line = f.info stamp value) (entries.map (message f))
      values := by
  induction entries generalizing values with
  | nil =>
    obtain rfl : values = [] := List.map_eq_nil_iff.mp h.symm
    exact .nil
  | cons e rest ih =>
    cases values with
    | nil => cases h
    | cons value values =>
      rw [List.map_cons, List.map_cons, List.cons.injEq] at h
      refine .cons ⟨e.stamp, ?_⟩ (ih h.2)
      rw [message, h.1]

/-- **In a run that loses nothing, over any number of boots, a read-out of a boot that has logged
something prints the first five readings accepted before it in this boot, in order, each
as a line of its own.** -/
theorem read_out_prints_readings (f : LogFormat) (actions : List Action)
    (hC : (station f).Meets (fun s a => loses s a = false) (station f).start actions)
    (stamp : UInt32) (redirects : Bool) :
    let s := (station f).run actions
    s.recorder.handler = .opening → s.recorder.logged ≠ [] →
    s.recorder.accepted = s.recorder.handled ++ s.recorder.pending ∧
    ∃ lines, (step f s (.moves (.handler true) stamp redirects)).printed = s.printed ++ [lines] ∧
      List.Forall₂ (fun line value => ∃ stamp, line = f.info stamp value) lines
        ((readings s.recorder.handled).take numLogsRead) := by
  intro s hopening hlogged
  have hstart : Lossless (station f).start := ⟨⟨⟨rfl, nofun⟩, nofun, nofun, rfl⟩, rfl, nofun⟩
  have hlossless : Lossless s := Machine.Meets.invariant (step_lossless f) hC hstart
  have hentries : s.entries ≠ [] := by
    intro hnone
    have hmap := hlossless.entries
    rw [hnone] at hmap
    exact hlogged (List.map_eq_nil_iff.mp hmap.symm)
  have hkept : s.kept = s.entries := hlossless.kept hentries
  have hprints := (opening_prints f (run_recorder f actions) (run_written f actions).file hopening true
    stamp redirects).2
  rw [if_pos ⟨rfl, by rw [hkept]; exact hentries⟩, hkept] at hprints
  refine ⟨hlossless.announced.inOrder.order, _, hprints, ?_⟩
  rw [← hlossless.announced.logged]
  exact List.forall₂_take numLogsRead (lines_of_readings f hlossless.entries)

/-- Two readings are logged after an earlier boot has logged one, and a read-out begins. -/
def secondBoot : List Action :=
  let boot := started ++ [.handler true]
  let logsOne (v : Int) : List P6.Action := measures v ++ [.handler true, .handler true]
  let moves (l : List P6.Action) : List Action := l.map fun a => .moves a 0 true
  moves (boot ++ logsOne 7) ++ .restarts :: moves (boot ++ logsOne 1 ++ logsOne 2 ++ asksAndBegins)

theorem read_out_prints_readings_second_boot :
    let s := (station espLogFormat).run secondBoot
    s.recorder.accepted = s.recorder.handled ++ s.recorder.pending ∧
    ∃ lines, (step espLogFormat s (.moves (.handler true) 0 true)).printed = s.printed ++ [lines] ∧
      List.Forall₂ (fun line value => ∃ stamp, line = espLogFormat.info stamp value) lines
        ((readings s.recorder.handled).take numLogsRead) :=
  read_out_prints_readings espLogFormat secondBoot (by decide) 0 true (by decide) (by decide)

end Aniot.P6.Station
