import Aniot.Machine.Run

/-! A program that launches tasks while it is still initialising.

The program is a list of statements, each assigning a cell or launching a task; once
launched, a task may run at any point between two statements. Reading a cell that
nothing has assigned yet is a fault, and so is assigning one that is not there.

`prepared` is a definite-assignment check: going through the statements in order,
every assigned cell exists, and whatever a task may ever read has been assigned
before the task is launched. A program that passes has no fault in any interleaving
(`prepared_sound`). Two ways to fail it are faults indeed: an assignment to a cell
that is not there (`outside_faults`), and a launched task that comes to read a cell
the program never assigns (`unassigned_faults`). -/
namespace Aniot.Launch
variable {Cell Val Task Pc Answer : Type} [DecidableEq Cell] [DecidableEq Task]

inductive Stmt (Cell Val Task : Type) where
  | assign (c : Cell) (v : Val)
  | launch (t : Task)

inductive Fault (Cell Task : Type) where
  | outside (c : Cell)
  | unassigned (t : Task) (c : Cell)
deriving DecidableEq

/-- Which cells exist, and the tasks: where each starts, and what one stretch of it
reads and where it ends, given the environment's answer. -/
structure Tasks (Cell Task Pc Answer : Type) where
  valid : Cell → Bool
  entry : Task → Pc
  code : Task → Pc → Answer → List Cell × Pc

structure State (Cell Val Task Pc : Type) where
  rest : List (Stmt Cell Val Task)
  memory : Cell → Option Val
  tasks : Task → Option Pc
  faults : List (Fault Cell Task)

inductive Action (Task Answer : Type) where
  | main
  | task (t : Task) (answer : Answer)

variable (T : Tasks Cell Task Pc Answer)

/-- The next statement of the program. -/
def main (s : State Cell Val Task Pc) : State Cell Val Task Pc :=
  match s.rest with
  | [] => s
  | .assign c v :: rest =>
    if T.valid c then {s with rest, memory := Function.update s.memory c (some v)}
    else {s with rest, faults := s.faults ++ [.outside c]}
  | .launch t :: rest => {s with rest, tasks := Function.update s.tasks t (some (T.entry t))}

/-- The next stretch of a task, if it has been launched. -/
def task (t : Task) (answer : Answer) (s : State Cell Val Task Pc) : State Cell Val Task Pc :=
  match s.tasks t with
  | none => s
  | some pc =>
    let (reads, pc) := T.code t pc answer
    {s with
      tasks := Function.update s.tasks t (some pc)
      faults := s.faults ++ (reads.filter fun c => (s.memory c).isNone).map (.unassigned t)}

def step (s : State Cell Val Task Pc) : Action Task Answer → State Cell Val Task Pc
  | .main => main T s
  | .task t answer => task T t answer s

/-- The program and its tasks, before the first statement. -/
def machine (program : List (Stmt Cell Val Task)) :
    Machine (State Cell Val Task Pc) (Action Task Answer) :=
  ⟨⟨program, fun _ => none, fun _ => none, []⟩, step T⟩

/-- Every assigned cell exists, and the cells in `reads t` are assigned before `t` is
launched; `assigned` are those assigned so far. -/
def prepared (reads : Task → List Cell) (assigned : List Cell) : List (Stmt Cell Val Task) → Bool
  | [] => true
  | .assign c _ :: rest => T.valid c && prepared reads (c :: assigned) rest
  | .launch t :: rest => (reads t).all (· ∈ assigned) && prepared reads assigned rest

/-- The cells a program assigns. -/
def cells (program : List (Stmt Cell Val Task)) : List Cell :=
  program.filterMap fun
    | .assign c _ => some c
    | .launch _ => none

/-! ### The check, part by part -/

variable {T} {reads : Task → List Cell}

omit [DecidableEq Task] in
theorem prepared_mono {assigned assigned' : List Cell} (hsub : assigned ⊆ assigned')
    {program : List (Stmt Cell Val Task)} (h : prepared T reads assigned program = true) :
    prepared T reads assigned' program = true := by
  induction program generalizing assigned assigned' with
  | nil => rfl
  | cons stmt rest ih =>
    cases stmt with
    | assign c v =>
      simp only [prepared, Bool.and_eq_true] at h ⊢
      exact ⟨h.1, ih (List.cons_subset_cons c hsub) h.2⟩
    | launch t =>
      simp only [prepared, Bool.and_eq_true, List.all_eq_true, decide_eq_true_eq] at h ⊢
      exact ⟨fun c hc => hsub (h.1 c hc), ih hsub h.2⟩

omit [DecidableEq Task] in
/-- What follows may read what came before. -/
theorem prepared_append {assigned : List Cell} {p q : List (Stmt Cell Val Task)}
    (hp : prepared T reads assigned p = true) (hq : prepared T reads (cells p ++ assigned) q = true) :
    prepared T reads assigned (p ++ q) = true := by
  induction p generalizing assigned with
  | nil => exact hq
  | cons stmt rest ih =>
    cases stmt with
    | assign c v =>
      simp only [List.cons_append, prepared, Bool.and_eq_true] at hp ⊢
      refine ⟨hp.1, ih hp.2 (prepared_mono ?_ hq)⟩
      exact fun c' hc' => by simpa [cells, or_left_comm] using hc'
    | launch t =>
      simp only [List.cons_append, prepared, Bool.and_eq_true] at hp ⊢
      exact ⟨hp.1, ih hp.2 hq⟩

omit [DecidableEq Task] in
/-- Parts that need nothing of one another. -/
theorem prepared_flatMap {ι : Type} {assigned : List Cell} {parts : ι → List (Stmt Cell Val Task)}
    {l : List ι} (h : ∀ i ∈ l, prepared T reads assigned (parts i) = true) :
    prepared T reads assigned (l.flatMap parts) = true := by
  induction l with
  | nil => rfl
  | cons i rest ih =>
    rw [List.flatMap_cons]
    refine prepared_append (h i List.mem_cons_self) (prepared_mono ?_ (ih fun j hj => ?_))
    · exact List.subset_append_right ..
    · exact h j (List.mem_cons_of_mem i hj)

omit [DecidableEq Cell] [DecidableEq Task] in
@[simp] theorem cells_append (p q : List (Stmt Cell Val Task)) : cells (p ++ q) = cells p ++ cells q :=
  List.filterMap_append

omit [DecidableEq Cell] [DecidableEq Task] in
theorem mem_cells {program : List (Stmt Cell Val Task)} {c : Cell} {v : Val}
    (h : .assign c v ∈ program) : c ∈ cells program :=
  List.mem_filterMap.mpr ⟨_, h, rfl⟩

/-! ### Prepared programs do not fault -/

/-- Nothing has gone wrong, what is left is prepared given what memory holds, and
memory holds what every launched task may read. -/
structure Sound (T : Tasks Cell Task Pc Answer) (reads : Task → List Cell)
    (s : State Cell Val Task Pc) : Prop where
  faults : s.faults = []
  rest : ∃ assigned, prepared T reads assigned s.rest = true ∧ ∀ c ∈ assigned, (s.memory c).isSome
  tasks : ∀ t, (s.tasks t).isSome → ∀ c ∈ reads t, (s.memory c).isSome

theorem main_sound {s : State Cell Val Task Pc} (h : Sound T reads s) :
    Sound T reads (main T s) := by
  obtain ⟨hfaults, ⟨assigned, hprepared, hassigned⟩, htasks⟩ := h
  unfold main
  cases hrest : s.rest with
  | nil => exact ⟨hfaults, ⟨assigned, hprepared, hassigned⟩, htasks⟩
  | cons stmt rest =>
    rw [hrest] at hprepared
    cases stmt with
    | assign c v =>
      simp only [prepared, Bool.and_eq_true] at hprepared
      dsimp only
      rw [if_pos hprepared.1]
      -- assigning only adds to what memory holds
      have hkeep : ∀ c', (s.memory c').isSome → (Function.update s.memory c (some v) c').isSome := by
        intro c' hc'
        by_cases he : c' = c
        · rw [he, Function.update_self]
          rfl
        · rw [Function.update_of_ne he]
          exact hc'
      refine ⟨hfaults, ⟨c :: assigned, hprepared.2, fun c' hc' => ?_⟩,
        fun t ht c' hc' => hkeep c' (htasks t ht c' hc')⟩
      rcases List.mem_cons.mp hc' with rfl | hc'
      · show (Function.update s.memory c' (some v) c').isSome
        rw [Function.update_self]
        rfl
      · exact hkeep c' (hassigned c' hc')
    | launch t =>
      simp only [prepared, Bool.and_eq_true, List.all_eq_true, decide_eq_true_eq] at hprepared
      refine ⟨hfaults, ⟨assigned, hprepared.2, hassigned⟩, fun t' ht' c hc => ?_⟩
      by_cases he : t' = t
      · subst he
        exact hassigned c (hprepared.1 c hc)
      · dsimp only at ht'
        rw [Function.update_of_ne he] at ht'
        exact htasks t' ht' c hc

theorem task_sound
    (hreads : ∀ t pc answer, ∀ c ∈ (T.code t pc answer).1, c ∈ reads t) {s : State Cell Val Task Pc}
    (h : Sound T reads s) (t : Task) (answer : Answer) : Sound T reads (task T t answer s) := by
  unfold task
  cases hpc : s.tasks t with
  | none => exact h
  | some pc =>
    obtain ⟨hfaults, hrest, htasks⟩ := h
    have hheld : ∀ c ∈ (T.code t pc answer).1, (s.memory c).isSome :=
      fun c hc => htasks t (by rw [hpc]; rfl) c (hreads t pc answer c hc)
    refine ⟨?_, hrest, fun t' ht' => ?_⟩
    · show s.faults ++ _ = []
      rw [hfaults, List.nil_append, List.map_eq_nil_iff, List.filter_eq_nil_iff]
      intro c hc
      rw [Option.isNone_iff_eq_none, ← ne_eq, Option.ne_none_iff_isSome]
      exact hheld c hc
    · by_cases he : t' = t
      · subst he
        exact htasks t' (by rw [hpc]; rfl)
      · dsimp only at ht'
        rw [Function.update_of_ne he] at ht'
        exact htasks t' ht'

/-- **A prepared program has no fault in any interleaving** with the tasks it launches. -/
theorem prepared_sound
    (hreads : ∀ t pc answer, ∀ c ∈ (T.code t pc answer).1, c ∈ reads t)
    {program : List (Stmt Cell Val Task)} (h : prepared T reads [] program = true)
    (actions : List (Action Task Answer)) : ((machine T program).run actions).faults = [] := by
  have hstart : Sound T reads (machine T program).start :=
    ⟨rfl, ⟨[], h, fun c hc => absurd hc List.not_mem_nil⟩, nofun⟩
  have hstep : ∀ s a, Sound T reads s → Sound T reads ((machine T program).step s a) := by
    intro s a hs
    cases a with
    | main => exact main_sound hs
    | task t answer => exact task_sound hreads hs t answer
  exact (Machine.run_invariant (machine T program) hstart hstep actions).faults

/-- What memory holds and what is left come from the program. -/
structure Within (program : List (Stmt Cell Val Task)) (s : State Cell Val Task Pc) : Prop where
  rest : ∀ stmt ∈ s.rest, stmt ∈ program
  memory : ∀ c v, s.memory c = some v → .assign c v ∈ program

theorem main_within {program : List (Stmt Cell Val Task)} {s : State Cell Val Task Pc}
    (h : Within program s) : Within program (main T s) := by
  obtain ⟨hwithin, hmemory⟩ := h
  unfold main
  cases hrest : s.rest with
  | nil => exact ⟨hwithin, hmemory⟩
  | cons stmt rest =>
    rw [hrest] at hwithin
    have htail : ∀ stmt' ∈ rest, stmt' ∈ program := fun _ h => hwithin _ (List.mem_cons_of_mem _ h)
    cases stmt with
    | launch t => exact ⟨htail, hmemory⟩
    | assign c v =>
      dsimp only
      split
      · refine ⟨htail, fun c' v' hv => ?_⟩
        dsimp only at hv
        by_cases he : c' = c
        · subst he
          rw [Function.update_self, Option.some.injEq] at hv
          subst hv
          exact hwithin _ List.mem_cons_self
        · rw [Function.update_of_ne he] at hv
          exact hmemory c' v' hv
      · exact ⟨htail, hmemory⟩

omit [DecidableEq Cell] in
theorem task_within {program : List (Stmt Cell Val Task)} {s : State Cell Val Task Pc}
    (h : Within program s) (t : Task) (answer : Answer) : Within program (task T t answer s) := by
  unfold task
  split <;> exact ⟨h.rest, h.memory⟩

/-- Memory holds nothing the program does not assign. -/
theorem memory_assigned (program : List (Stmt Cell Val Task)) (actions : List (Action Task Answer))
    (c : Cell) (v : Val) (h : ((machine T program).run actions).memory c = some v) :
    .assign c v ∈ program := by
  have hstep : ∀ s a, Within program s → Within program ((machine T program).step s a) := by
    intro s a hs
    cases a with
    | main => exact main_within hs
    | task t answer => exact task_within hs t answer
  have hstart : Within program (machine T program).start := ⟨fun _ h => h, nofun⟩
  exact (Machine.run_invariant (machine T program) hstart hstep actions).memory c v h

/-! ### Programs that fault -/

theorem step_faults (s : State Cell Val Task Pc) (a : Action Task Answer) :
    s.faults <+: (step T s a).faults := by
  cases a with
  | main =>
    simp only [step, main]
    split
    · exact List.prefix_rfl
    · split
      · exact List.prefix_rfl
      · exact List.prefix_append ..
    · exact List.prefix_rfl
  | task t answer =>
    simp only [step, task]
    split
    · exact List.prefix_rfl
    · exact List.prefix_append ..

/-- A fault stays on record. -/
theorem fault_stays (program : List (Stmt Cell Val Task)) (s : State Cell Val Task Pc)
    (f : Fault Cell Task) (h : f ∈ s.faults) (actions : List (Action Task Answer)) :
    f ∈ ((machine T program).runFrom s actions).faults := by
  have hstep : ∀ s a, f ∈ s.faults → f ∈ ((machine T program).step s a).faults :=
    fun s a hs => (step_faults s a).subset hs
  exact Machine.runFrom_invariant hstep s h actions

theorem main_rest {stmt : Stmt Cell Val Task} {rest : List (Stmt Cell Val Task)}
    {s : State Cell Val Task Pc} (hrest : s.rest = stmt :: rest) : (main T s).rest = rest := by
  unfold main
  rw [hrest]
  cases stmt with
  | assign c v =>
    dsimp only
    split <;> rfl
  | launch t => rfl

theorem main_tasks {stmt : Stmt Cell Val Task} {rest : List (Stmt Cell Val Task)}
    {s : State Cell Val Task Pc} (hrest : s.rest = stmt :: rest) (t : Task) :
    (main T s).tasks t = some (T.entry t) ∨ stmt ≠ .launch t ∧ (main T s).tasks t = s.tasks t := by
  unfold main
  rw [hrest]
  cases stmt with
  | assign c v =>
    refine .inr ⟨nofun, ?_⟩
    dsimp only
    split <;> rfl
  | launch t' =>
    by_cases he : t = t'
    · subst he
      exact .inl (Function.update_self ..)
    · exact .inr ⟨fun hs => he (Stmt.launch.inj hs).symm, Function.update_of_ne he ..⟩

/-- Run to its end, a program that assigns a cell that is not there has a fault. -/
theorem outside_faults {program : List (Stmt Cell Val Task)} {c : Cell} {v : Val}
    (h : .assign c v ∈ program) (hc : T.valid c = false) :
    .outside c ∈ ((machine T program).run (List.replicate program.length .main)).faults := by
  suffices hrun : ∀ (stmts : List (Stmt Cell Val Task)) (s : State Cell Val Task Pc),
      s.rest = stmts → .assign c v ∈ stmts →
      .outside c ∈ ((machine T program).runFrom s (List.replicate stmts.length .main)).faults from
    hrun program _ rfl h
  intro stmts
  induction stmts with
  | nil => exact fun _ _ h => absurd h List.not_mem_nil
  | cons stmt rest ih =>
    intro s hrest hmem
    rw [List.length_cons, List.replicate_succ, Machine.runFrom_cons]
    rcases List.mem_cons.mp hmem with rfl | hmem
    · refine fault_stays program _ _ ?_ _
      show _ ∈ (main T s).faults
      simp [main, hrest, hc]
    · exact ih _ (main_rest hrest) hmem

/-- At the end of the program, a task it launches stands at its entry. -/
theorem launched {program : List (Stmt Cell Val Task)} {t : Task} (h : .launch t ∈ program) :
    ((machine T program).run (List.replicate program.length .main)).tasks t = some (T.entry t) := by
  suffices hrun : ∀ (stmts : List (Stmt Cell Val Task)) (s : State Cell Val Task Pc),
      s.rest = stmts → (.launch t ∈ stmts ∨ s.tasks t = some (T.entry t)) →
      ((machine T program).runFrom s (List.replicate stmts.length .main)).tasks t
        = some (T.entry t) from hrun program _ rfl (.inl h)
  intro stmts
  induction stmts with
  | nil => exact fun s _ h => h.resolve_left List.not_mem_nil
  | cons stmt rest ih =>
    intro s hrest h
    rw [List.length_cons, List.replicate_succ, Machine.runFrom_cons]
    refine ih _ (main_rest hrest) ?_
    rcases main_tasks hrest t with hentry | ⟨hne, hsame⟩
    · exact .inr hentry
    · exact h.imp (fun h => (List.mem_cons.mp h).resolve_left hne.symm) hsame.trans

/-- Where a task is after its first stretches. -/
def reached (T : Tasks Cell Task Pc Answer) (t : Task) (pc : Pc) (answers : List Answer) : Pc :=
  answers.foldl (fun pc answer => (T.code t pc answer).2) pc

/-- A task that comes to read a cell memory does not hold. -/
theorem read_faults (program : List (Stmt Cell Val Task)) {t : Task} {c : Cell} {answer : Answer}
    {answers : List Answer} {s : State Cell Val Task Pc} {pc : Pc} (hpc : s.tasks t = some pc)
    (hmem : s.memory c = none) (hread : c ∈ (T.code t (reached T t pc answers) answer).1) :
    .unassigned t c ∈
      ((machine T program).runFrom s ((answers ++ [answer]).map (.task t))).faults := by
  induction answers generalizing s pc with
  | nil =>
    show _ ∈ (task T t answer s).faults
    simp only [task, hpc, List.mem_append, List.mem_map, List.mem_filter]
    exact .inr ⟨c, ⟨hread, by rw [hmem]; rfl⟩, rfl⟩
  | cons a rest ih =>
    have htask : (task T t a s).tasks t = some (T.code t pc a).2 := by
      simp only [task, hpc]
      exact Function.update_self ..
    have hsame : (task T t a s).memory = s.memory := by
      simp only [task, hpc]
    exact ih htask ((congrFun hsame c).trans hmem) hread

/-- Some run faults when a launched task can come to read a cell the program does not
assign: the program runs to its end, and then the task up to that read. -/
theorem unassigned_faults {program : List (Stmt Cell Val Task)} {t : Task} {c : Cell}
    (hlaunch : .launch t ∈ program) (hc : ∀ v, .assign c v ∉ program) {answers : List Answer}
    {answer : Answer} (hread : c ∈ (T.code t (reached T t (T.entry t) answers) answer).1) :
    .unassigned t c ∈ ((machine T program).run (List.replicate program.length .main ++
      (answers ++ [answer]).map (.task t))).faults := by
  rw [Machine.run_append]
  refine read_faults program (launched hlaunch) ?_ hread
  cases hmem : ((machine T program).run (List.replicate program.length .main)).memory c with
  | none => rfl
  | some v => exact absurd (memory_assigned program _ c v hmem) (hc v)

end Aniot.Launch
