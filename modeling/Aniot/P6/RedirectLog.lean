import Mathlib.Data.List.Basic

/-! `redirect_log` of `p6/src/main.c`, over all the calls of one boot.

A call opens the log for writing if it is the first of the boot and for appending if it
is not; it notes that it was called before it knows whether the file opened. A call
whose open fails is therefore the first call all the same, and the next one appends to
whatever an earlier boot left. -/
namespace Aniot.P6

/-- `WRITE_FILE` and `APPEND_FILE`. -/
inductive OpenMode where
  | write
  | append
deriving DecidableEq

/-- The file, if there is one, and `is_first_time`. -/
structure Log where
  file : Option (List UInt8)
  isFirstTime : Bool
deriving DecidableEq

/-- A call: what its message and arguments format to, and whether its `fopen` succeeds. -/
structure Call where
  message : List UInt8
  opens : Bool
deriving DecidableEq

/-- What is in the file once `fopen` has succeeded. -/
def OpenMode.opened (file : Option (List UInt8)) : OpenMode → List UInt8
  | .write => []
  | .append => file.getD []

def redirectLog (c : Call) (s : Log) : Int × Log :=
  let mode : OpenMode := if s.isFirstTime then .write else .append
  let s := {s with isFirstTime := false}
  if c.opens then (0, {s with file := some (mode.opened s.file ++ c.message)})
  else (-1, s)

/-- A list of calls, with what each returned. -/
def redirectLogs : List Call → Log → List Int × Log
  | [], s => ([], s)
  | c :: rest, s =>
    let (result, s) := redirectLog c s
    let (results, s) := redirectLogs rest s
    (result :: results, s)

/-- The log as a boot finds it. -/
def Log.boot (old : Option (List UInt8)) : Log := ⟨old, true⟩

/-- The log holds what the calls that returned 0 were given and nothing else, and a call
that returned -1 changes neither the file nor what later calls do. -/
structure Exact (old : Option (List UInt8)) (calls : List Call) : Prop where
  content :
    let (results, s) := redirectLogs calls (.boot old)
    0 ∈ results →
      s.file = some (((calls.zip results).filter (·.2 = 0)).flatMap (·.1.message))
  failed : ∀ before c after, calls = before ++ c :: after →
    let s := (redirectLogs before (.boot old)).2
    (redirectLog c s).1 = -1 →
      (redirectLog c s).2.file = s.file ∧
      (redirectLogs after (redirectLog c s).2).1 = (redirectLogs after s).1 ∧
      (redirectLogs after (redirectLog c s).2).2.file = (redirectLogs after s).2.file

/-! ### What a list of calls does -/

/-- What the calls that open the file are given, in order. -/
def written (calls : List Call) : List UInt8 := (calls.filter (·.opens)).flatMap (·.message)

theorem results_eq (calls : List Call) (s : Log) :
    (redirectLogs calls s).1 = calls.map fun c => if c.opens then 0 else -1 := by
  induction calls generalizing s with
  | nil => rfl
  | cons c rest ih =>
    show (redirectLog c s).1 :: (redirectLogs rest (redirectLog c s).2).1 = _
    rw [ih, List.map_cons]
    congr 1
    unfold redirectLog
    dsimp only
    split <;> rfl

theorem zero_mem_results {calls : List Call} {s : Log} :
    0 ∈ (redirectLogs calls s).1 ↔ ∃ c ∈ calls, c.opens = true := by
  rw [results_eq, List.mem_map]
  refine exists_congr fun c => and_congr_right fun _ => ?_
  cases c.opens <;> simp

theorem written_results (calls : List Call) (s : Log) :
    ((calls.zip (redirectLogs calls s).1).filter (·.2 = 0)).flatMap (·.1.message) = written calls := by
  rw [results_eq]
  unfold written
  induction calls with
  | nil => rfl
  | cons c rest ih =>
    rw [List.map_cons, List.zip_cons_cons]
    cases hopens : c.opens <;> simp [hopens, ih]

/-- After the first call of a boot the others append. -/
theorem appended_eq (calls : List Call) (file : Option (List UInt8)) :
    (redirectLogs calls ⟨file, false⟩).2.file =
      if calls.any (·.opens) then some (file.getD [] ++ written calls) else file := by
  induction calls generalizing file with
  | nil => rfl
  | cons c rest ih =>
    show (redirectLogs rest (redirectLog c ⟨file, false⟩).2).2.file = _
    cases hopens : c.opens with
    | false =>
      rw [show (redirectLog c ⟨file, false⟩).2 = ⟨file, false⟩ by simp [redirectLog, hopens], ih]
      simp [written, hopens]
    | true =>
      rw [show (redirectLog c ⟨file, false⟩).2 = ⟨some (file.getD [] ++ c.message), false⟩ by
        simp [redirectLog, hopens, OpenMode.opened], ih]
      simp only [List.any_cons, hopens, Bool.true_or, if_true, written, List.filter_cons,
        List.flatMap_cons, Option.getD_some, List.append_assoc]
      split
      · rfl
      · next hnone =>
        have hrest : rest.filter (·.opens) = [] := by simpa [List.filter_eq_nil_iff] using hnone
        rw [hrest]
        simp

/-- A call that fails leaves the file, and is a call of the boot. -/
theorem redirectLog_failed {c : Call} {s : Log} (h : (redirectLog c s).1 = -1) :
    c.opens = false ∧ (redirectLog c s).2 = ⟨s.file, false⟩ := by
  unfold redirectLog at h ⊢
  dsimp only at h ⊢
  split at h
  · cases h
  · next hopens =>
    rw [if_neg hopens]
    exact ⟨Bool.eq_false_iff.mpr hopens, rfl⟩

theorem isFirstTime_after (c : Call) (rest : List Call) (s : Log) :
    (redirectLogs (c :: rest) s).2.isFirstTime = false := by
  have hcalled : ∀ c s, (redirectLog c s).2.isFirstTime = false := by
    intro c s
    unfold redirectLog
    dsimp only
    split <;> rfl
  show (redirectLogs rest (redirectLog c s).2).2.isFirstTime = false
  induction rest generalizing c s with
  | nil => exact hcalled c s
  | cons d rest ih => exact ih d (redirectLog c s).2

/-- A whole boot: the first call decides what the others append to. -/
theorem boot_file (old : Option (List UInt8)) (c : Call) (rest : List Call) :
    (redirectLogs (c :: rest) (.boot old)).2.file =
      if c.opens then some (written (c :: rest))
      else if rest.any (·.opens) then some (old.getD [] ++ written rest) else old := by
  show (redirectLogs rest (redirectLog c (.boot old)).2).2.file = _
  cases hopens : c.opens with
  | false =>
    rw [show (redirectLog c (.boot old)).2 = ⟨old, false⟩ by simp [redirectLog, Log.boot, hopens],
      appended_eq]
    rfl
  | true =>
    rw [show (redirectLog c (.boot old)).2 = ⟨some c.message, false⟩ by
      simp [redirectLog, Log.boot, OpenMode.opened, hopens], appended_eq]
    simp only [if_true, Option.getD_some, written, List.filter_cons, hopens, List.flatMap_cons]
    split
    · rfl
    · next hnone =>
      have hrest : rest.filter (·.opens) = [] := by simpa [List.filter_eq_nil_iff] using hnone
      rw [hrest]
      simp

/-! ### When the log is exact -/

/-- The first call opens the file, or no call does, or there is nothing from before. -/
def StartsClean (old : Option (List UInt8)) (calls : List Call) : Prop :=
  (∀ c ∈ calls.head?, c.opens = true) ∨ old.getD [] = [] ∨ ∀ c ∈ calls, c.opens = false

/-- What the first call leaves to the others when it does not open the file. -/
theorem later_same {old : Option (List UInt8)} {c : Call} {after : List Call}
    (hclean : StartsClean old (c :: after)) (hopens : c.opens = false) :
    (redirectLogs after ⟨old, false⟩).2.file = (redirectLogs after (.boot old)).2.file := by
  cases after with
  | nil => rfl
  | cons d rest =>
    rw [appended_eq, boot_file, List.any_cons]
    cases hd : d.opens with
    | false => simp [written, hd]
    | true =>
      rcases hclean with hfirst | hold | hnone
      · have := hfirst c rfl
        rw [hopens] at this
        cases this
      · simp [hold]
      · have := hnone d (by simp)
        rw [hd] at this
        cases this

theorem written_failed {c : Call} {rest : List Call} (hopens : c.opens = false) :
    written (c :: rest) = written rest := by
  simp [written, hopens]

theorem clean_of_content {old : Option (List UInt8)} {calls : List Call}
    (h : (∃ c ∈ calls, c.opens = true) →
      (redirectLogs calls (.boot old)).2.file = some (written calls)) : StartsClean old calls := by
  cases calls with
  | nil => exact .inl nofun
  | cons c rest =>
    rw [boot_file] at h
    cases hopens : c.opens with
    | true => exact .inl fun d hd => by rw [← Option.some.inj hd]; exact hopens
    | false =>
      by_cases hany : ∃ d ∈ rest, d.opens = true
      · -- what opened appended to the old content, so there was none
        obtain ⟨d, hd, hd'⟩ := hany
        have hfile := h ⟨d, List.mem_cons_of_mem c hd, hd'⟩
        rw [hopens, if_neg nofun, if_pos (List.any_eq_true.mpr ⟨d, hd, hd'⟩),
          written_failed hopens] at hfile
        exact .inr (.inl (List.append_left_eq_self.mp (Option.some.inj hfile)))
      · refine .inr (.inr fun d hd => ?_)
        rcases List.mem_cons.mp hd with rfl | hd
        · exact hopens
        · exact Bool.eq_false_iff.mpr fun hd' => hany ⟨d, hd, hd'⟩

theorem content_of_clean {old : Option (List UInt8)} {calls : List Call}
    (hclean : StartsClean old calls) (h : ∃ c ∈ calls, c.opens = true) :
    (redirectLogs calls (.boot old)).2.file = some (written calls) := by
  obtain ⟨d, hd, hd'⟩ := h
  cases calls with
  | nil => cases hd
  | cons c rest =>
    rw [boot_file]
    cases hopens : c.opens with
    | true => rfl
    | false =>
      have hd : d ∈ rest := (List.mem_cons.mp hd).resolve_left fun he => by
        rw [he, hopens] at hd'
        cases hd'
      rw [if_neg nofun, if_pos (List.any_eq_true.mpr ⟨d, hd, hd'⟩), written_failed hopens]
      rcases hclean with hfirst | hold | hnone
      · have := hfirst c rfl
        rw [hopens] at this
        cases this
      · rw [hold]
        rfl
      · have := hnone d (List.mem_cons_of_mem c hd)
        rw [hd'] at this
        cases this

/-- **The log is exact when the first call of the boot opens the file, or none does, or
nothing was left from before, and at no other time.** -/
theorem log_exact_iff (old : Option (List UInt8)) (calls : List Call) :
    Exact old calls ↔ StartsClean old calls := by
  constructor
  · intro h
    have hcontent := h.content
    dsimp only at hcontent
    rw [zero_mem_results, written_results] at hcontent
    exact clean_of_content hcontent
  · intro hclean
    constructor
    · dsimp only
      rw [zero_mem_results, written_results]
      exact content_of_clean hclean
    · intro before c after hsplit s hfailed
      obtain ⟨hopens, hstate⟩ := redirectLog_failed hfailed
      rw [hstate]
      refine ⟨rfl, by rw [results_eq, results_eq], ?_⟩
      cases before with
      | nil =>
        rw [hsplit] at hclean
        exact later_same hclean hopens
      | cons d rest =>
        -- not the first call, so `is_first_time` is false already
        have hfirst : s.isFirstTime = false := isFirstTime_after d rest _
        have heq : s = ⟨s.file, false⟩ := by rw [← hfirst]
        rw [← heq]

/-- The first open of the boot fails and the second does not: the log keeps what was there. -/
theorem old_log_kept : ¬ Exact (some [111, 108, 100]) [⟨[97], false⟩, ⟨[98], true⟩] := by
  intro h
  exact absurd (h.content (by decide)) (by decide)

end Aniot.P6
