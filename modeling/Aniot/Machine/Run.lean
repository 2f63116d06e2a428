import Mathlib.Data.List.Basic

/-! Machines driven by a schedule.

A machine is a start state and what each action does to a state. An action names
who moves and what the environment answers; one that cannot happen yet leaves the
state alone, so a list of actions is an interleaving and every list is one.

Three rules carry every result about runs. `run_invariant`: what the start satisfies
and each step preserves holds after any list of actions. `Meets.invariant`: the
same when only steps that meet a condition preserve it, for the runs all of whose
steps do. `runFrom_count`: a number that grows by one with each step of a kind has
grown by how many of them a run has (`countSteps`). -/
namespace Aniot

/-- A start state, and what each action does. -/
structure Machine (S A : Type) where
  start : S
  step : S → A → S

namespace Machine
variable {S A : Type} (M : Machine S A)

/-- The state after a list of actions, from any state. -/
def runFrom (s : S) : List A → S
  | [] => s
  | a :: rest => runFrom (M.step s a) rest

/-- The state after a list of actions, from the start. -/
def run (actions : List A) : S := M.runFrom M.start actions

@[simp] theorem runFrom_nil (s : S) : M.runFrom s [] = s := rfl

@[simp] theorem runFrom_cons (s : S) (a : A) (rest : List A) :
    M.runFrom s (a :: rest) = M.runFrom (M.step s a) rest := rfl

theorem runFrom_append (s : S) (a b : List A) :
    M.runFrom s (a ++ b) = M.runFrom (M.runFrom s a) b := by
  induction a generalizing s with
  | nil => rfl
  | cons x rest ih => exact ih _

theorem run_append (a b : List A) : M.run (a ++ b) = M.runFrom (M.run a) b :=
  M.runFrom_append M.start a b

variable {M}

/-- What every step preserves, a run preserves. -/
theorem runFrom_invariant {Inv : S → Prop} (hstep : ∀ s a, Inv s → Inv (M.step s a)) (s : S)
    (h : Inv s) (actions : List A) : Inv (M.runFrom s actions) := by
  induction actions generalizing s with
  | nil => exact h
  | cons a rest ih => exact ih _ (hstep s a h)

variable (M) in
/-- What the start satisfies and every step preserves holds in every reachable state. -/
theorem run_invariant {Inv : S → Prop} (hstart : Inv M.start)
    (hstep : ∀ s a, Inv s → Inv (M.step s a)) (actions : List A) : Inv (M.run actions) :=
  runFrom_invariant hstep M.start hstart actions

variable (M) in
/-- Every step of the run meets `C`, a condition on the state before it and its action. -/
def Meets (C : S → A → Prop) (s : S) : List A → Prop
  | [] => True
  | a :: rest => C s a ∧ Meets C (M.step s a) rest

instance Meets.decidable {C : S → A → Prop} [∀ s a, Decidable (C s a)] :
    (s : S) → (actions : List A) → Decidable (M.Meets C s actions)
  | _, [] => inferInstanceAs (Decidable True)
  | s, a :: rest =>
    have : Decidable (M.Meets C (M.step s a) rest) := Meets.decidable (M.step s a) rest
    inferInstanceAs (Decidable (C s a ∧ M.Meets C (M.step s a) rest))

/-- What the steps that meet `C` preserve, a run whose steps all meet `C` preserves. -/
theorem Meets.invariant {C : S → A → Prop} {Inv : S → Prop}
    (hstep : ∀ s a, C s a → Inv s → Inv (M.step s a)) {s : S} {actions : List A}
    (hmeets : M.Meets C s actions) (h : Inv s) : Inv (M.runFrom s actions) := by
  induction actions generalizing s with
  | nil => exact h
  | cons a rest ih => exact ih hmeets.2 (hstep s a hmeets.1 h)

variable (M) in
/-- How many steps of the run pass `P`, a test of the state before and the action. -/
def countSteps (P : S → A → Bool) (s : S) : List A → Nat
  | [] => 0
  | a :: rest => (if P s a then 1 else 0) + countSteps P (M.step s a) rest

/-- What grows by one with each step that passes `P` and with no other counts them. -/
theorem runFrom_count {Inv : S → Prop} {P : S → A → Bool} {f : S → Nat}
    (hstep : ∀ s a, Inv s → Inv (M.step s a))
    (hcount : ∀ s a, Inv s → f (M.step s a) = f s + if P s a then 1 else 0) {s : S} (h : Inv s)
    (actions : List A) : f (M.runFrom s actions) = f s + M.countSteps P s actions := by
  induction actions generalizing s with
  | nil => rfl
  | cons a rest ih =>
    rw [runFrom_cons, ih (hstep s a h), hcount s a h, countSteps, Nat.add_assoc]

/-- No step of a run passes `P` exactly if their number is zero. -/
theorem meets_iff_countSteps {P : S → A → Bool} {s : S} {actions : List A} :
    M.Meets (fun s a => P s a = false) s actions ↔ M.countSteps P s actions = 0 := by
  induction actions generalizing s with
  | nil => exact iff_of_true trivial rfl
  | cons a rest ih =>
    rw [Meets, countSteps, ih]
    cases P s a <;> simp

/-- A condition that each action of a run meets in any state. -/
theorem Meets.of_forall {C : S → A → Prop} {actions : List A} (h : ∀ a ∈ actions, ∀ s, C s a) (s : S) :
    M.Meets C s actions := by
  induction actions generalizing s with
  | nil => trivial
  | cons a rest ih =>
    exact ⟨h a List.mem_cons_self s, ih (fun a ha => h a (List.mem_cons_of_mem _ ha)) (M.step s a)⟩

/-- Tests that agree on the actions of a run count the same of its steps. -/
theorem countSteps_congr {P Q : S → A → Bool} {actions : List A} (h : ∀ a ∈ actions, ∀ s, P s a = Q s a)
    (s : S) : M.countSteps P s actions = M.countSteps Q s actions := by
  induction actions generalizing s with
  | nil => rfl
  | cons a rest ih =>
    rw [countSteps, countSteps, h a List.mem_cons_self s,
      ih (fun a ha => h a (List.mem_cons_of_mem _ ha)) (M.step s a)]

end Machine

end Aniot
