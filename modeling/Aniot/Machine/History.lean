import Aniot.Machine.Run

/-! History variables.

What the steps of a run give out, in order, is a list beside the run; the code neither
keeps nor reads it. `runFrom_history` carries an invariant between a state and the
history that led to it; by `runFrom_emitted` the history is itself a run, of the machine that
takes its steps from it. -/
namespace Aniot.Machine
variable {S A B : Type} (M : Machine S A)

/-- What the steps of a run give out, each a list of its own. -/
def emitted (out : S → A → List B) (s : S) : List A → List B
  | [] => []
  | a :: rest => out s a ++ emitted out (M.step s a) rest

variable {M}

/-- What holds of a state and a history, and of the next state with what the step adds. -/
theorem runFrom_history {out : S → A → List B} {Inv : List B → S → Prop}
    (hstep : ∀ history s a, Inv history s → Inv (history ++ out s a) (M.step s a))
    {history : List B} {s : S} (h : Inv history s) (actions : List A) :
    Inv (history ++ M.emitted out s actions) (M.runFrom s actions) := by
  induction actions generalizing history s with
  | nil =>
    rw [emitted, List.append_nil]
    exact h
  | cons a rest ih =>
    have hrest := ih (hstep history s a h)
    rwa [List.append_assoc] at hrest

/-- Where each step gives out something of each thing another history has of it, so does the run. -/
theorem emitted_flatMap {C : Type} {out : S → A → List B} {happened : S → A → List C} {f : C → List B}
    (h : ∀ s a, out s a = (happened s a).flatMap f) (s : S) (actions : List A) :
    M.emitted out s actions = (M.emitted happened s actions).flatMap f := by
  induction actions generalizing s with
  | nil => rfl
  | cons a rest ih => rw [emitted, emitted, List.flatMap_append, h s a, ih (M.step s a)]

/-- Steps that each give out one thing give out as many as there are. -/
theorem emitted_length (out : S → A → B) (s : S) (actions : List A) :
    (M.emitted (fun s a => [out s a]) s actions).length = actions.length := by
  induction actions generalizing s with
  | nil => rfl
  | cons a rest ih => rw [emitted, List.length_append, List.length_singleton, ih, List.length_cons, Nat.add_comm]

/-- Where each step shows another machine what it gives out and no more, the run shows it a run. -/
theorem runFrom_emitted {T : Type} {N : Machine T B} {out : S → A → List B} {p : S → T}
    (h : ∀ s a, p (M.step s a) = N.runFrom (p s) (out s a)) (s : S) (actions : List A) :
    p (M.runFrom s actions) = N.runFrom (p s) (M.emitted out s actions) := by
  induction actions generalizing s with
  | nil => rfl
  | cons a rest ih => rw [runFrom_cons, ih, h, emitted, runFrom_append]

end Aniot.Machine
