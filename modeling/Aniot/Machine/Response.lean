import Aniot.Machine.Run

/-! Bounded response.

A rank is a number that no step raises and that each step of one kind lowers until it is
zero: how many more steps of that kind something still waits for. A run with as many
of them as the rank of its first state ends at rank zero, whatever moves between them.
No fairness is assumed; the steps that matter are counted. `Meets.rank_zero` is for runs
whose steps all meet a condition, `runFrom_rank_zero` for all runs. -/
namespace Aniot.Machine
variable {S A : Type} {M : Machine S A} {C : S → A → Prop} {Inv : S → Prop} {P : A → Bool}
  {rank : S → Nat}

/-- A run lowers the rank by the number of its steps that pass `P`. -/
theorem Meets.rank_le (hstep : ∀ s a, C s a → Inv s → Inv (M.step s a))
    (hrank : ∀ s a, C s a → Inv s → rank (M.step s a) ≤ rank s - if P a then 1 else 0) {s : S}
    {actions : List A} (hmeets : M.Meets C s actions) (h : Inv s) :
    rank (M.runFrom s actions) ≤ rank s - actions.countP P := by
  induction actions generalizing s with
  | nil => exact Nat.le_refl _
  | cons a rest ih =>
    have hfirst := hrank s a hmeets.1 h
    have hrest := ih hmeets.2 (hstep s a hmeets.1 h)
    rw [runFrom_cons, List.countP_cons]
    omega

/-- What the rank counts has happened once as many steps have been made. -/
theorem Meets.rank_zero (hstep : ∀ s a, C s a → Inv s → Inv (M.step s a))
    (hrank : ∀ s a, C s a → Inv s → rank (M.step s a) ≤ rank s - if P a then 1 else 0) {s : S}
    {actions : List A} (hmeets : M.Meets C s actions) (h : Inv s)
    (hcount : rank s ≤ actions.countP P) : rank (M.runFrom s actions) = 0 := by
  have hrun := Meets.rank_le hstep hrank hmeets h
  omega

theorem meets_true (s : S) (actions : List A) : M.Meets (fun _ _ => True) s actions := by
  induction actions generalizing s with
  | nil => trivial
  | cons a rest ih => exact ⟨trivial, ih _⟩

theorem runFrom_rank_zero (hstep : ∀ s a, Inv s → Inv (M.step s a))
    (hrank : ∀ s a, Inv s → rank (M.step s a) ≤ rank s - if P a then 1 else 0) {s : S} (h : Inv s)
    {actions : List A} (hcount : rank s ≤ actions.countP P) : rank (M.runFrom s actions) = 0 :=
  Meets.rank_zero (fun s a _ => hstep s a) (fun s a _ => hrank s a) (meets_true s actions) h hcount

end Aniot.Machine
