import Mathlib.Data.List.Basic

/-! A bounded first-in first-out queue.

The bound is a field, so an overfull queue cannot be built. `send` refuses when
every place is taken and `receive` when there is nothing to take; each has one
lemma for what it does when it succeeds and one for when it does not. -/
namespace Aniot

/-- At most `capacity` items, oldest first. -/
@[ext] structure Fifo (α : Type) (capacity : Nat) where
  items : List α
  bound : items.length ≤ capacity

namespace Fifo
variable {α : Type} {capacity : Nat}

/-- A queue as it is created. -/
def empty : Fifo α capacity := ⟨[], Nat.zero_le capacity⟩

/-- Add an item at the back, if there is a place. -/
def send (q : Fifo α capacity) (x : α) : Option (Fifo α capacity) :=
  if h : q.items.length < capacity then
    some ⟨q.items ++ [x], by rw [List.length_append]; exact h⟩
  else none

/-- Take the item at the front, if there is one. -/
def receive (q : Fifo α capacity) : Option (α × Fifo α capacity) :=
  match h : q.items with
  | [] => none
  | x :: rest => some (x, ⟨rest, by have := q.bound; rw [h] at this; exact Nat.le_of_succ_le this⟩)

@[simp] theorem empty_items : (empty : Fifo α capacity).items = [] := rfl

/-- A send that succeeds found a place and appended the item. -/
theorem send_eq_some {q q' : Fifo α capacity} {x : α} :
    q.send x = some q' ↔ q.items.length < capacity ∧ q'.items = q.items ++ [x] := by
  unfold send
  constructor
  · intro h
    split at h
    · next hroom => exact ⟨hroom, by rw [← Option.some.inj h]⟩
    · cases h
  · rintro ⟨hroom, hitems⟩
    rw [dif_pos hroom, Option.some.injEq, Fifo.ext_iff]
    exact hitems.symm

/-- A send that is refused found every place taken. -/
theorem send_eq_none {q : Fifo α capacity} {x : α} :
    q.send x = none ↔ q.items.length = capacity := by
  have := q.bound
  unfold send
  split <;> simp <;> omega

/-- A receive that succeeds took the oldest item. -/
theorem receive_eq_some {q q' : Fifo α capacity} {x : α} :
    q.receive = some (x, q') ↔ q.items = x :: q'.items := by
  obtain ⟨items, bound⟩ := q
  cases items with
  | nil => simp [receive]
  | cons y rest => simp [receive, Fifo.ext_iff]

/-- A receive that is refused found nothing. -/
theorem receive_eq_none {q : Fifo α capacity} : q.receive = none ↔ q.items = [] := by
  obtain ⟨items, bound⟩ := q
  cases items <;> simp [receive]

end Fifo

end Aniot
