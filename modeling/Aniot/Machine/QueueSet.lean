import Mathlib.Algebra.BigOperators.Group.Finset.Basic

/-! Queue sets: several queues read through one queue of handles.

A reader of a queue set takes a handle, then an item from the queue it names. What
this amounts to is one queue of items in the order they were sent, whichever member
each went to. `Represents merged pending queues` says so: `pending` are the handles
of `merged` in order, and each member queue holds its own items of `merged` in
order. A send, and a select followed by its receive, keep the relation by adding and
taking one item of `merged` (`Represents.send`, `Represents.receive`); replaying the
handles on the queues gives `merged` back (`Represents.replay`). -/
namespace Aniot.QueueSet
variable {ι α : Type} [DecidableEq ι]

/-- The items of a merged list that went to queue `i`. -/
def member (merged : List (ι × α)) (i : ι) : List α :=
  (merged.filter (fun e => e.1 = i)).map Prod.snd

@[simp] theorem member_nil (i : ι) : member ([] : List (ι × α)) i = [] := rfl

@[simp] theorem member_append (a b : List (ι × α)) (i : ι) :
    member (a ++ b) i = member a i ++ member b i := by
  simp [member]

@[simp] theorem member_cons_self (i : ι) (x : α) (rest : List (ι × α)) :
    member ((i, x) :: rest) i = x :: member rest i := by
  simp [member]

theorem member_cons_ne {i j : ι} (h : j ≠ i) (x : α) (rest : List (ι × α)) :
    member ((j, x) :: rest) i = member rest i := by
  simp [member, h]

/-- Take, for each handle in turn, the oldest item left in the queue it names. -/
def replay : List ι → (ι → List α) → Option (List α)
  | [], _ => some []
  | i :: rest, queues =>
    match queues i with
    | [] => none
    | x :: items => (replay rest (Function.update queues i items)).map (x :: ·)

/-- The handles and the member queues are those of one merged queue. -/
structure Represents (merged : List (ι × α)) (pending : List ι) (queues : ι → List α) : Prop where
  handles : pending = merged.map Prod.fst
  items : ∀ i, queues i = member merged i

namespace Represents
variable {merged : List (ι × α)} {pending : List ι} {queues : ι → List α}

theorem nil : Represents ([] : List (ι × α)) [] (fun _ => []) := ⟨rfl, fun _ => rfl⟩

/-- A send puts the item at the back of its queue and the handle at the back of the set. -/
theorem send (h : Represents merged pending queues) (i : ι) (x : α) :
    Represents (merged ++ [(i, x)]) (pending ++ [i])
      (Function.update queues i (queues i ++ [x])) := by
  refine ⟨by rw [h.handles, List.map_append]; rfl, fun j => ?_⟩
  rw [member_append]
  by_cases hj : j = i
  · subst hj
    rw [Function.update_self, member_cons_self, member_nil, h.items]
  · rw [Function.update_of_ne hj, member_cons_ne (Ne.symm hj), member_nil, List.append_nil, h.items]

/-- The queue a pending handle names is not empty, and taking its oldest item takes
the oldest item of all. -/
theorem receive {i : ι} {rest : List ι} (h : Represents merged (i :: rest) queues) :
    ∃ x merged', merged = (i, x) :: merged' ∧ queues i = x :: member merged' i ∧
      Represents merged' rest (Function.update queues i (member merged' i)) := by
  obtain ⟨hhandles, hitems⟩ := h
  cases merged with
  | nil => cases hhandles
  | cons e merged' =>
    obtain ⟨j, x⟩ := e
    obtain ⟨rfl, hrest⟩ := List.cons.inj hhandles
    refine ⟨x, merged', rfl, by rw [hitems, member_cons_self], hrest, fun k => ?_⟩
    by_cases hk : k = i
    · subst hk
      rw [Function.update_self]
    · rw [Function.update_of_ne hk, hitems, member_cons_ne (Ne.symm hk)]

/-- Replaying the handles on the queues gives the merged items, in order. -/
theorem replay (h : Represents merged pending queues) :
    replay pending queues = some (merged.map Prod.snd) := by
  induction pending generalizing merged queues with
  | nil =>
    have hnil : merged = [] := List.map_eq_nil_iff.mp h.handles.symm
    rw [hnil]
    rfl
  | cons i rest ih =>
    obtain ⟨x, merged', rfl, hqueue, hrest⟩ := h.receive
    simp only [QueueSet.replay, hqueue, ih hrest, Option.map_some, List.map_cons]

/-- A queue holds as many items as the set holds handles of it. -/
theorem count_eq (h : Represents merged pending queues) (i : ι) :
    pending.count i = (queues i).length := by
  rw [h.handles, h.items]
  clear h
  induction merged with
  | nil => rfl
  | cons e rest ih =>
    obtain ⟨j, x⟩ := e
    by_cases hj : j = i
    · subst hj
      rw [List.map_cons, List.count_cons_self, ih, member_cons_self, List.length_cons]
    · rw [List.map_cons, List.count_cons_of_ne hj, ih, member_cons_ne hj]

/-- There are as many pending handles as items in all the queues. -/
theorem length_eq [Fintype ι] (h : Represents merged pending queues) :
    pending.length = ∑ i, (queues i).length := by
  have hcount : ∑ i, (pending : Multiset ι).count i = Multiset.card (pending : Multiset ι) :=
    Multiset.sum_count_eq_card (fun i _ => Finset.mem_univ i)
  rw [← Multiset.coe_card, ← hcount]
  exact Finset.sum_congr rfl (fun i _ => by rw [Multiset.coe_count, h.count_eq i])

end Represents

end Aniot.QueueSet
