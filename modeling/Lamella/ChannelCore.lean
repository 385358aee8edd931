import Mathlib.Data.List.Basic

/-!
A bounded first-in first-out channel.  The capacity bound travels with the contents, so
an overfull channel cannot be built.
-/

structure Channel (Item : Type) (capacity : Nat) where
  items : List Item
  bounded : items.length ≤ capacity
deriving DecidableEq

namespace Channel

variable {Item : Type} {capacity : Nat}

def empty : Channel Item capacity := ⟨[], Nat.zero_le capacity⟩

def readyToSend (channel : Channel Item capacity) : Bool :=
  decide (channel.items.length < capacity)

def trySend (channel : Channel Item capacity) (item : Item) : Option (Channel Item capacity) :=
  if room : channel.items.length < capacity then
    some ⟨channel.items ++ [item], by simp only [List.length_append, List.length_singleton]; omega⟩
  else none

def tryReceive : Channel Item capacity → Option (Item × Channel Item capacity)
  | ⟨[], _⟩ => none
  | ⟨item :: rest, bounded⟩ => some (item, ⟨rest, by simp only [List.length_cons] at bounded; omega⟩)

@[ext] theorem ext {left right : Channel Item capacity} (same : left.items = right.items) :
    left = right := by
  cases left
  cases right
  simpa using same

theorem readyToSend_iff (channel : Channel Item capacity) :
    channel.readyToSend = true ↔ channel.items.length < capacity := by
  simp [readyToSend]

theorem trySend_eq_some_iff (channel next : Channel Item capacity) (item : Item) :
    channel.trySend item = some next ↔
      channel.items.length < capacity ∧ next.items = channel.items ++ [item] := by
  unfold trySend
  split
  · rename_i room
    simp only [Option.some.injEq, room, true_and]
    constructor
    · rintro rfl
      rfl
    · intro same
      ext1
      exact same.symm
  · rename_i full
    simp [full]

theorem trySend_eq_none_iff (channel : Channel Item capacity) (item : Item) :
    channel.trySend item = none ↔ ¬channel.items.length < capacity := by
  unfold trySend
  split <;> simp_all

theorem tryReceive_eq_some_iff (channel next : Channel Item capacity) (item : Item) :
    channel.tryReceive = some (item, next) ↔ channel.items = item :: next.items := by
  obtain ⟨items, bounded⟩ := channel
  cases items with
  | nil => simp [tryReceive]
  | cons first rest =>
      simp only [tryReceive, Option.some.injEq, Prod.mk.injEq, List.cons.injEq]
      constructor
      · rintro ⟨rfl, rfl⟩
        exact ⟨rfl, rfl⟩
      · rintro ⟨rfl, same⟩
        exact ⟨rfl, by ext1; exact same⟩

theorem tryReceive_eq_none_iff (channel : Channel Item capacity) :
    channel.tryReceive = none ↔ channel.items = [] := by
  obtain ⟨items, bounded⟩ := channel
  cases items <;> simp [tryReceive]

end Channel
