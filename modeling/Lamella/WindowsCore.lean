import Mathlib.Data.List.Basic

/-!
Searching a list for a pattern through its windows.  The first window that equals the pattern
stands at the first occurrence, and appending to the list does not move it.
-/

namespace Windows

variable {Item : Type}

/-- All contiguous blocks of a given size, from the first one on. -/
def windows (size : Nat) (items : List Item) : List (List Item) :=
  (List.range (items.length + 1 - size)).map fun start => (items.drop start).take size

def OccursAt (pattern items : List Item) (position : Nat) : Prop :=
  ∃ before after, items = before ++ pattern ++ after ∧ before.length = position

structure FirstAt (pattern items : List Item) (position : Nat) : Prop where
  occurs : OccursAt pattern items position
  first : ∀ earlier < position, ¬OccursAt pattern items earlier

theorem occursAt_iff (pattern items : List Item) (position : Nat) :
    OccursAt pattern items position ↔
      position + pattern.length ≤ items.length ∧
        (items.drop position).take pattern.length = pattern := by
  constructor
  · rintro ⟨before, after, rfl, rfl⟩
    simp
  · rintro ⟨bound, block⟩
    refine ⟨items.take position, (items.drop position).drop pattern.length, ?_, ?_⟩
    · conv_lhs => rw [← List.take_append_drop position items,
        ← List.take_append_drop pattern.length (items.drop position), block]
      rw [List.append_assoc]
    · rw [List.length_take]
      omega

theorem OccursAt.bound {pattern items : List Item} {position : Nat}
    (occurs : OccursAt pattern items position) : position + pattern.length ≤ items.length :=
  ((occursAt_iff _ _ _).mp occurs).1

theorem OccursAt.append {pattern items : List Item} {position : Nat}
    (occurs : OccursAt pattern items position) (more : List Item) :
    OccursAt pattern (items ++ more) position := by
  obtain ⟨before, after, rfl, rfl⟩ := occurs
  exact ⟨before, after ++ more, by simp, rfl⟩

theorem OccursAt.of_append {pattern items more : List Item} {position : Nat}
    (occurs : OccursAt pattern (items ++ more) position)
    (bound : position + pattern.length ≤ items.length) : OccursAt pattern items position := by
  obtain ⟨_, block⟩ := (occursAt_iff _ _ _).mp occurs
  refine (occursAt_iff _ _ _).mpr ⟨bound, ?_⟩
  rwa [List.drop_append_of_le_length (by omega),
    List.take_append_of_le_length (by rw [List.length_drop]; omega)] at block

theorem FirstAt.append {pattern items : List Item} {position : Nat}
    (found : FirstAt pattern items position) (more : List Item) :
    FirstAt pattern (items ++ more) position := by
  refine ⟨found.occurs.append more, ?_⟩
  intro earlier before occurs
  have bound := found.occurs.bound
  exact found.first earlier before (occurs.of_append (by omega))

theorem FirstAt.unique {pattern items : List Item} {position other : Nat}
    (found : FirstAt pattern items position) (again : FirstAt pattern items other) :
    position = other := by
  by_contra distinct
  rcases Nat.lt_or_gt_of_ne distinct with before | after
  · exact again.first position before found.occurs
  · exact found.first other after again.occurs

theorem window_eq_iff (pattern items : List Item) (index : Nat) :
    (windows pattern.length items)[index]? = some pattern ↔ OccursAt pattern items index := by
  rw [occursAt_iff, windows, List.getElem?_map, Option.map_eq_some_iff]
  constructor
  · rintro ⟨start, found, block⟩
    obtain ⟨bound, rfl⟩ := List.getElem?_eq_some_iff.mp found
    rw [List.length_range] at bound
    rw [List.getElem_range] at block
    exact ⟨by omega, block⟩
  · rintro ⟨bound, block⟩
    exact ⟨index, List.getElem?_range (by omega), block⟩

variable [DecidableEq Item]

def position (pattern items : List Item) : Option Nat :=
  (windows pattern.length items).findIdx? fun window => window = pattern

theorem position_eq_some_iff (pattern items : List Item) (index : Nat) :
    position pattern items = some index ↔ FirstAt pattern items index := by
  rw [position, List.findIdx?_eq_some_iff_getElem]
  constructor
  · rintro ⟨bound, here, unmatched⟩
    constructor
    · rw [← window_eq_iff, List.getElem?_eq_some_iff]
      exact ⟨bound, of_decide_eq_true here⟩
    · intro earlier before occurs
      rw [← window_eq_iff, List.getElem?_eq_some_iff] at occurs
      obtain ⟨_, same⟩ := occurs
      exact unmatched earlier before (decide_eq_true same)
  · rintro ⟨occurs, first⟩
    rw [← window_eq_iff, List.getElem?_eq_some_iff] at occurs
    obtain ⟨bound, same⟩ := occurs
    refine ⟨bound, decide_eq_true same, ?_⟩
    intro earlier before matched
    apply first earlier before
    rw [← window_eq_iff, List.getElem?_eq_some_iff]
    exact ⟨by omega, of_decide_eq_true matched⟩

theorem position_eq_none_iff (pattern items : List Item) :
    position pattern items = none ↔ ∀ index, ¬OccursAt pattern items index := by
  rw [position, List.findIdx?_eq_none_iff]
  constructor
  · intro unmatched index occurs
    rw [← window_eq_iff] at occurs
    have differs := unmatched pattern (List.mem_of_getElem? occurs)
    simp at differs
  · intro absent window member
    refine decide_eq_false ?_
    rintro rfl
    obtain ⟨index, found⟩ := List.mem_iff_getElem?.mp member
    exact absent index ((window_eq_iff _ _ _).mp found)

end Windows
