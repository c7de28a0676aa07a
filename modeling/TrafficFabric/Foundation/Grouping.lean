import Mathlib.Algebra.Group.Action.Defs
import Mathlib.Algebra.Order.BigOperators.Group.List
import Mathlib.Algebra.Order.Group.Nat
import Mathlib.Algebra.Ring.Nat
import Mathlib.Data.List.Nodup

/-!
# Lists cut into groups of one width

A grouping cuts a list into consecutive groups, all of one width but for a
shorter last one.  The number of groups is decided by the number of items,
and where a key tells the items apart it tells their group.
-/

namespace Foundation

universe u

variable {Item : Type u}

/-- Consecutive groups of one width, but for the last, which may be
shorter. -/
structure IsGrouping
    (width : Nat) (items : List Item) (groups : List (List Item)) :
    Prop where
  flatten : groups.flatten = items
  inhabited : ∀ group ∈ groups, group ≠ []
  bounded : ∀ group ∈ groups, group.length ≤ width
  full : ∀ group ∈ groups.dropLast, group.length = width

namespace IsGrouping

variable {width : Nat} {items group : List Item}
  {groups : List (List Item)}

theorem nil (width : Nat) : IsGrouping width ([] : List Item) [] := by
  constructor <;> simp

theorem single
    (inhabited : group ≠ []) (bounded : group.length ≤ width) :
    IsGrouping width group [group] := by
  constructor <;> simp [inhabited, bounded]

/-- A full group goes before any grouping. -/
theorem cons
    (positive : 0 < width) (full : group.length = width)
    (later : IsGrouping width items groups) :
    IsGrouping width (group ++ items) (group :: groups) := by
  constructor
  · rw [List.flatten_cons, later.flatten]
  · rintro entry member rfl
    rcases List.mem_cons.mp member with rfl | member
    · rw [List.length_nil] at full
      omega
    · exact later.inhabited [] member rfl
  · intro entry member
    rcases List.mem_cons.mp member with rfl | member
    · exact full.le
    · exact later.bounded entry member
  · intro entry member
    cases groups with
    | nil =>
        simp at member
    | cons =>
        rcases List.mem_cons.mp member with rfl | member
        · exact full
        · exact later.full entry member

theorem length_le (grouping : IsGrouping width items groups) :
    items.length ≤ groups.length * width := by
  rw [← grouping.flatten, List.length_flatten]
  have bounded :
      ∀ size ∈ groups.map List.length, size ≤ width := by
    intro size member
    rcases List.mem_map.mp member with ⟨group, present, rfl⟩
    exact grouping.bounded group present
  have total := List.sum_le_card_nsmul _ width bounded
  rwa [List.length_map, smul_eq_mul] at total

/-- All groups but the last are full and the last is inhabited. -/
theorem lt_length
    (grouping : IsGrouping width items groups) (some_ : groups ≠ []) :
    (groups.length - 1) * width < items.length := by
  have full :
      ∀ size ∈ groups.dropLast.map List.length, size = width := by
    intro size member
    rcases List.mem_map.mp member with ⟨group, present, rfl⟩
    exact grouping.full group present
  have total := List.sum_eq_card_nsmul _ width full
  rw [List.length_map, List.length_dropLast, smul_eq_mul] at total
  have last := grouping.inhabited _ (List.getLast_mem some_)
  have positive := List.length_pos_iff.mpr last
  rw [← grouping.flatten, ← List.dropLast_concat_getLast some_,
    List.length_flatten, List.map_append, List.sum_append, total]
  simpa using positive

/-- The number of groups is the number of items over the width, rounded
up. -/
theorem length_groups_le_iff
    (grouping : IsGrouping width items groups) (count : Nat) :
    groups.length ≤ count ↔ items.length ≤ count * width := by
  constructor
  · intro few
    calc items.length
      _ ≤ groups.length * width := grouping.length_le
      _ ≤ count * width := Nat.mul_le_mul_right width few
  · intro fits
    by_cases some_ : groups = []
    · subst some_
      exact Nat.zero_le count
    have before := grouping.lt_length some_
    have below : groups.length - 1 < count :=
      Nat.lt_of_mul_lt_mul_right (before.trans_le fits)
    omega

end IsGrouping

/-! ## Keys -/

section Keys

variable {Key : Type u} [DecidableEq Key]

/-- When no key occurs twice, a key leads to the entry that holds it. -/
theorem find?_of_nodup_flatMap
    {Entry : Type u} {keys : Entry → List Key} {entries : List Entry}
    (distinct : (entries.flatMap keys).Nodup)
    {entry : Entry} (member : entry ∈ entries)
    {key : Key} (held : key ∈ keys entry) :
    entries.find? (fun other => key ∈ keys other) = some entry := by
  induction entries with
  | nil =>
      cases member
  | cons first rest hypothesis =>
      rw [List.flatMap_cons, List.nodup_append] at distinct
      rcases distinct with ⟨_, later, apart⟩
      rcases List.mem_cons.mp member with rfl | member
      · rw [List.find?_cons_of_pos (by simpa using held)]
      · have elsewhere : key ∉ keys first := by
          intro both
          have inside : key ∈ rest.flatMap keys :=
            List.mem_flatMap.mpr ⟨entry, member, held⟩
          exact apart key both key inside rfl
        rw [List.find?_cons_of_neg (by simpa using elsewhere)]
        exact hypothesis later member

/-- When no key occurs twice, the keys of a group select the group. -/
theorem filter_of_nodup_map
    {key : Item → Key} {before group after : List Item}
    (distinct : ((before ++ group ++ after).map key).Nodup) :
    (before ++ group ++ after).filter
        (fun item => (group.map key).contains (key item)) = group := by
  simp only [List.map_append, List.nodup_append] at distinct
  rcases distinct with ⟨⟨_, _, apartBefore⟩, _, apartAfter⟩
  have none_before :
      before.filter (fun item => (group.map key).contains (key item)) = [] := by
    rw [List.filter_eq_nil_iff]
    intro item member inside
    exact apartBefore _ (List.mem_map_of_mem member) _
      (List.contains_iff_mem.mp inside) rfl
  have none_after :
      after.filter (fun item => (group.map key).contains (key item)) = [] := by
    rw [List.filter_eq_nil_iff]
    intro item member inside
    exact apartAfter _
      (List.mem_append_right _ (List.contains_iff_mem.mp inside)) _
      (List.mem_map_of_mem member) rfl
  have all_of_group :
      group.filter (fun item => (group.map key).contains (key item)) = group := by
    rw [List.filter_eq_self]
    intro item member
    exact List.contains_iff_mem.mpr (List.mem_map_of_mem member)
  rw [List.filter_append, List.filter_append, none_before, none_after,
    all_of_group, List.nil_append, List.append_nil]

end Keys

end Foundation
