import Mathlib.Algebra.Order.BigOperators.Group.List
import Mathlib.Algebra.Order.Group.Nat
import Mathlib.Algebra.Ring.Nat
import Mathlib.Data.List.Nodup

/-!
# Lists with one entry replaced

Sums over such a list, its entries when a key tells them apart, and the
entries of a list that each stem from one of an earlier list.  Items that
claim different slots are bounded by the slots they claim.
-/

namespace Foundation

universe u

variable {Element : Type u}

/-- Replacing one entry moves a sum by the difference. -/
theorem sum_map_set
    (field : Element → Nat) {list : List Element} {position : Nat}
    {old new : Element} (at_ : list[position]? = some old) :
    ((list.set position new).map field).sum + field old =
      (list.map field).sum + field new := by
  induction list generalizing position with
  | nil =>
      simp at at_
  | cons first _ hypothesis =>
      cases position with
      | zero =>
          have same : first = old := by simpa using at_
          subst same
          simp only [List.set_cons_zero, List.map_cons, List.sum_cons]
          omega
      | succ position =>
          have step := @hypothesis position (by simpa using at_)
          simp only [List.set_cons_succ, List.map_cons, List.sum_cons]
          omega

/-- An entry is at most the sum. -/
theorem le_sum_map
    (field : Element → Nat) {list : List Element} {position : Nat}
    {element : Element} (at_ : list[position]? = some element) :
    field element ≤ (list.map field).sum := by
  have member : field element ∈ list.map field :=
    List.mem_map_of_mem (List.mem_of_getElem? at_)
  exact List.single_le_sum (fun _ _ => Nat.zero_le _) _ member

/-- An entry and the others make up a sum. -/
theorem add_sum_map_eraseIdx
    (field : Element → Nat) {list : List Element} {position : Nat}
    {element : Element} (at_ : list[position]? = some element) :
    field element + ((list.eraseIdx position).map field).sum =
      (list.map field).sum := by
  rcases List.getElem?_eq_some_iff.mp at_ with ⟨inside, rfl⟩
  have mapped : position < (list.map field).length := by simpa using inside
  have whole := List.CommMonoid.add_sum_eraseIdx mapped
  rwa [List.getElem_map, List.eraseIdx_map] at whole

/-- A pointwise bound with room to spare at one entry. -/
theorem sum_map_add_le
    {lower upper : Element → Nat} {list : List Element} {element : Element}
    {extra : Nat} (member : element ∈ list)
    (below : ∀ entry, lower entry ≤ upper entry)
    (room : lower element + extra ≤ upper element) :
    (list.map lower).sum + extra ≤ (list.map upper).sum := by
  rcases List.mem_iff_getElem?.mp member with ⟨position, at_⟩
  have rest :
      ((list.eraseIdx position).map lower).sum ≤
        ((list.eraseIdx position).map upper).sum :=
    List.sum_le_sum (fun entry _ => below entry)
  rw [← add_sum_map_eraseIdx lower at_, ← add_sum_map_eraseIdx upper at_]
  omega

/-- Items that each claim a slot of their own weigh at most what the claimed
slots hold. -/
theorem sum_map_le_claimed
    {Slot : Type u} {weight : Element → Nat} {room : Slot → Nat}
    {Claims : Slot → Element → Prop}
    {items : List Element} {slots : List Slot}
    [∀ list : List Element,
      DecidablePred (fun slot => ∃ item ∈ list, Claims slot item)]
    (fits :
      ∀ item ∈ items, 0 < weight item →
        ∃ slot ∈ slots, Claims slot item ∧ weight item ≤ room slot)
    (exclusive :
      items.Pairwise (fun first second =>
        ∀ slot, Claims slot first → ¬ Claims slot second)) :
    (items.map weight).sum ≤
      (slots.map (fun slot =>
        if ∃ item ∈ items, Claims slot item then room slot else 0)).sum := by
  induction items with
  | nil =>
      exact Nat.zero_le _
  | cons first rest hypothesis =>
      rcases List.pairwise_cons.mp exclusive with ⟨apart, others⟩
      have step := hypothesis
        (fun item member => fits item (List.mem_cons_of_mem _ member)) others
      have below (slot : Slot) :
          (if ∃ item ∈ rest, Claims slot item then room slot else 0) ≤
            if ∃ item ∈ first :: rest, Claims slot item then room slot
            else 0 := by
        split
        · rename_i claimed
          rcases claimed with ⟨item, member, claims⟩
          rw [if_pos ⟨item, List.mem_cons_of_mem _ member, claims⟩]
        · exact Nat.zero_le _
      rw [List.map_cons, List.sum_cons]
      rcases Nat.eq_zero_or_pos (weight first) with none_ | some_
      · rw [none_, Nat.zero_add]
        exact step.trans (List.sum_le_sum (fun slot _ => below slot))
      · rcases fits first List.mem_cons_self some_ with
          ⟨slot, member, claims, within⟩
        have free : ¬ ∃ item ∈ rest, Claims slot item := by
          rintro ⟨item, known, other⟩
          exact apart item known slot claims other
        have added := @sum_map_add_le _ _ _ slots slot (weight first) member
          below (by
            rw [if_neg free, if_pos ⟨first, List.mem_cons_self, claims⟩]
            omega)
        omega

/-- A property of every entry survives a replacement that has it. -/
theorem every_set
    {Property : Element → Prop} {list : List Element} {position : Nat}
    {new : Element} (every : ∀ entry ∈ list, Property entry)
    (replacement : Property new) :
    ∀ entry ∈ list.set position new, Property entry := by
  intro entry member
  cases List.mem_or_eq_of_mem_set member with
  | inl kept =>
      exact every entry kept
  | inr same =>
      rw [same]
      exact replacement

/-- What stood elsewhere stays when one entry is replaced. -/
theorem mem_set_or_eq
    {list : List Element} {position : Nat} {old : Element}
    (at_ : list[position]? = some old) (new : Element)
    {entry : Element} (member : entry ∈ list) :
    entry ∈ list.set position new ∨ entry = old := by
  rcases List.mem_iff_getElem?.mp member with ⟨other, found⟩
  by_cases same : other = position
  · subst same
    right
    exact Option.some.inj (found.symm.trans at_)
  · left
    refine List.mem_iff_getElem?.mpr ⟨other, ?_⟩
    rw [List.getElem?_set_ne (Ne.symm same)]
    exact found

theorem mem_set_self
    {list : List Element} {position : Nat} {old : Element}
    (at_ : list[position]? = some old) (new : Element) :
    new ∈ list.set position new := by
  rcases List.getElem?_eq_some_iff.mp at_ with ⟨inside, _⟩
  exact List.mem_set inside new

/-! ## Counts -/

/-- A count is a sum of zeros and ones. -/
theorem countP_eq_sum (test : Element → Bool) (list : List Element) :
    list.countP test = (list.map (fun entry => (test entry).toNat)).sum := by
  induction list with
  | nil =>
      rfl
  | cons first _ hypothesis =>
      rw [List.countP_cons, hypothesis, List.map_cons, List.sum_cons]
      cases test first <;> simp [Nat.add_comm]

/-- Replacing one entry moves a count by the difference. -/
theorem countP_set
    (test : Element → Bool) {list : List Element} {position : Nat}
    {old : Element} (at_ : list[position]? = some old) (new : Element) :
    (list.set position new).countP test + (test old).toNat =
      list.countP test + (test new).toNat := by
  rw [countP_eq_sum, countP_eq_sum]
  exact sum_map_set (fun entry => (test entry).toNat) at_

/-! ## Keys -/

section Keys

variable {Key : Type u} {key : Element → Key} {list : List Element}
  {position : Nat} {old new : Element}

/-- Replacing an entry by one with its key keeps the keys. -/
theorem map_set_same
    (at_ : list[position]? = some old) (same : key new = key old) :
    (list.set position new).map key = list.map key := by
  rcases List.getElem?_eq_some_iff.mp at_ with ⟨inside, rfl⟩
  have mapped : position < (list.map key).length := by simpa using inside
  rw [List.map_set, same, ← List.getElem_map key]
  exact List.set_getElem_self mapped

/-- Entries with distinct keys: what is not the replacement has another
key. -/
theorem mem_set_of_nodup
    (distinct : (list.map key).Nodup) (at_ : list[position]? = some old)
    {entry : Element} (member : entry ∈ list.set position new) :
    entry = new ∨ (entry ∈ list ∧ key entry ≠ key old) := by
  rcases List.mem_iff_getElem?.mp member with ⟨other, found⟩
  rcases List.getElem?_eq_some_iff.mp at_ with ⟨inside, _⟩
  by_cases same : other = position
  · subst same
    left
    rw [List.getElem?_set_self inside] at found
    exact (Option.some.inj found).symm
  · right
    rw [List.getElem?_set_ne (Ne.symm same)] at found
    refine ⟨List.mem_of_getElem? found, ?_⟩
    intro equal
    have keys : (list.map key)[position]? = (list.map key)[other]? := by
      rw [List.getElem?_map, List.getElem?_map, at_, found]
      exact congrArg some equal.symm
    have mapped : position < (list.map key).length := by simpa using inside
    exact same ((List.getElem?_inj mapped distinct).mp keys).symm

end Keys

/-! ## Origins -/

/-- Every entry of the later list stems from an entry of the earlier one. -/
def Stems
    (relation : Element → Element → Prop)
    (earlier later : List Element) : Prop :=
  ∀ entry ∈ later, ∃ origin ∈ earlier, relation origin entry

namespace Stems

variable {relation : Element → Element → Prop} {list : List Element}

theorem refl (reflexive : ∀ entry, relation entry entry) :
    Stems relation list list :=
  fun entry member => ⟨entry, member, reflexive entry⟩

theorem set
    (reflexive : ∀ entry, relation entry entry)
    {position : Nat} {old new : Element}
    (at_ : list[position]? = some old) (related : relation old new) :
    Stems relation list (list.set position new) := by
  intro entry member
  rcases List.mem_or_eq_of_mem_set member with kept | rfl
  · exact ⟨entry, kept, reflexive entry⟩
  · exact ⟨old, List.mem_of_getElem? at_, related⟩

theorem map
    {change : Element → Element}
    (related : ∀ entry, relation entry (change entry)) :
    Stems relation list (list.map change) := by
  intro entry member
  rcases List.mem_map.mp member with ⟨origin, found, rfl⟩
  exact ⟨origin, found, related origin⟩

end Stems

end Foundation
