import Mathlib.Data.List.AList
import Mathlib.Algebra.BigOperators.Group.List.Basic
import Mathlib.Algebra.Order.BigOperators.Group.List
import Mathlib.Algebra.Order.Group.Nat
import Mathlib.Algebra.Ring.Nat

/-!
# Keyed tables with totals

A table is an association list without repeated keys.  The order of its
entries stands for the iteration order of a hash table, which no program may
rely on; every fact below is insensitive to it.

The module adds three things to the library tables: writing through a
reference (`AList.replace`, which does nothing once the key is gone), the
total of a natural-number field over all values, and the induction rule for a
loop that visits the keys of a table.
-/

namespace Foundation

universe u v

/-- A finite map from keys to values. -/
abbrev Table (Key : Type u) (Value : Type v) :=
  AList (fun _ : Key => Value)

namespace Table

variable {Key : Type u} {Value : Type v} [DecidableEq Key]

variable {key other : Key} {value old : Value}

/-- Insert unless the key is already present. -/
def emplace (key : Key) (value : Value)
    (table : Table Key Value) : Table Key Value :=
  if key ∈ table then table else table.insert key value

/-- The values, in iteration order. -/
def values (table : Table Key Value) : List Value :=
  table.entries.map (fun entry => entry.2)

/-- The total of a natural-number field over all values. -/
def total (field : Value → Nat) (table : Table Key Value) : Nat :=
  (table.values.map field).sum

/-- The value stored under a key, or a default. -/
def findD (key : Key) (fallback : Value)
    (table : Table Key Value) : Value :=
  (table.lookup key).getD fallback

/-! ## Presence and lookup -/

theorem mem_of_lookup
    {table : Table Key Value}
    (found : table.lookup key = some value) :
    key ∈ table := by
  rw [← AList.lookup_isSome, found]
  rfl

theorem exists_lookup_of_mem
    {table : Table Key Value}
    (member : key ∈ table) :
    ∃ value, table.lookup key = some value := by
  rw [← AList.lookup_isSome] at member
  exact Option.isSome_iff_exists.mp member

theorem mem_values_iff
    {table : Table Key Value} :
    value ∈ table.values ↔ ∃ key, table.lookup key = some value := by
  constructor
  · intro member
    rcases List.mem_map.mp member with ⟨entry, entryMember, rfl⟩
    exact ⟨entry.1, AList.mem_lookup_iff.mpr entryMember⟩
  · rintro ⟨key, found⟩
    have entryMember := AList.mem_lookup_iff.mp found
    exact List.mem_map.mpr ⟨_, entryMember, rfl⟩

/-- The entries around a present key, none of which repeats it. -/
theorem exists_split
    {table : Table Key Value}
    (found : table.lookup key = some value) :
    ∃ before after,
      table.entries = before ++ ⟨key, value⟩ :: after ∧
        ∀ entry ∈ before, key ≠ entry.1 := by
  obtain ⟨before, after, split⟩ :=
    List.append_of_mem (AList.mem_lookup_iff.mp found)
  refine ⟨before, after, split, ?_⟩
  intro entry member same
  have distinct := table.nodupKeys
  rw [split, List.nodupKeys_middle] at distinct
  apply (List.nodupKeys_cons.mp distinct).1
  rw [List.keys_append]
  have present := List.mem_keys_of_mem member
  rw [← same] at present
  exact List.mem_append_left _ present

/-! ## Writing through a reference -/

/-- Replacing acts on the entry of the key only. -/
theorem kreplace_split
    {new : Value}
    {before after : List (Sigma fun _ : Key => Value)}
    (absent : ∀ entry ∈ before, key ≠ entry.1) :
    List.kreplace key new (before ++ ⟨key, old⟩ :: after) =
      before ++ ⟨key, new⟩ :: after := by
  induction before with
  | nil =>
      exact List.lookmap_cons_some _ _ (by simp)
  | cons entry _ hypothesis =>
      have differs : key ≠ entry.1 := absent entry (by simp)
      have rest := hypothesis
        (fun other member => absent other (List.mem_cons_of_mem _ member))
      rw [List.cons_append, List.kreplace,
        List.lookmap_cons_none _ _ (by simp [differs])]
      exact congrArg (List.cons entry) rest

/-- Erasing removes the entry of the key only. -/
theorem kerase_split
    {before after : List (Sigma fun _ : Key => Value)}
    (absent : ∀ entry ∈ before, key ≠ entry.1) :
    List.kerase key (before ++ ⟨key, old⟩ :: after) = before ++ after := by
  induction before with
  | nil =>
      exact List.kerase_cons_eq rfl
  | cons entry _ hypothesis =>
      have differs : key ≠ entry.1 := absent entry (by simp)
      have rest := hypothesis
        (fun other member => absent other (List.mem_cons_of_mem _ member))
      rw [List.cons_append, List.kerase_cons_ne differs, rest]
      rfl

/-- Replacing an absent key changes nothing. -/
theorem replace_of_not_mem
    {table : Table Key Value}
    (absent : key ∉ table) :
    table.replace key value = table := by
  apply AList.ext
  apply List.kreplace_of_forall_not
  intro other member
  exact absent (mem_of_lookup (AList.mem_lookup_iff.mpr member))

/-- Replacing a value by itself changes nothing. -/
theorem replace_of_lookup
    {table : Table Key Value}
    (found : table.lookup key = some value) :
    table.replace key value = table := by
  apply AList.ext
  exact List.kreplace_self table.nodupKeys (AList.mem_lookup_iff.mp found)

theorem lookup_replace_self
    {table : Table Key Value}
    (present : key ∈ table) :
    (table.replace key value).lookup key = some value := by
  rcases exists_lookup_of_mem present with ⟨old, found⟩
  rcases exists_split found with ⟨before, after, split, absent⟩
  apply AList.mem_lookup_iff.mpr
  change _ ∈ List.kreplace key value table.entries
  rw [split, kreplace_split absent]
  simp

theorem lookup_replace_ne
    {table : Table Key Value}
    (differs : other ≠ key) :
    (table.replace key value).lookup other = table.lookup other := by
  by_cases present : key ∈ table
  · rcases exists_lookup_of_mem present with ⟨old, found⟩
    rcases exists_split found with ⟨before, after, split, absent⟩
    apply Option.ext
    intro candidate
    have replaced :=
      AList.mem_lookup_iff (a := other) (b := candidate)
        (s := table.replace key value)
    have original :=
      AList.mem_lookup_iff (a := other) (b := candidate) (s := table)
    change _ ↔ _ ∈ List.kreplace key value table.entries at replaced
    rw [split, kreplace_split absent] at replaced
    rw [split] at original
    exact replaced.trans ((by simp [differs] : _ ↔ _).trans original.symm)
  · rw [replace_of_not_mem present]

@[simp]
theorem replace_replace
    {table : Table Key Value} {first second : Value} :
    (table.replace key first).replace key second =
      table.replace key second := by
  by_cases present : key ∈ table
  · rcases exists_lookup_of_mem present with ⟨old, found⟩
    rcases exists_split found with ⟨before, after, split, absent⟩
    apply AList.ext
    change List.kreplace key second (List.kreplace key first table.entries) =
      List.kreplace key second table.entries
    rw [split, kreplace_split absent, kreplace_split absent,
      kreplace_split absent]
  · rw [replace_of_not_mem present]

@[simp]
theorem length_replace
    {table : Table Key Value} :
    (table.replace key value).entries.length = table.entries.length := by
  have same := congrArg List.length (AList.keys_replace key value table)
  simpa [AList.keys, List.keys] using same

/-! ## Inserting unless present -/

theorem emplace_of_mem
    {table : Table Key Value}
    (present : key ∈ table) :
    table.emplace key value = table := by
  simp [emplace, present]

theorem emplace_of_not_mem
    {table : Table Key Value}
    (absent : key ∉ table) :
    table.emplace key value = table.insert key value := by
  simp [emplace, absent]

theorem lookup_emplace_ne
    {table : Table Key Value}
    (differs : other ≠ key) :
    (table.emplace key value).lookup other = table.lookup other := by
  unfold emplace
  split
  · rfl
  · exact AList.lookup_insert_ne differs

/-- An emplaced entry is the new one or the old one. -/
theorem lookup_emplace_self
    {table : Table Key Value} :
    (table.emplace key value).lookup key =
      some ((table.lookup key).getD value) := by
  by_cases present : key ∈ table
  · rcases exists_lookup_of_mem present with ⟨old, found⟩
    rw [emplace_of_mem present, found]
    rfl
  · rw [emplace_of_not_mem present, AList.lookup_insert,
      AList.lookup_eq_none.mpr present]
    rfl

theorem length_emplace_le
    {table : Table Key Value} :
    (table.emplace key value).entries.length ≤
      table.entries.length + 1 := by
  by_cases present : key ∈ table
  · rw [emplace_of_mem present]
    exact Nat.le_succ _
  · rw [emplace_of_not_mem present, AList.entries_insert_of_notMem present,
      List.length_cons]

/-! ## Totals -/

section Totals

variable (field : Value → Nat)

omit [DecidableEq Key] in
theorem total_of_split
    {table : Table Key Value}
    {before after : List (Sigma fun _ : Key => Value)}
    (split : table.entries = before ++ ⟨key, value⟩ :: after) :
    total field table =
      ((before ++ after).map (fun entry => field entry.2)).sum +
        field value := by
  simp only [total, values, split, List.map_append, List.map_cons,
    List.map_map, List.sum_append, List.sum_cons]
  simp only [Function.comp_def]
  omega

/-- Overwriting one value moves the total by the difference. -/
theorem total_replace
    {table : Table Key Value} {key : Key} {old new : Value}
    (found : table.lookup key = some old) :
    total field (table.replace key new) + field old =
      total field table + field new := by
  rcases exists_split found with ⟨before, after, split, absent⟩
  have splitNew :
      (table.replace key new).entries = before ++ ⟨key, new⟩ :: after := by
    change List.kreplace key new table.entries = _
    rw [split, kreplace_split absent]
  rw [total_of_split field split, total_of_split field splitNew]
  omega

/-- Erasing a present key removes its contribution. -/
theorem total_erase
    {table : Table Key Value}
    (found : table.lookup key = some old) :
    total field (table.erase key) + field old = total field table := by
  rcases exists_split found with ⟨before, after, split, absent⟩
  have erased : (table.erase key).entries = before ++ after := by
    change List.kerase key table.entries = _
    rw [split, kerase_split absent]
  rw [total_of_split field split]
  simp [total, values, erased, Function.comp_def]

/-- Inserting a new key adds its contribution. -/
theorem total_insert
    {table : Table Key Value}
    (absent : key ∉ table) :
    total field (table.insert key value) =
      total field table + field value := by
  have inserted := AList.entries_insert_of_notMem (b := value) absent
  simp only [total, values]
  rw [inserted, List.map_cons, List.map_cons, List.sum_cons, Nat.add_comm]

omit [DecidableEq Key] in
/-- The total does not depend on the iteration order. -/
theorem total_perm
    {left right : Table Key Value}
    (same : left.entries.Perm right.entries) :
    total field left = total field right := by
  have sums := (same.map (fun entry => field entry.2)).sum_eq
  simpa [total, values, Function.comp_def] using sums

/-- Only the fields of the stored values matter. -/
theorem total_congr
    {field other : Value → Nat} {table : Table Key Value}
    (same :
      ∀ key value, table.lookup key = some value →
        field value = other value) :
    total field table = total other table := by
  refine congrArg List.sum (List.map_congr_left ?_)
  intro value member
  rcases mem_values_iff.mp member with ⟨key, found⟩
  exact same key value found

theorem le_total
    {table : Table Key Value}
    (found : table.lookup key = some value) :
    field value ≤ total field table := by
  rcases exists_split found with ⟨before, after, split, -⟩
  rw [total_of_split field split]
  omega

/-- Where one field never exceeds another, the totals differ by at least as
much as the fields of one entry. -/
theorem total_exchange_le
    {other : Value → Nat} {table : Table Key Value}
    (below :
      ∀ key value, table.lookup key = some value →
        field value ≤ other value)
    (found : table.lookup key = some value) :
    total field table + other value ≤ total other table + field value := by
  rcases exists_split found with ⟨before, after, split, -⟩
  rw [total_of_split field split, total_of_split other split]
  have rest :
      ((before ++ after).map (fun entry => field entry.2)).sum ≤
        ((before ++ after).map (fun entry => other entry.2)).sum := by
    refine List.sum_le_sum ?_
    intro entry member
    refine below entry.1 entry.2 (AList.mem_lookup_iff.mpr ?_)
    rw [split]
    rcases List.mem_append.mp member with inBefore | inAfter
    · exact List.mem_append_left _ inBefore
    · exact List.mem_append_right _ (List.mem_cons_of_mem _ inAfter)
  omega

end Totals

end Table

end Foundation
