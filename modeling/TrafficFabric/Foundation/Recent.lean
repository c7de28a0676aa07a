import TrafficFabric.Foundation.Table

/-!
# The most recent keys

A table that remembers a bounded number of keys.  The order in which keys
were first remembered stands beside the table; when a new key makes the order
too long, the oldest keys are forgotten.

A remembered key is recalled as long as fewer new keys than the bound came
after it.
-/

namespace Foundation

universe u v

/-- A table and its keys, the oldest first. -/
structure Recent (Key : Type u) (Value : Type v) where
  index : Table Key Value
  order : List Key

namespace Recent

variable {Key : Type u} {Value : Type v} [DecidableEq Key]

/-- Erase several keys. -/
def forget (keys : List Key) (table : Table Key Value) : Table Key Value :=
  keys.foldl (fun index old => index.erase old) table

theorem mem_forget
    (keys : List Key) (table : Table Key Value) (key : Key) :
    key ∈ forget keys table ↔ key ∉ keys ∧ key ∈ table := by
  induction keys generalizing table with
  | nil =>
      simp [forget]
  | cons old keys hypothesis =>
      change key ∈ forget keys (table.erase old) ↔ _
      rw [hypothesis, AList.mem_erase, List.mem_cons]
      tauto

theorem lookup_forget
    {keys : List Key} {key : Key} (kept : key ∉ keys)
    (table : Table Key Value) :
    (forget keys table).lookup key = table.lookup key := by
  induction keys generalizing table with
  | nil =>
      rfl
  | cons old keys hypothesis =>
      have differs : key ≠ old := fun same =>
        kept (same ▸ List.mem_cons_self)
      have later : key ∉ keys := fun member =>
        kept (List.mem_cons_of_mem _ member)
      exact (hypothesis later (table.erase old)).trans
        (AList.lookup_erase_ne differs)

/-- Remember a new key, forgetting the oldest ones beyond the bound. -/
def remember
    (bound : Nat) (key : Key) (value : Value)
    (recent : Recent Key Value) : Recent Key Value where
  index :=
    (forget ((recent.order ++ [key]).take (recent.order.length + 1 - bound))
      recent.index).insert key value
  order := (recent.order ++ [key]).drop (recent.order.length + 1 - bound)

/-- The order lists exactly the keys of the table, each once. -/
structure Sound (recent : Recent Key Value) : Prop where
  nodup : recent.order.Nodup
  mem_iff : ∀ key, key ∈ recent.order ↔ key ∈ recent.index

omit [DecidableEq Key] in
theorem Sound.empty : (⟨∅, []⟩ : Recent Key Value).Sound where
  nodup := List.nodup_nil
  mem_iff := fun key =>
    iff_of_false List.not_mem_nil (AList.notMem_empty key)

variable {recent : Recent Key Value}

omit [DecidableEq Key] in
theorem Sound.nodup_extended
    (sound : recent.Sound) {key : Key} (fresh : key ∉ recent.index) :
    (recent.order ++ [key]).Nodup := by
  rw [← List.concat_eq_append]
  exact sound.nodup.concat fun listed =>
    fresh ((sound.mem_iff key).mp listed)

theorem Sound.remember
    (sound : recent.Sound) {bound : Nat} (positive : 0 < bound)
    {key : Key} (fresh : key ∉ recent.index) (value : Value) :
    (recent.remember bound key value).Sound where
  nodup := (sound.nodup_extended fresh).sublist (List.drop_sublist _ _)
  mem_iff := by
    have extended := sound.nodup_extended fresh
    have split := List.take_append_drop (recent.order.length + 1 - bound)
      (recent.order ++ [key])
    rw [← split] at extended
    have apart := List.disjoint_of_nodup_append extended
    intro other
    change other ∈ (recent.order ++ [key]).drop _ ↔ other ∈ AList.insert _ _ _
    rw [AList.mem_insert, mem_forget, ← sound.mem_iff]
    have listed :
        other ∈ recent.order ++ [key] ↔ other ∈ recent.order ∨ other = key := by
      simp
    rw [← split, List.mem_append] at listed
    constructor
    · intro kept
      rcases listed.mp (.inr kept) with old | same
      · exact .inr ⟨fun gone => apart gone kept, old⟩
      · exact .inl same
    · rintro (same | ⟨kept, old⟩)
      · subst same
        -- The newest key stays: fewer than all the keys are dropped.
        rw [List.drop_append_of_le_length (by omega)]
        exact List.mem_append_right _ (List.mem_singleton_self _)
      · exact (listed.mpr (.inl old)).resolve_left kept

/-- A key is remembered with a value, and at most so many newer keys are. -/
def Recalls
    (recent : Recent Key Value) (key : Key) (value : Value)
    (newer : Nat) : Prop :=
  recent.index.lookup key = some value ∧
    ∃ earlier later,
      recent.order = earlier ++ key :: later ∧ later.length ≤ newer

theorem Recalls.mono
    {key : Key} {value : Value} {newer more : Nat}
    (recalls : recent.Recalls key value newer) (le : newer ≤ more) :
    recent.Recalls key value more := by
  rcases recalls with ⟨found, earlier, later, order, few⟩
  exact ⟨found, earlier, later, order, few.trans le⟩

theorem recalls_remember
    {bound : Nat} (positive : 0 < bound) (key : Key) (value : Value) :
    (recent.remember bound key value).Recalls key value 0 := by
  refine ⟨AList.lookup_insert _, recent.order.drop _, [],
    List.drop_append_of_le_length ?_, le_rfl⟩
  omega

/-- Remembering another key moves a remembered one towards the end. -/
theorem Recalls.remember
    (sound : recent.Sound) {key : Key} {value : Value} {newer : Nat}
    (recalls : recent.Recalls key value newer)
    {bound : Nat} (room : newer + 1 < bound)
    {other : Key} (fresh : other ∉ recent.index) (record : Value) :
    (recent.remember bound other record).Recalls key value (newer + 1) := by
  rcases recalls with ⟨found, earlier, later, order, few⟩
  have differs : key ≠ other := by
    rintro rfl
    exact fresh (Table.mem_of_lookup found)
  have extended :
      recent.order ++ [other] = earlier ++ key :: (later ++ [other]) := by
    rw [order, List.append_assoc, List.cons_append]
  have length :
      recent.order.length = earlier.length + (later.length + 1) := by
    rw [order, List.length_append, List.length_cons]
  have before : recent.order.length + 1 - bound ≤ earlier.length := by
    omega
  have older : key ∉ earlier := by
    have distinct := sound.nodup
    rw [order] at distinct
    exact fun member => List.disjoint_of_nodup_append distinct member
      List.mem_cons_self
  refine ⟨?_, earlier.drop (recent.order.length + 1 - bound),
    later ++ [other], ?_, ?_⟩
  · change AList.lookup key (AList.insert _ _ _) = _
    rw [AList.lookup_insert_ne differs, lookup_forget, found]
    rw [extended, List.take_append_of_le_length before]
    exact fun member => older (List.mem_of_mem_take member)
  · change (recent.order ++ [other]).drop _ = _
    rw [extended, List.drop_append_of_le_length before]
  · rw [List.length_append, List.length_singleton]
    omega

end Recent

end Foundation
