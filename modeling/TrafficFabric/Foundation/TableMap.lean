import TrafficFabric.Foundation.Table

/-!
# Rewriting every value of a table
-/

namespace Foundation

namespace Table

universe u v

variable {Key : Type u} {Value : Type v} [DecidableEq Key]
  (change : Value → Value)

omit [DecidableEq Key] in
theorem keys_map_entries (entries : List (Sigma (fun _ : Key => Value))) :
    List.keys (entries.map (fun entry =>
      (⟨entry.1, change entry.2⟩ : Sigma (fun _ : Key => Value)))) =
      entries.keys := by
  simp [List.keys, Function.comp_def]

/-- The table with every value rewritten. -/
def mapValues (table : Table Key Value) : Table Key Value where
  entries := table.entries.map (fun entry => ⟨entry.1, change entry.2⟩)
  nodupKeys := by
    unfold List.NodupKeys
    rw [keys_map_entries]
    exact table.nodupKeys

omit [DecidableEq Key] in
theorem values_mapValues (table : Table Key Value) :
    (mapValues change table).values = table.values.map change := by
  simp [mapValues, values, Function.comp_def]

theorem lookup_mapValues (table : Table Key Value) (key : Key) :
    (mapValues change table).lookup key =
      (table.lookup key).map change := by
  rcases table with ⟨entries, nodup⟩
  change List.dlookup key (entries.map _) = (List.dlookup key entries).map _
  clear nodup
  induction entries with
  | nil =>
      rfl
  | cons entry _ hypothesis =>
      rcases entry with ⟨own, value⟩
      by_cases same : key = own
      · subst same
        simp
      · rw [List.map_cons, List.dlookup_cons_ne _ _ same,
          List.dlookup_cons_ne _ _ same]
        exact hypothesis

/-- Tables with the same entries list them in some order. -/
theorem perm_of_lookup
    {left right : Table Key Value}
    (same : ∀ key, left.lookup key = right.lookup key) :
    left.entries.Perm right.entries := by
  refine List.lookup_ext left.nodupKeys right.nodupKeys ?_
  intro key value
  change value ∈ left.lookup key ↔ value ∈ right.lookup key
  rw [same]

omit [DecidableEq Key] in
theorem total_mapValues (field : Value → Nat) (table : Table Key Value) :
    total field (mapValues change table) =
      total (fun value => field (change value)) table := by
  unfold total
  rw [values_mapValues, List.map_map]
  rfl

end Table

end Foundation
