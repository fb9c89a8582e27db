import Mathlib.Data.Finmap
import Mathlib.Algebra.BigOperators.Group.Multiset.Basic

/-!
# Evicting the oldest entries of a map

A bounded store makes room by removing its oldest entry, again and again, for as
long as it has to.  `Evicts` is this process on a finite map, for an arbitrary
age of the values and an arbitrary condition under which the store has to make
room.  It is stated once what such a process removes and what it keeps.
-/

namespace RitspLtv.Foundation.OldestFirst

variable {κ α τ : Type} [DecidableEq κ]

/-- A finite map, whose entries have no order. -/
abbrev Map (κ α : Type) : Type := Finmap fun _ : κ => α

/-- A key with its value. -/
abbrev Entry (κ α : Type) : Type := Σ _ : κ, α

/-! ## Entries -/

theorem insert_erase
    {map : Map κ α} {key : κ} {value : α}
    (found : map.lookup key = some value) :
    (map.erase key).insert key value = map := by
  apply Finmap.ext_lookup
  intro other
  by_cases same : other = key
  · rw [same, Finmap.lookup_insert, found]
  · rw [Finmap.lookup_insert_of_ne _ same, Finmap.lookup_erase_ne same]

/-- A map has the entry of a key besides those that erasing the key leaves. -/
theorem entries_of_lookup
    {map : Map κ α} {key : κ} {value : α}
    (found : map.lookup key = some value) :
    map.entries = ⟨key, value⟩ ::ₘ (map.erase key).entries := by
  rw [← Finmap.entries_insert_of_notMem Finmap.notMem_erase_self,
    insert_erase found]

theorem lookup_of_mem_entries
    {map : Map κ α} {key : κ} {value : α}
    (member : ⟨key, value⟩ ∈ map.entries) :
    map.lookup key = some value := by
  induction map using Finmap.induction_on with
  | H list =>
      exact List.mem_dlookup list.nodupKeys member

/-! ## Counting and weighing -/

/-- The number of entries. -/
def count (map : Map κ α) : Nat :=
  map.entries.card

/-- The sum of the weights of the values. -/
def totalWeight (weight : α → Nat) (map : Map κ α) : Nat :=
  (map.entries.map fun entry => weight entry.2).sum

theorem count_of_lookup
    {map : Map κ α} {key : κ} {value : α}
    (found : map.lookup key = some value) :
    count map = count (map.erase key) + 1 := by
  rw [count, entries_of_lookup found, Multiset.card_cons]
  rfl

theorem count_insert
    {map : Map κ α} {key : κ} (value : α)
    (absent : key ∉ map) :
    count (map.insert key value) = count map + 1 := by
  rw [count, Finmap.entries_insert_of_notMem absent, Multiset.card_cons]
  rfl

theorem totalWeight_of_lookup
    (weight : α → Nat) {map : Map κ α} {key : κ} {value : α}
    (found : map.lookup key = some value) :
    totalWeight weight map =
      weight value + totalWeight weight (map.erase key) := by
  rw [totalWeight, entries_of_lookup found, Multiset.map_cons,
    Multiset.sum_cons]
  rfl

theorem totalWeight_insert
    (weight : α → Nat) {map : Map κ α} {key : κ} (value : α)
    (absent : key ∉ map) :
    totalWeight weight (map.insert key value) =
      weight value + totalWeight weight map := by
  rw [totalWeight, Finmap.entries_insert_of_notMem absent, Multiset.map_cons,
    Multiset.sum_cons]
  rfl

/-- Erasing a key adds nothing. -/
theorem erase_le (weight : α → Nat) (map : Map κ α) (key : κ) :
    count (map.erase key) ≤ count map ∧
      totalWeight weight (map.erase key) ≤ totalWeight weight map := by
  cases found : map.lookup key with
  | some value =>
      rw [count_of_lookup found, totalWeight_of_lookup weight found]
      exact ⟨Nat.le_succ _, Nat.le_add_left _ _⟩
  | none =>
      have unchanged : map.erase key = map := by
        apply Finmap.ext_lookup
        intro other
        by_cases same : other = key
        · rw [same, Finmap.lookup_erase, found]
        · exact Finmap.lookup_erase_ne same
      rw [unchanged]
      exact ⟨Nat.le_refl _, Nat.le_refl _⟩

/-! ## Eviction -/

variable [LinearOrder τ] (age : α → τ) (exceeds : Map κ α → Prop)

/-- Entries removed from a map, each the oldest at its turn, and what is kept. -/
inductive Evicts : Map κ α → List (Entry κ α) → Map κ α → Prop where
  | done (map : Map κ α) : Evicts map [] map
  | evict {map kept : Map κ α} {key : κ} {value : α}
      {evicted : List (Entry κ α)}
      (needed : exceeds map)
      (found : map.lookup key = some value)
      (oldest : ∀ other ∈ map.entries, age value ≤ age other.2)
      (rest : Evicts (map.erase key) evicted kept) :
      Evicts map (⟨key, value⟩ :: evicted) kept

variable {age exceeds} {map kept : Map κ α} {evicted : List (Entry κ α)}

/-- What is evicted and what is kept are the entries of the map. -/
theorem Evicts.entries
    (evicts : Evicts age exceeds map evicted kept) :
    map.entries = ↑evicted + kept.entries := by
  induction evicts with
  | done map => exact (Multiset.zero_add _).symm
  | evict needed found oldest rest induction =>
      rw [entries_of_lookup found, induction, ← Multiset.cons_coe,
        Multiset.cons_add]

/-- Nothing is evicted that is newer than something kept. -/
theorem Evicts.oldest
    (evicts : Evicts age exceeds map evicted kept) :
    ∀ gone ∈ evicted, ∀ held ∈ kept.entries, age gone.2 ≤ age held.2 := by
  induction evicts with
  | done map =>
      intro gone member
      cases member
  | evict needed found oldest rest induction =>
      intro gone member held heldMember
      rcases List.mem_cons.mp member with rfl | member
      · apply oldest
        rw [entries_of_lookup found, rest.entries]
        exact
          Multiset.mem_cons_of_mem (Multiset.mem_add.mpr (Or.inr heldMember))
      · exact induction gone member held heldMember

/-- Each entry was evicted because it, what was evicted later and what is kept exceed. -/
theorem Evicts.needed
    (evicts : Evicts age exceeds map evicted kept)
    {before after : List (Entry κ α)} {gone : Entry κ α}
    (split : evicted = before ++ gone :: after) :
    ∃ full : Map κ α,
      exceeds full ∧ full.entries = ↑(gone :: after) + kept.entries := by
  induction evicts generalizing before with
  | done map =>
      cases before <;> cases split
  | @evict map kept key value evicted needed found oldest rest induction =>
      cases before with
      | nil =>
          cases split
          refine ⟨map, needed, ?_⟩
          rw [entries_of_lookup found, rest.entries, ← Multiset.cons_coe,
            Multiset.cons_add]
      | cons first before =>
          cases split
          exact induction rfl

end RitspLtv.Foundation.OldestFirst
