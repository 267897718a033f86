import FirmwareTrace.Table
import Mathlib.Data.List.Perm.Basic

/-! # Tables by their lookups

A table is known by what is found at each key, `ext_get?`, and merging two tables looks a
key up in the first, then in the second.
-/
namespace FirmwareTrace.Table

variable {κ α : Type} [Ranked κ]
open Ranked

/-- What is found at a key is an entry with it. -/
theorem mem_of_lookup {entries : List (κ × α)} {key : κ} {value : α}
    (h : lookup key entries = some value) : (key, value) ∈ entries := by
  induction entries with
  | nil => cases h
  | cons head rest ih =>
    rw [lookup] at h
    split at h
    · rename_i hkey
      obtain rfl := rank_injective hkey
      obtain rfl := Option.some.inj h
      exact List.mem_cons_self
    · exact List.mem_cons_of_mem _ (ih h)

/-- Where no key comes twice, an entry is found at its key. -/
theorem lookup_eq_some_iff {entries : List (κ × α)} (h : (entries.map (·.1)).Nodup) {key : κ}
    {value : α} : lookup key entries = some value ↔ (key, value) ∈ entries := by
  induction entries with
  | nil => simp [lookup]
  | cons head rest ih =>
    obtain ⟨hhead, hrest⟩ := List.nodup_cons.1 h
    rw [lookup, List.mem_cons]
    by_cases hkey : rank head.1 = rank key
    · obtain rfl := rank_injective hkey
      have hnot : (head.1, value) ∉ rest := fun hmem =>
        hhead (List.mem_map.2 ⟨_, hmem, rfl⟩)
      simp [hnot, Prod.ext_iff, eq_comm]
    · have hne : (key, value) ≠ head := by
        rintro rfl
        exact hkey rfl
      simp [hkey, hne, ih hrest]

/-- Where no key comes twice, the order of the entries is of no account. -/
theorem lookup_perm {entries others : List (κ × α)} (hperm : entries.Perm others)
    (h : (others.map (·.1)).Nodup) (key : κ) : lookup key entries = lookup key others := by
  have hentries : (entries.map (·.1)).Nodup := (hperm.map _).nodup_iff.2 h
  apply Option.ext
  intro value
  rw [lookup_eq_some_iff hentries, lookup_eq_some_iff h, hperm.mem_iff]

theorem lookup_append (front back : List (κ × α)) (key : κ) :
    lookup key (front ++ back) = (lookup key front).or (lookup key back) := by
  induction front with
  | nil => rfl
  | cons head rest ih =>
    rw [List.cons_append, lookup, lookup, ih]
    split <;> rfl

/-- Rewriting the values under their keys rewrites what is found. -/
theorem lookup_map {β : Type} (f : κ → α → β) (entries : List (κ × α)) (key : κ) :
    lookup key (entries.map fun e => (e.1, f e.1 e.2)) = (lookup key entries).map (f key) := by
  induction entries with
  | nil => rfl
  | cons head rest ih =>
    rw [List.map_cons, lookup, lookup]
    by_cases hkey : rank head.1 = rank key
    · rw [if_pos hkey, if_pos hkey, rank_injective hkey, Option.map_some]
    · rw [if_neg hkey, if_neg hkey, ih]

theorem pairwise_keys (table : Table κ α) :
    table.keys.Pairwise fun a b => rank a < rank b :=
  List.pairwise_map.2 table.ascending

theorem nodup_keys (table : Table κ α) : table.keys.Nodup := by
  refine table.pairwise_keys.imp ?_
  rintro key _ hlt rfl
  exact Nat.lt_irrefl (rank key) hlt

theorem nodup_entries (table : Table κ α) : table.entries.Nodup := by
  refine table.ascending.imp ?_
  rintro a _ hlt rfl
  exact Nat.lt_irrefl (rank a.1) hlt

theorem get?_eq_some_iff {table : Table κ α} {key : κ} {value : α} :
    table.get? key = some value ↔ (key, value) ∈ table.entries :=
  lookup_eq_some_iff table.nodup_keys

/-- Tables in which the same is found at every key are equal. -/
theorem ext_get? {s t : Table κ α} (h : ∀ key, s.get? key = t.get? key) : s = t := by
  have hmem : ∀ entry, entry ∈ s.entries ↔ entry ∈ t.entries := by
    rintro ⟨key, value⟩
    rw [← get?_eq_some_iff, ← get?_eq_some_iff, h]
  apply ext
  refine ((List.perm_ext_iff_of_nodup s.nodup_entries t.nodup_entries).2 hmem).eq_of_pairwise
    ?_ s.ascending t.ascending
  intro a b _ _ hab hba
  exact absurd hab (Nat.lt_asymm hba)

@[simp] theorem get?_empty (key : κ) : (∅ : Table κ α).get? key = none := rfl

/-- A key is looked up in the first table, then in the second. -/
theorem get?_merge (s t : Table κ α) (key : κ) :
    (s.merge t).get? key = (s.get? key).or (t.get? key) :=
  get?_foldl_insertNew t.entries s key

/-- The first definitions of two lists, one after the other. -/
theorem ofFirst_append (front back : List (κ × α)) :
    ofFirst (front ++ back) = (ofFirst front).merge (ofFirst back) := by
  apply ext_get?
  intro key
  rw [get?_merge, get?_ofFirst, get?_ofFirst, get?_ofFirst, lookup_append]

/-- Entries in ascending order are their own table. -/
theorem entries_ofFirst {entries : List (κ × α)}
    (h : entries.Pairwise fun a b => rank a.1 < rank b.1) :
    (ofFirst entries).entries = entries := by
  have htable : ofFirst entries = ⟨entries, h⟩ := ext_get? fun key => get?_ofFirst entries key
  rw [htable]

end FirmwareTrace.Table
