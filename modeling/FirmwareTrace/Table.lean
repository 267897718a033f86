import FirmwareTrace.Record.Key

/-! # Ordered tables

A table is a finite map whose entries are kept in ascending order of their keys,
so that two tables with the same entries are equal and listing one is
deterministic.  `insertNew` keeps the first definition of a key, `set` the last.
-/
namespace FirmwareTrace

/-- Keys that are ordered by a number of their own. -/
class Ranked (κ : Type) where
  rank : κ → Nat
  rank_injective : ∀ {a b : κ}, rank a = rank b → a = b

instance : Ranked RecordKey := ⟨RecordKey.raw, RecordKey.raw_injective⟩

instance : Ranked UInt32 := ⟨UInt32.toNat, UInt32.toNat_inj.mp⟩

structure Table (κ α : Type) [Ranked κ] where
  entries : List (κ × α)
  ascending : entries.Pairwise fun a b => Ranked.rank a.1 < Ranked.rank b.1

namespace Table

variable {κ α : Type} [Ranked κ]
open Ranked

def empty : Table κ α := ⟨[], .nil⟩

instance : EmptyCollection (Table κ α) := ⟨empty⟩

instance : Inhabited (Table κ α) := ⟨empty⟩

theorem ext {s t : Table κ α} (h : s.entries = t.entries) : s = t := by
  cases s
  cases t
  simp_all

def size (table : Table κ α) : Nat := table.entries.length

def keys (table : Table κ α) : List κ := table.entries.map (·.1)

/-- The value at the key, looked up in order. -/
def lookup (key : κ) : List (κ × α) → Option α
  | [] => none
  | (k, a) :: rest => if rank k = rank key then some a else lookup key rest

def get? (table : Table κ α) (key : κ) : Option α := lookup key table.entries

def contains (table : Table κ α) (key : κ) : Bool := (table.get? key).isSome

/-- Puts `merge none` in the place of a new key, or `merge (some old)` in that of
a known one. -/
def place (key : κ) (merge : Option α → α) : List (κ × α) → List (κ × α)
  | [] => [(key, merge none)]
  | (k, a) :: rest =>
    if rank key < rank k then (key, merge none) :: (k, a) :: rest
    else if rank key = rank k then (k, merge (some a)) :: rest
    else (k, a) :: place key merge rest

theorem mem_place {key : κ} {merge : Option α → α} {entries : List (κ × α)} {e : κ × α}
    (h : e ∈ place key merge entries) : rank e.1 = rank key ∨ ∃ f ∈ entries, f.1 = e.1 := by
  induction entries with
  | nil => simp_all [place]
  | cons head rest ih =>
    rw [place] at h
    split at h
    · rcases List.mem_cons.1 h with rfl | h
      · exact .inl rfl
      · exact .inr ⟨e, h, rfl⟩
    · split at h
      · rcases List.mem_cons.1 h with rfl | h
        · exact .inr ⟨head, by simp, rfl⟩
        · exact .inr ⟨e, by simp [h], rfl⟩
      · rcases List.mem_cons.1 h with rfl | h
        · exact .inr ⟨head, by simp, rfl⟩
        · rcases ih h with h | ⟨f, hf, hfe⟩
          · exact .inl h
          · exact .inr ⟨f, by simp [hf], hfe⟩

theorem pairwise_place (key : κ) (merge : Option α → α) {entries : List (κ × α)}
    (h : entries.Pairwise fun a b => rank a.1 < rank b.1) :
    (place key merge entries).Pairwise fun a b => rank a.1 < rank b.1 := by
  induction entries with
  | nil => simp [place]
  | cons head rest ih =>
    obtain ⟨hhead, hrest⟩ := List.pairwise_cons.1 h
    rw [place]
    split
    · rename_i hlt
      refine List.pairwise_cons.2 ⟨fun e he => ?_, h⟩
      rcases List.mem_cons.1 he with rfl | he
      · exact hlt
      · exact Nat.lt_trans hlt (hhead e he)
    · split
      · exact List.pairwise_cons.2 ⟨hhead, hrest⟩
      · refine List.pairwise_cons.2 ⟨fun e he => ?_, ih hrest⟩
        rcases mem_place he with he | ⟨f, hf, hfe⟩
        · change rank head.1 < rank e.1
          omega
        · rw [← hfe]
          exact hhead f hf

def alter (table : Table κ α) (key : κ) (merge : Option α → α) : Table κ α :=
  ⟨place key merge table.entries, pairwise_place key merge table.ascending⟩

/-- Adds a definition unless the key has one. -/
def insertNew (table : Table κ α) (key : κ) (value : α) : Table κ α :=
  table.alter key fun old => old.getD value

/-- Adds a definition in place of any other of the key. -/
def set (table : Table κ α) (key : κ) (value : α) : Table κ α :=
  table.alter key fun _ => value

theorem lookup_of_lt {key : κ} {entries : List (κ × α)}
    (h : ∀ e ∈ entries, rank key < rank e.1) : lookup key entries = none := by
  induction entries with
  | nil => rfl
  | cons head rest ih =>
    have := h head (by simp)
    rw [lookup, if_neg (by omega), ih fun e he => h e (by simp [he])]

theorem lookup_place (key other : κ) (merge : Option α → α) {entries : List (κ × α)}
    (h : entries.Pairwise fun a b => rank a.1 < rank b.1) :
    lookup other (place key merge entries) =
      if rank key = rank other then some (merge (lookup key entries))
      else lookup other entries := by
  induction entries with
  | nil => by_cases hk : rank key = rank other <;> simp [place, lookup, hk]
  | cons head rest ih =>
    obtain ⟨hhead, hrest⟩ := List.pairwise_cons.1 h
    rw [place]
    split
    · rename_i hlt
      have hnone : lookup key (head :: rest) = none := by
        apply lookup_of_lt
        intro e he
        rcases List.mem_cons.1 he with rfl | he
        · exact hlt
        · exact Nat.lt_trans hlt (hhead e he)
      rw [hnone]
      by_cases hk : rank key = rank other <;> simp [lookup, hk]
    · split
      · rename_i heq
        by_cases hk : rank key = rank other
        · simp [lookup, ← heq, hk]
        · have : rank head.1 ≠ rank other := by omega
          simp [lookup, hk, this]
      · rename_i hlt hne
        have hlk : lookup key (head :: rest) = lookup key rest := by
          rw [lookup, if_neg (by omega)]
        rw [hlk, lookup, ih hrest]
        by_cases ho : rank head.1 = rank other
        · have : rank key ≠ rank other := by omega
          simp [ho, this, lookup]
        · simp [ho, lookup]

theorem isSome_lookup_iff {key : κ} {entries : List (κ × α)} :
    (lookup key entries).isSome ↔ key ∈ entries.map (·.1) := by
  induction entries with
  | nil => simp [lookup]
  | cons head rest ih =>
    by_cases hk : rank head.1 = rank key
    · simp [lookup, rank_injective hk]
    · have hne : key ≠ head.1 := fun h => hk (h ▸ rfl)
      rw [lookup, if_neg hk, ih, List.map_cons, List.mem_cons, or_iff_right hne]

section

variable {β : Type} {f : β → Option (κ × α)} {key : κ}

theorem lookup_filterMap_of_eq {x : β} {a : α} (h : f x = some (key, a)) (xs : List β) :
    lookup key ((x :: xs).filterMap f) = some a := by
  rw [List.filterMap_cons_some h, lookup, if_pos rfl]

theorem lookup_filterMap_of_ne {x : β} (h : ∀ a, f x ≠ some (key, a)) (xs : List β) :
    lookup key ((x :: xs).filterMap f) = lookup key (xs.filterMap f) := by
  cases hx : f x with
  | none => rw [List.filterMap_cons_none hx]
  | some entry =>
    have hkey : rank entry.1 ≠ rank key := fun hrank =>
      h entry.2 (hx.trans (congrArg some (Prod.ext (rank_injective hrank) rfl)))
    rw [List.filterMap_cons_some hx, lookup, if_neg hkey]

/-- The definition of a key comes from the first entry that defines it. -/
theorem lookup_filterMap_eq_some_iff {xs : List β} {a : α} :
    lookup key (xs.filterMap f) = some a ↔ ∃ (i : Nat) (x : β),
      xs[i]? = some x ∧ f x = some (key, a) ∧
      ∀ j < i, ∀ y, xs[j]? = some y → ∀ b, f y ≠ some (key, b) := by
  induction xs with
  | nil => simp [lookup]
  | cons x xs ih =>
    by_cases hx : ∃ b, f x = some (key, b)
    · obtain ⟨b, hb⟩ := hx
      rw [lookup_filterMap_of_eq hb]
      constructor
      · intro hab
        obtain rfl := Option.some.inj hab
        exact ⟨0, x, rfl, hb, fun j hj => absurd hj (Nat.not_lt_zero j)⟩
      · rintro ⟨i, y, hy, hfy, hfirst⟩
        cases i with
        | zero =>
          obtain rfl := Option.some.inj hy
          simpa [hb] using hfy
        | succ i => exact absurd hb (hfirst 0 (Nat.succ_pos i) x rfl b)
    · have hne : ∀ b, f x ≠ some (key, b) := not_exists.1 hx
      rw [lookup_filterMap_of_ne hne, ih]
      constructor
      · rintro ⟨i, y, hy, hfy, hfirst⟩
        refine ⟨i + 1, y, hy, hfy, fun j hj z hz => ?_⟩
        cases j with
        | zero =>
          obtain rfl := Option.some.inj hz
          exact hne
        | succ j => exact hfirst j (Nat.lt_of_succ_lt_succ hj) z hz
      · rintro ⟨i, y, hy, hfy, hfirst⟩
        cases i with
        | zero =>
          obtain rfl := Option.some.inj hy
          exact absurd hfy (hne a)
        | succ i => exact ⟨i, y, hy, hfy, fun j hj => hfirst (j + 1) (Nat.succ_lt_succ hj)⟩

end

theorem mem_keys_iff {table : Table κ α} {key : κ} :
    key ∈ table.keys ↔ (table.get? key).isSome :=
  isSome_lookup_iff.symm

theorem get?_alter (table : Table κ α) (key other : κ) (merge : Option α → α) :
    (table.alter key merge).get? other =
      if rank key = rank other then some (merge (table.get? key)) else table.get? other :=
  lookup_place key other merge table.ascending

theorem get?_insertNew (table : Table κ α) (key other : κ) (value : α) :
    (table.insertNew key value).get? other =
      if rank key = rank other then some ((table.get? key).getD value) else table.get? other :=
  get?_alter table key other _

theorem get?_set (table : Table κ α) (key other : κ) (value : α) :
    (table.set key value).get? other =
      if rank key = rank other then some value else table.get? other :=
  get?_alter table key other _

/-- The table in which every key has its first definition in the list. -/
def ofFirst (entries : List (κ × α)) : Table κ α :=
  entries.foldl (fun table e => table.insertNew e.1 e.2) ∅

theorem get?_foldl_insertNew (entries : List (κ × α)) (table : Table κ α) (key : κ) :
    (entries.foldl (fun t e => t.insertNew e.1 e.2) table).get? key =
      (table.get? key).or (lookup key entries) := by
  induction entries generalizing table with
  | nil => simp [lookup]
  | cons head rest ih =>
    rw [List.foldl_cons, ih, get?_insertNew, lookup]
    by_cases hk : rank head.1 = rank key
    · rw [if_pos hk, if_pos hk, rank_injective hk]
      cases table.get? key <;> rfl
    · rw [if_neg hk, if_neg hk]

theorem get?_ofFirst (entries : List (κ × α)) (key : κ) :
    (ofFirst entries).get? key = lookup key entries := by
  rw [ofFirst, get?_foldl_insertNew]
  rfl

/-- The table in which every key has its last definition in the list. -/
def ofLast (entries : List (κ × α)) : Table κ α :=
  entries.foldl (fun table e => table.set e.1 e.2) ∅

/-- Both tables; a key of both keeps its definition in `table`. -/
def merge (table other : Table κ α) : Table κ α :=
  other.entries.foldl (fun t e => t.insertNew e.1 e.2) table

/-- How many keys of `other` the table already has. -/
def overlap (table other : Table κ α) : Nat :=
  (other.entries.filter fun e => table.contains e.1).length

end Table
end FirmwareTrace
