import FirmwareTrace.Libraries
import FirmwareTrace.Proofs.Table.Lookup
import Mathlib.Data.List.Dedup

/-! # First definitions

Tables are filed one after the other, each under a library id.  A library is known once a
table was filed under its id, and a key has the literal of the first table under that id
that defines it.  So libraries are known by what they hold, `ext_literal?`, and filing a
table can be moved past one of another library or repeated, `insertAll_first_wins`.
-/
namespace FirmwareTrace.Libraries

variable {Literal : Type}

/-- The literal at a key of a library. -/
def literal? (libraries : Libraries Literal) (library : LibraryId) (key : RecordKey) :
    Option Literal :=
  (libraries.library? library).bind fun table => table.get? key

/-- A table and the id that it is filed under. -/
abbrev Filing (Literal : Type) := LibraryId × LiteralTable Literal

/-- Files tables in order. -/
def insertAll (libraries : Libraries Literal) (filings : List (Filing Literal)) :
    Libraries Literal :=
  filings.foldl (fun libraries filing => libraries.insert filing.1 filing.2) libraries

/-- The keys that are defined, each with its library. -/
def definitions (filings : List (Filing Literal)) : List (LibraryId × RecordKey) :=
  filings.flatMap fun filing => filing.2.keys.map fun key => (filing.1, key)

section

variable {libraries : Libraries Literal} {library : LibraryId} {key : RecordKey}

theorem literal?_of_some {table : LiteralTable Literal}
    (h : libraries.library? library = some table) :
    libraries.literal? library key = table.get? key := by
  rw [literal?, h, Option.bind_some]

theorem literal?_of_none (h : libraries.library? library = none) :
    libraries.literal? library key = none := by
  rw [literal?, h, Option.bind_none]

theorem resolve_eq_ok_iff {literal : Literal} :
    libraries.resolve library key = .ok literal ↔
      libraries.literal? library key = some literal := by
  unfold resolve
  cases hlibrary : libraries.library? library with
  | none => simp [literal?_of_none hlibrary]
  | some table =>
    rw [literal?_of_some hlibrary]
    cases hliteral : table.get? key <;> simp [hliteral]

theorem resolve_eq_unknownLibrary_iff :
    libraries.resolve library key = .error (.unknownLibrary library) ↔
      libraries.library? library = none := by
  unfold resolve
  cases hlibrary : libraries.library? library with
  | none => simp
  | some table => cases hliteral : table.get? key <;> simp [hliteral]

theorem resolve_eq_unknownKey_iff :
    libraries.resolve library key = .error (.unknownKey library key) ↔
      (libraries.library? library).isSome ∧ libraries.literal? library key = none := by
  unfold resolve
  cases hlibrary : libraries.library? library with
  | none => simp
  | some table =>
    rw [literal?_of_some hlibrary]
    cases hliteral : table.get? key <;> simp [hliteral]

end

theorem mem_ids_iff {libraries : Libraries Literal} {library : LibraryId} :
    library ∈ libraries.ids ↔ (libraries.library? library).isSome :=
  Table.mem_keys_iff

/-- Libraries that know the same ids and hold the same literals are equal. -/
theorem ext_literal? {s t : Libraries Literal}
    (hknown : ∀ library, (s.library? library).isSome ↔ (t.library? library).isSome)
    (hliteral : ∀ library key, s.literal? library key = t.literal? library key) : s = t := by
  have htables : s.tables = t.tables := by
    apply Table.ext_get?
    intro library
    change s.library? library = t.library? library
    cases hs : s.library? library with
    | none =>
      have hnone : ¬ (t.library? library).isSome := by
        rw [← hknown, hs]
        exact Bool.false_ne_true
      rw [Option.not_isSome_iff_eq_none.1 hnone]
    | some known =>
      have hsome : (t.library? library).isSome := by
        rw [← hknown, hs]
        rfl
      obtain ⟨table, ht⟩ := Option.isSome_iff_exists.1 hsome
      rw [ht]
      apply congrArg some
      apply Table.ext_get?
      intro key
      rw [← literal?_of_some hs, ← literal?_of_some ht, hliteral]
  cases s
  cases t
  exact congrArg Libraries.mk htables

/-! ## Filing tables -/

theorem library?_insert (libraries : Libraries Literal) (library other : LibraryId)
    (table : LiteralTable Literal) :
    (libraries.insert library table).library? other =
      if library = other then
        some ((libraries.library? library).elim table fun known => known.merge table)
      else libraries.library? other := by
  refine (Table.get?_alter _ _ _ _).trans ?_
  by_cases h : library = other
  · subst h
    rw [if_pos rfl, if_pos rfl]
    change some _ = some ((libraries.tables.get? library).elim _ _)
    cases libraries.tables.get? library <;> rfl
  · rw [if_neg h, if_neg fun hrank => h (Ranked.rank_injective hrank)]
    rfl

theorem isSome_library?_insert (libraries : Libraries Literal) (filing : Filing Literal)
    (other : LibraryId) :
    ((libraries.insert filing.1 filing.2).library? other).isSome ↔
      (libraries.library? other).isSome ∨ filing.1 = other := by
  rw [library?_insert]
  by_cases h : filing.1 = other <;> simp [h]

/-- What filing a table adds at a key. -/
def offered (library : LibraryId) (key : RecordKey) (filing : Filing Literal) : Option Literal :=
  if filing.1 = library then filing.2.get? key else none

theorem offered_eq_some_iff {library : LibraryId} {key : RecordKey} {filing : Filing Literal}
    {literal : Literal} :
    offered library key filing = some literal ↔
      filing.1 = library ∧ filing.2.get? key = some literal := by
  unfold offered
  by_cases h : filing.1 = library <;> simp [h]

theorem offered_eq_none_iff {library : LibraryId} {key : RecordKey} {filing : Filing Literal} :
    offered library key filing = none ↔ (filing.1 = library → filing.2.get? key = none) := by
  unfold offered
  by_cases h : filing.1 = library <;> simp [h]

theorem literal?_insert (libraries : Libraries Literal) (filing : Filing Literal)
    (library : LibraryId) (key : RecordKey) :
    (libraries.insert filing.1 filing.2).literal? library key =
      (libraries.literal? library key).or (offered library key filing) := by
  unfold literal? offered
  rw [library?_insert]
  by_cases h : filing.1 = library
  · subst h
    rw [if_pos rfl, if_pos rfl]
    cases libraries.library? filing.1 with
    | none => rfl
    | some known => exact Table.get?_merge known filing.2 key
  · rw [if_neg h, if_neg h, Option.or_none]

/-- A merged table is filed as its parts are, one after the other. -/
theorem insert_merge (libraries : Libraries Literal) (library : LibraryId)
    (first second : LiteralTable Literal) :
    libraries.insert library (first.merge second)
      = (libraries.insert library first).insert library second := by
  apply ext_literal?
  · intro other
    simp only [isSome_library?_insert _ (library, _), or_assoc, or_self]
  · intro other key
    simp only [literal?_insert _ (library, _), Option.or_assoc]
    unfold offered
    split
    · rw [Table.get?_merge]
    · rfl

theorem isSome_library?_insertAll (libraries : Libraries Literal)
    (filings : List (Filing Literal)) (library : LibraryId) :
    ((libraries.insertAll filings).library? library).isSome ↔
      (libraries.library? library).isSome ∨ ∃ filing ∈ filings, filing.1 = library := by
  induction filings generalizing libraries with
  | nil => simp [insertAll]
  | cons filing rest ih =>
    refine (ih (libraries.insert filing.1 filing.2)).trans ?_
    rw [isSome_library?_insert, or_assoc]
    simp

theorem isSome_library?_insertAll_empty (filings : List (Filing Literal)) (library : LibraryId) :
    (((∅ : Libraries Literal).insertAll filings).library? library).isSome ↔
      ∃ filing ∈ filings, filing.1 = library :=
  (isSome_library?_insertAll ∅ filings library).trans (or_iff_right Bool.false_ne_true)

theorem literal?_insertAll (libraries : Libraries Literal) (filings : List (Filing Literal))
    (library : LibraryId) (key : RecordKey) :
    (libraries.insertAll filings).literal? library key =
      (libraries.literal? library key).or (filings.findSome? (offered library key)) := by
  induction filings generalizing libraries with
  | nil => simp [insertAll]
  | cons filing rest ih =>
    refine (ih (libraries.insert filing.1 filing.2)).trans ?_
    rw [literal?_insert, Option.or_assoc, List.findSome?_cons]
    cases offered library key filing <;> rfl

/-- Filing comes to the same if the same ids are named and each key is first defined by the
same literal. -/
theorem insertAll_congr (libraries : Libraries Literal) {filings others : List (Filing Literal)}
    (hmem : ∀ filing, filing ∈ filings ↔ filing ∈ others)
    (hfirst : ∀ library key,
      filings.findSome? (offered library key) = others.findSome? (offered library key)) :
    libraries.insertAll filings = libraries.insertAll others := by
  apply ext_literal?
  · intro library
    simp only [isSome_library?_insertAll, hmem]
  · intro library key
    rw [literal?_insertAll, literal?_insertAll, hfirst]

theorem insertAll_swap (libraries : Libraries Literal) (front back : List (Filing Literal))
    {first second : Filing Literal} (h : first.1 ≠ second.1) :
    libraries.insertAll (front ++ first :: second :: back) =
      libraries.insertAll (front ++ second :: first :: back) := by
  apply insertAll_congr
  · intro filing
    simp only [List.mem_append, List.mem_cons, or_left_comm]
  · intro library key
    -- at most one of the two is filed under the library
    have hnone : offered library key first = none ∨ offered library key second = none := by
      by_cases hfirst : first.1 = library
      · exact .inr (if_neg fun hsecond => h (hfirst.trans hsecond.symm))
      · exact .inl (if_neg hfirst)
    simp only [List.findSome?_append, List.findSome?_cons]
    rcases hnone with hnone | hnone
    · rw [hnone]
    · rw [hnone]

theorem insertAll_repeat (libraries : Libraries Literal)
    (front middle back : List (Filing Literal)) (again : Filing Literal) :
    libraries.insertAll (front ++ again :: middle ++ again :: back) =
      libraries.insertAll (front ++ again :: middle ++ back) := by
  apply insertAll_congr
  · intro filing
    simp only [List.mem_append, List.mem_cons]
    tauto
  · intro library key
    simp only [List.findSome?_append, List.findSome?_cons]
    cases offered library key again with
    | none => rfl
    | some literal => cases front.findSome? (offered library key) <;> rfl

/-! ## Counting literals -/

theorem length_definitions (filings : List (Filing Literal)) :
    (definitions filings).length = filings.foldr (fun filing count => filing.2.size + count) 0 := by
  induction filings with
  | nil => rfl
  | cons filing rest ih =>
    rw [definitions, List.flatMap_cons, List.length_append, ← definitions, ih, List.foldr_cons,
      List.length_map, Table.keys, List.length_map]
    rfl

theorem mem_definitions_iff {filings : List (Filing Literal)} {library : LibraryId}
    {key : RecordKey} :
    (library, key) ∈ definitions filings ↔
      ∃ filing ∈ filings, (offered library key filing).isSome := by
  simp only [definitions, List.mem_flatMap, List.mem_map, Prod.mk.injEq, Table.mem_keys_iff]
  refine exists_congr fun filing => and_congr_right fun _ => ?_
  unfold offered
  by_cases h : filing.1 = library <;> simp [h]

/-- Everything that libraries hold is defined once. -/
theorem nodup_definitions (libraries : Libraries Literal) :
    (definitions libraries.tables.entries).Nodup := by
  refine List.nodup_flatMap.2 ⟨fun filing _ => ?_, libraries.tables.ascending.imp ?_⟩
  · exact filing.2.nodup_keys.map fun key other h => (Prod.mk.inj h).2
  · intro filing other hlt pair hpair hother
    obtain ⟨key, -, rfl⟩ := List.mem_map.1 hpair
    obtain ⟨key', -, heq⟩ := List.mem_map.1 hother
    exact Nat.ne_of_lt hlt (congrArg (fun pair => Ranked.rank pair.1) heq).symm

theorem mem_definitions_entries_iff {libraries : Libraries Literal} {library : LibraryId}
    {key : RecordKey} :
    (library, key) ∈ definitions libraries.tables.entries ↔
      (libraries.literal? library key).isSome := by
  rw [mem_definitions_iff]
  constructor
  · rintro ⟨filing, hmem, hoffered⟩
    obtain ⟨literal, hliteral⟩ := Option.isSome_iff_exists.1 hoffered
    obtain ⟨rfl, hget⟩ := offered_eq_some_iff.1 hliteral
    rw [literal?_of_some (Table.get?_eq_some_iff.2 hmem), hget]
    rfl
  · intro hsome
    obtain ⟨literal, hliteral⟩ := Option.isSome_iff_exists.1 hsome
    obtain ⟨table, htable, hget⟩ := Option.bind_eq_some_iff.1 hliteral
    have hoffered : offered library key (library, table) = some literal :=
      offered_eq_some_iff.2 ⟨rfl, hget⟩
    exact ⟨(library, table), Table.get?_eq_some_iff.1 htable,
      Option.isSome_iff_exists.2 ⟨literal, hoffered⟩⟩

theorem literalCount_insertAll (filings : List (Filing Literal)) :
    ((∅ : Libraries Literal).insertAll filings).literalCount
      = (definitions filings).dedup.length := by
  refine (length_definitions _).symm.trans (List.Perm.length_eq ?_)
  refine (List.perm_ext_iff_of_nodup (nodup_definitions _) (List.nodup_dedup _)).2 ?_
  rintro ⟨library, key⟩
  rw [mem_definitions_entries_iff, literal?_insertAll, List.mem_dedup, mem_definitions_iff]
  exact List.findSome?_isSome_iff

/-! ## The first definition wins -/

/-- What libraries hold after tables were filed, told from the tables alone. -/
structure HoldsFirst (libraries : Libraries Literal) (filings : List (Filing Literal)) : Prop where
  unknownLibrary_iff : ∀ library key,
    libraries.resolve library key = .error (.unknownLibrary library) ↔
      ∀ filing ∈ filings, filing.1 ≠ library
  ok_iff : ∀ library key literal, libraries.resolve library key = .ok literal ↔
    ∃ front table back, filings = front ++ (library, table) :: back ∧
      table.get? key = some literal ∧
      ∀ earlier ∈ front, earlier.1 = library → earlier.2.get? key = none
  unknownKey_iff : ∀ library key,
    libraries.resolve library key = .error (.unknownKey library key) ↔
      (∃ filing ∈ filings, filing.1 = library) ∧
        ∀ filing ∈ filings, filing.1 = library → filing.2.get? key = none
  ids_ascending : libraries.ids.Pairwise (· < ·)
  mem_ids_iff : ∀ library, library ∈ libraries.ids ↔ ∃ filing ∈ filings, filing.1 = library
  size_eq : libraries.size = libraries.ids.length
  literalCount_eq : libraries.literalCount = (definitions filings).dedup.length

theorem holdsFirst_insertAll (filings : List (Filing Literal)) :
    ((∅ : Libraries Literal).insertAll filings).HoldsFirst filings where
  unknownLibrary_iff library key := by
    rw [resolve_eq_unknownLibrary_iff, ← Option.not_isSome_iff_eq_none,
      isSome_library?_insertAll_empty, not_exists]
    exact forall_congr' fun filing => not_and
  ok_iff library key literal := by
    rw [resolve_eq_ok_iff, literal?_insertAll]
    refine List.findSome?_eq_some_iff.trans ?_
    constructor
    · rintro ⟨front, ⟨other, table⟩, back, hsplit, hoffered, hfront⟩
      obtain ⟨rfl, hget⟩ := offered_eq_some_iff.1 hoffered
      exact ⟨front, table, back, hsplit, hget,
        fun earlier hmem => offered_eq_none_iff.1 (hfront earlier hmem)⟩
    · rintro ⟨front, table, back, hsplit, hget, hfront⟩
      exact ⟨front, (library, table), back, hsplit, offered_eq_some_iff.2 ⟨rfl, hget⟩,
        fun earlier hmem => offered_eq_none_iff.2 (hfront earlier hmem)⟩
  unknownKey_iff library key := by
    rw [resolve_eq_unknownKey_iff, isSome_library?_insertAll_empty, literal?_insertAll]
    refine and_congr_right fun _ => List.findSome?_eq_none_iff.trans ?_
    exact forall₂_congr fun filing _ => offered_eq_none_iff
  ids_ascending :=
    (Table.pairwise_keys _).imp fun hlt => UInt32.lt_iff_toNat_lt.2 hlt
  mem_ids_iff library := by
    rw [mem_ids_iff, isSome_library?_insertAll_empty]
  size_eq := (List.length_map _).symm
  literalCount_eq := literalCount_insertAll filings

/-- The first definition wins, so the order of filings under different ids and repeated
filings are of no account. -/
theorem insertAll_first_wins :
    (∀ filings : List (Filing Literal),
      ((∅ : Libraries Literal).insertAll filings).HoldsFirst filings) ∧
    (∀ (libraries : Libraries Literal) (front back : List (Filing Literal))
      (first second : Filing Literal), first.1 ≠ second.1 →
        libraries.insertAll (front ++ first :: second :: back) =
          libraries.insertAll (front ++ second :: first :: back)) ∧
    ∀ (libraries : Libraries Literal) (front middle back : List (Filing Literal))
      (again : Filing Literal),
        libraries.insertAll (front ++ again :: middle ++ again :: back) =
          libraries.insertAll (front ++ again :: middle ++ back) :=
  ⟨holdsFirst_insertAll, fun libraries front back _ _ => insertAll_swap libraries front back,
    insertAll_repeat⟩

theorem insertAll_first_wins_overlap :
    let first : Filing String := (2, (∅ : LiteralTable String).set (.ofEntry 1) "gain %d")
    let other : Filing String := (0, ∅)
    let later : Filing String := (2, (∅ : LiteralTable String).set (.ofEntry 1) "mute")
    let libraries := (∅ : Libraries String).insertAll [first, other, later]
    first.1 ≠ other.1 ∧ libraries = (∅ : Libraries String).insertAll [other, first, later] ∧
      libraries.resolve 2 (.ofEntry 1) = .ok "gain %d" ∧
      libraries.resolve 0 (.ofEntry 1) = .error (.unknownKey 0 (.ofEntry 1)) ∧
      libraries.literalCount = 1 := by
  intro first other later libraries
  obtain ⟨hholds, hswap, -⟩ := @insertAll_first_wins String
  have hholds := hholds [first, other, later]
  refine ⟨by decide, hswap ∅ [] [later] first other (by decide), ?_, ?_, ?_⟩
  · exact (hholds.ok_iff 2 (.ofEntry 1) "gain %d").2
      ⟨[], first.2, [other, later], rfl, rfl, fun _ h => nomatch h⟩
  · refine (hholds.unknownKey_iff 0 (.ofEntry 1)).2 ⟨⟨other, by simp, rfl⟩, ?_⟩
    simp [first, other, later]
  · exact hholds.literalCount_eq.trans (by decide)

end FirmwareTrace.Libraries
