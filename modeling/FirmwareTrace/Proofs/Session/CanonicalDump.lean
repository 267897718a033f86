import FirmwareTrace.Proofs.Json.Printing
import FirmwareTrace.Proofs.Libraries.FirstDefinition
import FirmwareTrace.Proofs.Text.Numerals
import FirmwareTrace.Session.Basic

/-! # Dumps as canonical forms

A dump lists the ids of its libraries and the keys of each in ascending order, and a literal
with all its fields.  So it is known from its text, and two sessions have one dump if and only if
they have one format, know the same libraries and find the same literal at every key, however
their tables were filed, `dump_canonical`.
-/
namespace FirmwareTrace
open Function (Injective)
open Json (Printable)

theorem Numeral.decimal_injective : Injective Numeral.decimal := by
  intro m n h
  have hread := congrArg (Numeral.ofDigits? 10) h
  rw [ofDigits?_decimal, ofDigits?_decimal] at hread
  exact Option.some.inj hread

/-! ## Equal dumps -/

theorem Json.ofNat_injective : Injective Json.ofNat := fun _ _ h =>
  Numeral.decimal_injective (Json.number.inj h)

theorem Table.toJson_injective {κ α : Type} [Ranked κ] {encode : α → Json String}
    (h : Injective encode) : Injective fun table : Table κ α => table.toJson encode := by
  intro s t hst
  apply Table.ext
  refine List.map_injective_iff.mpr ?_ (Json.object.inj hst)
  intro a b hab
  obtain ⟨hkey, hvalue⟩ := Prod.mk.inj hab
  exact Prod.ext
    (Ranked.rank_injective (Numeral.decimal_injective (String.ofList_injective hkey)))
    (h hvalue)

theorem Libraries.toJson_injective {Literal : Type} {encode : Literal → Json String}
    (h : Injective encode) : Injective (Libraries.toJson encode) := by
  intro s t hst
  have htables : s.tables = t.tables := by
    apply Table.toJson_injective (Table.toJson_injective h)
    simpa [Libraries.toJson] using hst
  cases s
  cases t
  exact congrArg Libraries.mk htables

theorem Spt.Literal.toJson_injective : Injective Spt.Literal.toJson := by
  intro a b h
  simp only [Spt.Literal.toJson, Json.object.injEq, List.cons.injEq, Prod.mk.injEq,
    Json.string.injEq, Json.array.injEq, true_and, and_true] at h
  obtain ⟨hkey, hfilename, hprovider, hlevel, hmessage, hparams⟩ := h
  have hkey : a.key = b.key := RecordKey.raw_injective (Json.ofNat_injective hkey)
  have hparams : a.params = b.params :=
    Vector.toList_inj.1 (List.map_injective_iff.mpr (fun _ _ => Json.string.inj) hparams)
  cases a
  cases b
  simp_all

theorem Icl.Literal.toJson_injective : Injective Icl.Literal.toJson := by
  intro a b h
  simp only [Icl.Literal.toJson, Json.object.injEq, List.cons.injEq, Prod.mk.injEq,
    Json.string.injEq, Json.ofNat_injective.eq_iff, UInt64.toNat_inj, UInt32.toNat_inj, true_and,
    and_true] at h
  cases a
  cases b
  simp_all

theorem SourceFormat.literalToJson_injective :
    (format : SourceFormat) → Injective format.literalToJson
  | .csv => Spt.Literal.toJson_injective
  | .elf => Icl.Literal.toJson_injective

theorem SourceFormat.name_injective : Injective SourceFormat.name := by
  intro a b h
  cases a <;> cases b <;> simp_all [SourceFormat.name]

theorem Session.dump_injective : Injective Session.dump := by
  rintro ⟨format, s⟩ ⟨other, t⟩ h
  simp only [Session.dump, Json.object.injEq, List.cons.injEq, Prod.mk.injEq,
    Json.string.injEq, true_and, and_true] at h
  obtain ⟨hname, hlibraries⟩ := h
  obtain rfl := SourceFormat.name_injective hname
  rw [Libraries.toJson_injective format.literalToJson_injective hlibraries]

/-! ## The text of a dump -/

theorem Json.printable_ofNat (n : Nat) : Printable (.ofNat n) :=
  .number (Numeral.decimal_ne_nil n) fun _ => Numeral.isDigit_of_mem_decimal

theorem Table.printable_toJson {κ α : Type} [Ranked κ] {encode : α → Json String}
    (h : ∀ a, Printable (encode a)) (table : Table κ α) : Printable (table.toJson encode) := by
  apply Printable.object
  intro m hm
  obtain ⟨e, -, rfl⟩ := List.mem_map.1 hm
  exact h e.2

theorem Spt.Literal.printable_toJson (literal : Spt.Literal) : Printable literal.toJson := by
  apply Printable.object
  simp only [List.forall_mem_cons]
  refine ⟨Json.printable_ofNat _, .string _, .string _, .string _, .string _, .array ?_, nofun⟩
  intro item hitem
  obtain ⟨param, -, rfl⟩ := List.mem_map.1 hitem
  exact .string param

theorem Icl.Literal.printable_toJson (literal : Icl.Literal) : Printable literal.toJson := by
  apply Printable.object
  simp [Json.printable_ofNat, Printable.string]

theorem SourceFormat.printable_literalToJson :
    (format : SourceFormat) → (literal : format.Literal) → Printable (format.literalToJson literal)
  | .csv => Spt.Literal.printable_toJson
  | .elf => Icl.Literal.printable_toJson

theorem Libraries.printable_toJson {Literal : Type} {encode : Literal → Json String}
    (h : ∀ literal, Printable (encode literal)) (libraries : Libraries Literal) :
    Printable (libraries.toJson encode) := by
  apply Printable.object
  simp [Table.printable_toJson (Table.printable_toJson h)]

theorem Session.printable_dump (session : Session) : Printable session.dump := by
  apply Printable.object
  simp [Printable.string, Libraries.printable_toJson session.format.printable_literalToJson]

/-- All literals of libraries, by ascending ids and below each id by ascending keys. -/
structure Libraries.Listing {Literal : Type} (libraries : Libraries Literal)
    (listing : List (LibraryId × List (RecordKey × Literal))) : Prop where
  ids_ascending : listing.Pairwise fun a b => a.1 < b.1
  mem_ids_iff : ∀ library, library ∈ listing.map (·.1) ↔ library ∈ libraries.ids
  keys_ascending : ∀ entry ∈ listing, entry.2.Pairwise fun a b => a.1.raw < b.1.raw
  mem_iff : ∀ entry ∈ listing, ∀ key literal,
    (key, literal) ∈ entry.2 ↔ libraries.literal? entry.1 key = some literal

/-- The compact text of a dump with the given literals. -/
def SourceFormat.dumpText (format : SourceFormat)
    (listing : List (LibraryId × List (RecordKey × format.Literal))) : String :=
  let name (n : Nat) : String := String.ofList (Numeral.decimal n)
  let literals (entries : List (RecordKey × format.Literal)) : List Char :=
    Json.objectChars
      (entries.map fun e => (name e.1.raw, Json.compact (format.literalToJson e.2)))
  String.ofList
    (Json.objectChars
      [("format", Json.stringChars format.name),
        ("tables", Json.objectChars
          [("libraries", Json.objectChars
            (listing.map fun e => (name e.1.toNat, literals e.2)))])])

theorem Libraries.listing_entries {Literal : Type} (libraries : Libraries Literal) :
    libraries.Listing (libraries.tables.entries.map fun e => (e.1, e.2.entries)) where
  ids_ascending := List.pairwise_map.2 libraries.tables.ascending
  mem_ids_iff library := by
    rw [List.map_map]
    rfl
  keys_ascending := by
    intro entry hentry
    obtain ⟨e, -, rfl⟩ := List.mem_map.1 hentry
    exact e.2.ascending
  mem_iff := by
    intro entry hentry key literal
    obtain ⟨e, he, rfl⟩ := List.mem_map.1 hentry
    rw [literal?_of_some (Table.get?_eq_some_iff.2 he), Table.get?_eq_some_iff]

theorem Table.compact_toJson {κ α : Type} [Ranked κ] (encode : α → Json String)
    (table : Table κ α) :
    (table.toJson encode).compact = Json.objectChars (table.entries.map fun e =>
      (String.ofList (Numeral.decimal (Ranked.rank e.1)), (encode e.2).compact)) := by
  rw [Table.toJson, Json.compact_object_eq_objectChars, List.map_map]
  rfl

theorem Session.print_dump (session : Session) :
    session.dump.print .compact = session.format.dumpText
      (session.libraries.tables.entries.map fun e => (e.1, e.2.entries)) := by
  change String.ofList session.dump.compact = _
  simp only [dump, Libraries.toJson, Json.compact_object_eq_objectChars, Table.compact_toJson,
    SourceFormat.dumpText, List.map_cons, List.map_nil, List.map_map]
  rfl

/-- Sessions of one format that know the same libraries and find the same literals. -/
inductive Session.Alike : Session → Session → Prop
  | intro {format : SourceFormat} {s t : Libraries format.Literal}
    (known : ∀ library, library ∈ s.ids ↔ library ∈ t.ids)
    (literal : ∀ library key, s.literal? library key = t.literal? library key) :
    Alike ⟨format, s⟩ ⟨format, t⟩

theorem Session.alike_iff {s t : Session} : s.Alike t ↔ s = t := by
  constructor
  · rintro ⟨known, literal⟩
    rw [Libraries.ext_literal? ?_ literal]
    simpa only [Libraries.mem_ids_iff] using known
  · rintro rfl
    exact .intro (fun _ => .rfl) fun _ _ => rfl

theorem Session.print_dump_inj {s t : Session} :
    s.dump.print .compact = t.dump.print .compact ↔ s = t :=
  (Json.print_compact_inj s.printable_dump t.printable_dump).trans dump_injective.eq_iff

/-- What filing tables comes to: the ids they name, and the first literal of each key. -/
theorem Libraries.insertAll_empty_inj {Literal : Type} {filings others : List (Filing Literal)} :
    (∅ : Libraries Literal).insertAll filings = (∅ : Libraries Literal).insertAll others ↔
      (∀ library, (∃ filing ∈ filings, filing.1 = library) ↔
        ∃ filing ∈ others, filing.1 = library) ∧
      ∀ library key, filings.findSome? (offered library key)
        = others.findSome? (offered library key) := by
  have hliteral (filings : List (Filing Literal)) (library : LibraryId) (key : RecordKey) :
      ((∅ : Libraries Literal).insertAll filings).literal? library key
        = filings.findSome? (offered library key) :=
    literal?_insertAll ∅ filings library key
  simp only [← isSome_library?_insertAll_empty, ← hliteral]
  constructor
  · intro h
    rw [h]
    exact ⟨fun _ => .rfl, fun _ _ => rfl⟩
  · rintro ⟨hknown, hliteral⟩
    exact ext_literal? hknown hliteral

open Libraries (Filing offered) in
/-- One dump for each content: the compact text tells sessions apart exactly by their format,
the libraries that they know and the literals that they find; it names ids and keys in ascending
order; and of the tables that were filed it shows which ids were named and which literal was the
first at each key. -/
theorem Session.dump_canonical :
    (∀ s t : Session, s.dump.print .compact = t.dump.print .compact ↔ s.Alike t) ∧
    (∀ s : Session, ∃ listing, s.libraries.Listing listing ∧
      s.dump.print .compact = s.format.dumpText listing) ∧
    ∀ (format : SourceFormat) (filings others : List (Filing format.Literal)),
      (dump ⟨format, (∅ : Libraries _).insertAll filings⟩).print .compact
          = (dump ⟨format, (∅ : Libraries _).insertAll others⟩).print .compact ↔
        (∀ library, (∃ filing ∈ filings, filing.1 = library) ↔
          ∃ filing ∈ others, filing.1 = library) ∧
        ∀ library key, filings.findSome? (offered library key)
          = others.findSome? (offered library key) := by
  refine ⟨fun s t => print_dump_inj.trans alike_iff.symm,
    fun s => ⟨_, s.libraries.listing_entries, s.print_dump⟩, fun format filings others => ?_⟩
  rw [print_dump_inj, Session.mk.injEq, heq_eq_eq, ← Libraries.insertAll_empty_inj]
  exact and_iff_right rfl

end FirmwareTrace
