import FirmwareTrace.Proofs.Elf.Symbols
import FirmwareTrace.Proofs.Image.Sections

/-! # Which literals an image defines

A symbol is eligible if it is not the null symbol and its value lies in the section of
literals that it is defined in.  An image whose sections are there is refused if the literal
of an eligible symbol is cut off.  Otherwise each key has the literal of the first eligible
symbol with that key, `build_extracts`.
-/
namespace FirmwareTrace.Image

open Elf Bytes

/-- The definition that a symbol makes. -/
def definition? (names : Region) (regions : List (Nat × Region)) (symbol : Symbol) :
    Option (RecordKey × Icl.Literal) :=
  (find names regions symbol).toOption.join.bind Finding.definition?

section

variable {names : Region} {regions : List (Nat × Region)}

theorem findAll_of_ok {symbols : List Symbol}
    (h : ∀ symbol ∈ symbols, ∃ finding?, find names regions symbol = .ok finding?) :
    findAll names regions symbols =
      ⟨symbols.filterMap fun symbol => (find names regions symbol).toOption.join, none⟩ := by
  induction symbols with
  | nil => rfl
  | cons symbol rest ih =>
    obtain ⟨finding?, hfind⟩ := h symbol List.mem_cons_self
    have hrest := ih fun s hs => h s (List.mem_cons_of_mem _ hs)
    rw [findAll, hfind]
    cases finding? with
    | none => simp [hrest, hfind, Except.toOption]
    | some finding => simp [hrest, hfind, Except.toOption]

theorem table_findAll_of_ok {symbols : List Symbol}
    (h : ∀ symbol ∈ symbols, ∃ finding?, find names regions symbol = .ok finding?) :
    (findAll names regions symbols).table =
      .ok (Table.ofFirst (symbols.filterMap (definition? names regions))) := by
  rw [findAll_of_ok h]
  simp only [Findings.table, List.filterMap_filterMap]
  rfl

theorem exists_fault_findAll {symbols : List Symbol} {symbol : Symbol} (hmem : symbol ∈ symbols)
    {fault : ContainerFault} (hfind : find names regions symbol = .error fault) :
    ∃ first, (findAll names regions symbols).fault = some first := by
  induction symbols with
  | nil => cases hmem
  | cons head rest ih =>
    rw [findAll]
    cases hhead : find names regions head with
    | error first => exact ⟨first, rfl⟩
    | ok finding? =>
      have hrest : symbol ∈ rest := by
        rcases List.mem_cons.1 hmem with rfl | hrest
        · rw [hhead] at hfind
          cases hfind
        · exact hrest
      cases finding? with
      | none => exact ih hrest
      | some finding => exact ih hrest

theorem table_findAll_of_error {symbols : List Symbol} {symbol : Symbol} (hmem : symbol ∈ symbols)
    {fault : ContainerFault} (hfind : find names regions symbol = .error fault) :
    ∃ first, (findAll names regions symbols).table = .error (.badContainer first) := by
  obtain ⟨first, hfirst⟩ := exists_fault_findAll hmem hfind
  exact ⟨first, by rw [Findings.table, hfirst]⟩

end

/-- The symbol at a position of the table refers to octets of a literal section. -/
structure Eligible (container : Container) (position : Nat) (symbol : Symbol) (sec : Section)
    (data : ByteArray) : Prop extends Within container symbol sec data where
  position_pos : 0 < position
  symbol_at : container.symbolAt? position = some symbol

/-- The symbol is the first eligible one with the key. -/
structure Defines (container : Container) (key : RecordKey) (position : Nat) (symbol : Symbol)
    (sec : Section) (data : ByteArray) : Prop
    extends Eligible container position symbol sec data where
  key_eq : key.raw = symbol.value >>> 7
  first : ∀ earlier < position, ∀ symbol sec data,
    Eligible container earlier symbol sec data → key.raw ≠ symbol.value >>> 7

theorem eq_keyOf_iff {container : Container} {position : Nat} {symbol : Symbol}
    (hat : container.symbolAt? position = some symbol) {key : RecordKey} :
    key = keyOf symbol.value ↔ key.raw = symbol.value >>> 7 := by
  have hlt : symbol.value >>> 7 < UInt32.size :=
    Nat.lt_of_le_of_lt (Nat.shiftRight_le symbol.value 7) (Container.value_lt hat)
  have hraw : (keyOf symbol.value).raw = symbol.value >>> 7 := by
    rw [keyOf, RecordKey.raw_ofEntry, UInt32.toNat_ofNat_of_lt' hlt]
  constructor
  · rintro rfl
    exact hraw
  · intro hkey
    exact RecordKey.raw_injective (hkey.trans hraw.symm)

section

variable {bytes : ByteArray} {container : Container}
  (hread : Container.read? bytes = some container)
include hread

theorem eligible_iff {position : Nat} {symbol : Symbol} {sec : Section} {data : ByteArray} :
    Eligible container position symbol sec data ↔ ∃ i, position = i + 1 ∧
      container.symbols[i]? = some symbol ∧ Within container symbol sec data := by
  constructor
  · intro h
    obtain ⟨i, rfl⟩ := Nat.exists_eq_succ_of_ne_zero (Nat.ne_of_gt h.position_pos)
    exact ⟨i, rfl, (Container.getElem?_symbols hread i).trans h.symbol_at, h.toWithin⟩
  · rintro ⟨i, rfl, hat, hwithin⟩
    exact ⟨hwithin, Nat.succ_pos i, (Container.getElem?_symbols hread i).symm.trans hat⟩

variable {names : Region} {regions : List (Nat × Region)}
  (hregions : literalRegions container = .ok regions)
include hregions

/-- A symbol of the table defines a literal exactly if it is eligible. -/
theorem definition?_eq_some_iff {i : Nat} {symbol : Symbol}
    (hat : container.symbols[i]? = some symbol) {key : RecordKey} {literal : Icl.Literal} :
    definition? names regions symbol = some (key, literal) ↔ ∃ sec data,
      Eligible container (i + 1) symbol sec data ∧ key.raw = symbol.value >>> 7 ∧
        LiteralAt names data (symbol.value - sec.address) literal := by
  have hposition := (Container.getElem?_symbols hread i).symm.trans hat
  unfold definition?
  constructor
  · intro hdefinition
    by_cases hwithin : ∃ sec data, Within container symbol sec data
    · obtain ⟨sec, data, hwithin⟩ := hwithin
      rw [find_of_within hregions hwithin] at hdefinition
      cases hliteral : readLiteral names data (symbol.value - sec.address) with
      | error fault => simp [hliteral, Except.map, Except.toOption] at hdefinition
      | ok found =>
        rw [hliteral] at hdefinition
        obtain ⟨hkey, rfl⟩ := Prod.mk.inj (Option.some.inj hdefinition)
        exact ⟨sec, data, (eligible_iff hread).2 ⟨i, rfl, hat, hwithin⟩,
          (eq_keyOf_iff hposition).1 hkey.symm, readLiteral_eq_ok_iff.1 hliteral⟩
    · obtain ⟨finding?, hfind, hnone⟩ := find_of_not_within hregions
        fun sec data hsec => hwithin ⟨sec, data, hsec⟩
      rw [hfind] at hdefinition
      exact absurd (hnone.symm.trans hdefinition) (Option.some_ne_none _).symm
  · rintro ⟨sec, data, heligible, hkey, hliteral⟩
    rw [find_of_within hregions heligible.toWithin, readLiteral_eq_ok_iff.2 hliteral,
      (eq_keyOf_iff hposition).2 hkey]
    rfl

variable (hcomplete : ∀ position symbol sec data,
  Eligible container position symbol sec data → Complete data (symbol.value - sec.address))
include hcomplete

theorem mem_keys_ofFirst_iff {key : RecordKey} :
    key ∈ (Table.ofFirst (container.symbols.filterMap (definition? names regions))).keys ↔
      ∃ position symbol sec data,
        Eligible container position symbol sec data ∧ key.raw = symbol.value >>> 7 := by
  rw [Table.mem_keys_iff, Table.get?_ofFirst, Table.isSome_lookup_iff]
  constructor
  · intro hkey
    obtain ⟨⟨_, literal⟩, hmem, rfl⟩ := List.mem_map.1 hkey
    obtain ⟨symbol, hsymbol, hdefinition⟩ := List.mem_filterMap.1 hmem
    obtain ⟨i, hat⟩ := List.mem_iff_getElem?.1 hsymbol
    obtain ⟨sec, data, heligible, hraw, -⟩ :=
      (definition?_eq_some_iff hread hregions hat).1 hdefinition
    exact ⟨i + 1, symbol, sec, data, heligible, hraw⟩
  · rintro ⟨position, symbol, sec, data, heligible, hraw⟩
    obtain ⟨literal, hliteral⟩ :=
      exists_literalAt_iff.2 (hcomplete position symbol sec data heligible)
    obtain ⟨i, rfl, hat, -⟩ := (eligible_iff hread).1 heligible
    have hdefinition := (definition?_eq_some_iff hread hregions hat).2
      ⟨sec, data, heligible, hraw, hliteral⟩
    exact List.mem_map.2 ⟨(key, literal),
      List.mem_filterMap.2 ⟨symbol, List.mem_iff_getElem?.2 ⟨i, hat⟩, hdefinition⟩, rfl⟩

theorem get?_ofFirst_eq_some_iff {key : RecordKey} {literal : Icl.Literal} :
    (Table.ofFirst (container.symbols.filterMap (definition? names regions))).get? key
        = some literal ↔
      ∃ position symbol sec data, Defines container key position symbol sec data ∧
        LiteralAt names data (symbol.value - sec.address) literal := by
  rw [Table.get?_ofFirst, Table.lookup_filterMap_eq_some_iff]
  constructor
  · rintro ⟨i, symbol, hat, hdefinition, hfirst⟩
    obtain ⟨sec, data, heligible, hraw, hliteral⟩ :=
      (definition?_eq_some_iff hread hregions hat).1 hdefinition
    refine ⟨i + 1, symbol, sec, data, ⟨heligible, hraw, ?_⟩, hliteral⟩
    intro earlier hearlier other sec' data' hother hkey
    obtain ⟨other', hliteral'⟩ :=
      exists_literalAt_iff.2 (hcomplete earlier other sec' data' hother)
    obtain ⟨j, rfl, hj, -⟩ := (eligible_iff hread).1 hother
    exact hfirst j (by omega) other hj other' ((definition?_eq_some_iff hread hregions hj).2
      ⟨sec', data', hother, hkey, hliteral'⟩)
  · rintro ⟨position, symbol, sec, data, hdefines, hliteral⟩
    obtain ⟨i, rfl, hat, -⟩ := (eligible_iff hread).1 hdefines.toEligible
    refine ⟨i, symbol, hat, (definition?_eq_some_iff hread hregions hat).2
      ⟨sec, data, hdefines.toEligible, hdefines.key_eq, hliteral⟩, ?_⟩
    intro j hj other hother literal' hdefinition
    obtain ⟨sec', data', heligible, hraw, -⟩ :=
      (definition?_eq_some_iff hread hregions hother).1 hdefinition
    exact hdefines.first (j + 1) (by omega) other sec' data' heligible hraw

end

/-- What an image defines, without the way it is read.  One literal that is cut off spoils
the image, whether or not its key has a definition already. -/
theorem build_extracts {bytes : ByteArray} {container : Container} {names : Region}
    (hread : Container.read? bytes = some container) (hsections : HasSections container names) :
    ((∃ position symbol sec data, Eligible container position symbol sec data ∧
        ¬ Complete data (symbol.value - sec.address)) →
      ∃ fault, build bytes = .error (.badContainer fault)) ∧
    ((∀ position symbol sec data, Eligible container position symbol sec data →
        Complete data (symbol.value - sec.address)) →
      ∃ table, build bytes = .ok table ∧
        (∀ key, key ∈ table.keys ↔ ∃ position symbol sec data,
          Eligible container position symbol sec data ∧ key.raw = symbol.value >>> 7) ∧
        ∀ key literal, table.get? key = some literal ↔ ∃ position symbol sec data,
          Defines container key position symbol sec data ∧
            LiteralAt names data (symbol.value - sec.address) literal) := by
  obtain ⟨regions, hregions⟩ := exists_literalRegions hsections
  have hbuild := build_of_hasSections hread hsections hregions
  constructor
  · rintro ⟨position, symbol, sec, data, heligible, hcut⟩
    obtain ⟨i, -, hat, hwithin⟩ := (eligible_iff hread).1 heligible
    obtain ⟨fault, hfault⟩ := exists_find_error hregions hwithin hcut
    rw [hbuild]
    exact table_findAll_of_error (List.mem_iff_getElem?.2 ⟨i, hat⟩) hfault
  · intro hcomplete
    have hfind : ∀ symbol ∈ container.symbols,
        ∃ finding?, find names regions symbol = .ok finding? := by
      intro symbol hmem
      obtain ⟨i, hat⟩ := List.mem_iff_getElem?.1 hmem
      apply exists_find_ok hregions
      intro sec data hwithin
      exact hcomplete (i + 1) symbol sec data ((eligible_iff hread).2 ⟨i, rfl, hat, hwithin⟩)
    exact ⟨_, hbuild.trans (table_findAll_of_ok hfind),
      fun key => mem_keys_ofFirst_iff hread hregions hcomplete,
      fun key literal => get?_ofFirst_eq_some_iff hread hregions hcomplete⟩

theorem build_extracts_gainImage : ∃ container names table,
    Container.read? gainImage = some container ∧ HasSections container names ∧
      build gainImage = .ok table ∧ ∃ position symbol sec data,
        Defines container (.ofEntry 0x100) position symbol sec data ∧
          LiteralAt names data (symbol.value - sec.address)
            ⟨"gain %d", "mixer.c", 0, 3, 0, 12, 0x1000, 7⟩ := by
  obtain ⟨table, hbuild, hliteral⟩ := exists_build_gainImage
  obtain ⟨reading, hreading, -⟩ := Except.bind_eq_ok_iff.1 hbuild
  obtain ⟨container, hread⟩ := container_of_read hreading
  rw [read_of_container hread] at hreading
  obtain ⟨names, hsections⟩ := exists_hasSections hreading
  obtain ⟨hcut, hwhole⟩ := build_extracts hread hsections
  -- the image is read, so no literal of it is cut off
  have hcomplete : ∀ position symbol sec data,
      Eligible container position symbol sec data →
        Complete data (symbol.value - sec.address) := by
    intro position symbol sec data heligible
    by_contra hno
    obtain ⟨fault, hfault⟩ := hcut ⟨position, symbol, sec, data, heligible, hno⟩
    rw [hbuild] at hfault
    cases hfault
  obtain ⟨found, hfound, -, hget⟩ := hwhole hcomplete
  obtain rfl := Except.ok.inj (hbuild.symm.trans hfound)
  exact ⟨container, names, table, hread, hsections, hbuild, (hget _ _).1 hliteral⟩

end FirmwareTrace.Image
