import FirmwareTrace.Proofs.Image.Literal
import FirmwareTrace.Proofs.Image.Reading

/-! # Sections of literals and the symbols in them

A symbol stands `Within` a section of literals if it is defined there and its value is the
address of an octet of that section.  Such a symbol is found with its literal,
`find_of_within`, and any other symbol defines nothing, `find_of_not_within`.
-/
namespace FirmwareTrace.Image

open Elf Bytes

theorem containsRun_iff {run octets : List UInt8} : containsRun run octets ↔ run <:+: octets := by
  induction octets with
  | nil => simp [containsRun]
  | cons octet rest ih =>
    rw [containsRun, Bool.or_eq_true, List.isPrefixOf_iff_prefix, ih, List.infix_cons_iff]

/-- The section at an index holds literals: its name is UTF-8 and says so. -/
structure HoldsLiterals (container : Container) (index : Nat) (sec : Section) : Prop where
  index_pos : 0 < index
  sec_at : container.sections[index]? = some sec
  name : ∃ name, sec.name = some name ∧ (Utf8.decode? name).isSome ∧
    nameOctets "log_entries" <:+: name

theorem isLiteralSection_iff {sec : Section} : isLiteralSection sec ↔ ∃ name,
    sec.name = some name ∧ (Utf8.decode? name).isSome ∧ nameOctets "log_entries" <:+: name := by
  unfold isLiteralSection
  cases sec.name with
  | none => simp
  | some name => simp [containsRun_iff, literalMarker]

theorem mem_indexed_iff {container : Container} {index : Nat} {sec : Section} :
    (sec, index) ∈ (container.sections.zipIdx.drop 1).filter (fun s => isLiteralSection s.1) ↔
      HoldsLiterals container index sec := by
  have hdrop : (sec, index) ∈ container.sections.zipIdx.drop 1 ↔
      0 < index ∧ container.sections[index]? = some sec := by
    cases container.sections with
    | nil => simp
    | cons first rest =>
      rw [List.zipIdx_cons, List.drop_succ_cons, List.drop_zero,
        List.mk_mem_zipIdx_iff_le_and_getElem?_sub]
      cases index with
      | zero => simp
      | succ index => simp
  rw [List.mem_filter, hdrop, isLiteralSection_iff]
  exact ⟨fun ⟨⟨hpos, hsec⟩, hname⟩ => ⟨hpos, hsec, hname⟩,
    fun ⟨hpos, hsec, hname⟩ => ⟨⟨hpos, hsec⟩, hname⟩⟩

/-- The symbol is defined in a section of literals that has the data, and its value is the
address of one of their octets. -/
structure Within (container : Container) (symbol : Symbol) (sec : Section) (data : ByteArray) :
    Prop where
  home : ∃ index, symbol.home = some index ∧ HoldsLiterals container index sec
  data_eq : sec.data? container.bytes = some data
  contains : Region.Contains ⟨sec.address, data⟩ symbol.value

/-- The sections that an image has to have, with the octets of those that are read. -/
structure HasSections (container : Container) (names : Region) : Prop where
  symbols : ∃ sec ∈ container.sections, sec.name = some (nameOctets ".symtab")
  names : ∃ sec, sectionNamed? container ".function_strings" = some sec ∧
    sec.address = names.address ∧ sec.data? container.bytes = some names.data
  literals : ∀ index sec, HoldsLiterals container index sec →
    ∃ data, sec.data? container.bytes = some data

section

variable {container : Container} {names : Region} {regions : List (Nat × Region)}

theorem exists_literalRegions (h : HasSections container names) :
    ∃ regions, literalRegions container = .ok regions := by
  apply Except.exists_mapM_eq_ok_iff.2
  rintro ⟨sec, index⟩ hmem
  obtain ⟨data, hdata⟩ := h.literals index sec (mem_indexed_iff.1 hmem)
  exact ⟨_, Except.map_eq_ok_iff.2 ⟨_, regionOf_eq_ok_iff.2 ⟨data, hdata, rfl⟩, rfl⟩⟩

theorem build_of_hasSections {bytes : ByteArray} (hread : Container.read? bytes = some container)
    (h : HasSections container names) (hregions : literalRegions container = .ok regions) :
    build bytes = (findAll names regions container.symbols).table := by
  obtain ⟨symbols, hmem, hname⟩ := h.symbols
  obtain ⟨sec, hsec, haddress, hdata⟩ := h.names
  have hsymbols : (sectionNamed? container symbolSection).isSome := by
    refine List.find?_isSome.2 ⟨symbols, hmem, ?_⟩
    rw [hname]
    exact beq_self_eq_true _
  have hnames : regionOf container sec = .ok names :=
    regionOf_eq_ok_iff.2 ⟨names.data, hdata, by rw [haddress]⟩
  have hok := readIn_eq_ok_iff.2 ⟨sec, names, regions, hsymbols, hsec, hnames, hregions, rfl⟩
  rw [build, read_of_container hread, hok]
  rfl

theorem name_of_sectionNamed? {name : String} {sec : Section}
    (h : sectionNamed? container name = some sec) : sec.name = some (nameOctets name) := by
  unfold sectionNamed? at h
  simpa using List.find?_some h

/-- Conversely an image that is read has the sections. -/
theorem exists_hasSections {reading : Reading} (h : readIn container = .ok reading) :
    ∃ names, HasSections container names := by
  obtain ⟨sec, names, regions, hsymbols, hsec, hnames, hregions, -⟩ := readIn_eq_ok_iff.1 h
  obtain ⟨symbols, hsymbols⟩ := Option.isSome_iff_exists.1 hsymbols
  obtain ⟨data, hdata, rfl⟩ := regionOf_eq_ok_iff.1 hnames
  have hthere := List.mem_of_find?_eq_some hsymbols
  refine ⟨⟨sec.address, data⟩, ⟨symbols, hthere, name_of_sectionNamed? hsymbols⟩,
    ⟨sec, hsec, rfl, hdata⟩, ?_⟩
  intro index sec hholds
  obtain ⟨region, hregion⟩ :=
    Except.exists_mapM_eq_ok_iff.1 ⟨regions, hregions⟩ (sec, index) (mem_indexed_iff.2 hholds)
  obtain ⟨found, hfound, -⟩ := Except.map_eq_ok_iff.1 hregion
  obtain ⟨data, hdata, -⟩ := regionOf_eq_ok_iff.1 hfound
  exact ⟨data, hdata⟩

/-- The regions are those of the literal sections, each under its index. -/
theorem mem_regions_iff (hregions : literalRegions container = .ok regions) {index : Nat}
    {region : Region} : (index, region) ∈ regions ↔
      ∃ sec, HoldsLiterals container index sec ∧ regionOf container sec = .ok region := by
  rw [Except.mem_of_mapM_eq_ok hregions]
  constructor
  · rintro ⟨⟨sec, i⟩, hmem, hone⟩
    obtain ⟨found, hfound, hpair⟩ := Except.map_eq_ok_iff.1 hone
    obtain ⟨rfl, rfl⟩ := Prod.mk.inj hpair
    exact ⟨sec, mem_indexed_iff.1 hmem, hfound⟩
  · rintro ⟨sec, hholds, hfound⟩
    exact ⟨(sec, index), mem_indexed_iff.2 hholds, Except.map_eq_ok_iff.2 ⟨region, hfound, rfl⟩⟩

theorem mem_of_lookup {index : Nat} {region : Region}
    (h : regions.lookup index = some region) : (index, region) ∈ regions := by
  obtain ⟨before, after, rfl, -⟩ := List.lookup_eq_some_iff.1 h
  simp

theorem lookup_eq_some_iff (hregions : literalRegions container = .ok regions) {index : Nat}
    {region : Region} : regions.lookup index = some region ↔
      ∃ sec, HoldsLiterals container index sec ∧ regionOf container sec = .ok region := by
  constructor
  · intro hlookup
    exact (mem_regions_iff hregions).1 (mem_of_lookup hlookup)
  · rintro ⟨sec, hholds, hregion⟩
    cases hlookup : regions.lookup index with
    | none =>
      have hmem := (mem_regions_iff hregions).2 ⟨sec, hholds, hregion⟩
      simpa using List.lookup_eq_none_iff.1 hlookup _ hmem
    | some found =>
      -- an index stands for one section, so it has one region
      obtain ⟨other, hother, hfound⟩ := (mem_regions_iff hregions).1 (mem_of_lookup hlookup)
      obtain rfl := Option.some.inj (hholds.sec_at.symm.trans hother.sec_at)
      rw [hregion] at hfound
      rw [Except.ok.inj hfound]

variable (hregions : literalRegions container = .ok regions) {symbol : Symbol}
include hregions

theorem find_of_within {sec : Section} {data : ByteArray}
    (h : Within container symbol sec data) :
    find names regions symbol = (readLiteral names data (symbol.value - sec.address)).map
      fun literal => some (.literal (keyOf symbol.value) literal) := by
  obtain ⟨index, hhome, hholds⟩ := h.home
  have hlookup : regions.lookup index = some ⟨sec.address, data⟩ :=
    (lookup_eq_some_iff hregions).2 ⟨sec, hholds, regionOf_eq_ok_iff.2 ⟨data, h.data_eq, rfl⟩⟩
  have hoffset := Region.offsetOf?_of_contains h.contains
  unfold find
  rw [hhome, Option.bind_some, hlookup]
  dsimp only
  rw [hoffset]

theorem find_of_not_within (h : ∀ sec data, ¬ Within container symbol sec data) :
    ∃ finding?, find names regions symbol = .ok finding? ∧
      finding?.bind Finding.definition? = none := by
  unfold find
  cases hlookup : symbol.home.bind fun home => regions.lookup home with
  | none => exact ⟨none, rfl, rfl⟩
  | some region =>
    obtain ⟨index, hhome, hindex⟩ := Option.bind_eq_some_iff.1 hlookup
    obtain ⟨sec, hholds, hregion⟩ := (lookup_eq_some_iff hregions).1 hindex
    obtain ⟨data, hdata, rfl⟩ := regionOf_eq_ok_iff.1 hregion
    have hout : ¬ Region.Contains ⟨sec.address, data⟩ symbol.value := fun hin =>
      h sec data ⟨⟨index, hhome, hholds⟩, hdata, hin⟩
    dsimp only
    rw [Region.offsetOf?_of_not_contains hout]
    exact ⟨_, rfl, rfl⟩

theorem exists_find_error {sec : Section} {data : ByteArray}
    (h : Within container symbol sec data) (hcut : ¬ Complete data (symbol.value - sec.address)) :
    ∃ fault, find names regions symbol = .error fault := by
  rw [find_of_within hregions h]
  cases hliteral : readLiteral names data (symbol.value - sec.address) with
  | error fault => exact ⟨fault, rfl⟩
  | ok literal =>
    exact absurd (exists_literalAt_iff.1 ⟨literal, readLiteral_eq_ok_iff.1 hliteral⟩) hcut

theorem exists_find_ok
    (h : ∀ sec data, Within container symbol sec data →
      Complete data (symbol.value - sec.address)) :
    ∃ finding?, find names regions symbol = .ok finding? := by
  by_cases hwithin : ∃ sec data, Within container symbol sec data
  · obtain ⟨sec, data, hwithin⟩ := hwithin
    obtain ⟨literal, hliteral⟩ := exists_literalAt_iff.2 (h sec data hwithin)
    rw [find_of_within hregions hwithin, readLiteral_eq_ok_iff.2 hliteral]
    exact ⟨_, rfl⟩
  · obtain ⟨finding?, hfind, -⟩ :=
      find_of_not_within hregions fun sec data hsec => hwithin ⟨sec, data, hsec⟩
    exact ⟨finding?, hfind⟩

end

end FirmwareTrace.Image
