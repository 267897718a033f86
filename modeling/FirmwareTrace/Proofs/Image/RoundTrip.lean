import FirmwareTrace.Proofs.Image.AssembledContainer
import FirmwareTrace.Proofs.Image.Extraction
import FirmwareTrace.Proofs.Table.Lookup
import FirmwareTrace.Proofs.Text.Utf8

/-! # Images read back

An image that was assembled holds exactly the literals that were placed in it: there is one
entry for each, under its address without the low seven bits, and it is the literal in every
field, `build_image`.
-/
namespace FirmwareTrace.Image
open Elf Bytes

/-! ## Texts that end with a zero -/

theorem upToZero_encode {text : String} (htext : '\x00' ∉ text.toList) {octets : List UInt8}
    (h : Utf8.encode text = octets ∨ Utf8.encode text ++ [0] <+: octets) : Spells octets text := by
  rw [← @String.ofList_toList text] at h ⊢
  have hzero : (0 : UInt8) ∉ Utf8.encode (String.ofList text.toList) := fun hmem =>
    htext (Utf8.mem_encode_ofList (by decide) hmem)
  exact ⟨_, ⟨hzero, h⟩, by rw [Utf8.decodeLossy_encode]⟩

/-- A part that a zero ends is found whole if there is room for it, with or without the zero. -/
theorem eq_or_prefix_take (part back : List UInt8) {capacity : Nat}
    (h : part.length ≤ capacity) :
    part = (part ++ [0] ++ back).take capacity ∨
      part ++ [0] <+: (part ++ [0] ++ back).take capacity := by
  rcases Nat.eq_or_lt_of_le h with rfl | hlt
  · rw [List.append_assoc, List.take_left]
    exact .inl rfl
  · refine .inr (List.prefix_take_iff.2 ⟨List.prefix_append _ _, ?_⟩)
    rw [List.length_append, List.length_singleton]
    exact hlt

/-! ## Placing -/

theorem Entry.le_size (entry : Entry) :
    literalHeaderSize + entry.textOctets.length ≤ entry.size := by
  unfold size slots slotSize
  omega

theorem Entry.slotSize_le_size (entry : Entry) : slotSize ≤ entry.size := by
  unfold size slots slotSize literalHeaderSize
  omega

theorem Placed.length_octets (placed : Placed) :
    placed.octets.length = literalHeaderSize + placed.entry.textOctets.length := by
  simp only [Placed.octets, List.length_append, length_toLittleEndian, literalHeaderSize]

theorem Placed.length_run (placed : Placed) : placed.run.length = placed.entry.size := by
  have := placed.entry.le_size
  rw [Placed.run, List.length_append, List.length_replicate, placed.length_octets]
  omega

section

variable {next address : Nat} {entries : List Entry} {placed : Placed}

theorem entry_mem_of_mem_place (h : placed ∈ place next address entries) :
    placed.entry ∈ entries := by
  induction entries generalizing next address with
  | nil => cases h
  | cons entry rest ih =>
    rcases List.mem_cons.1 h with rfl | h
    · exact List.mem_cons_self
    · exact List.mem_cons_of_mem _ (ih h)

/-- A literal stands as far into the runs as its address is from that of the first. -/
theorem standsAt_run (h : placed ∈ place next address entries) : ∃ start,
    placed.address = address + start ∧
      StandsAt ((place next address entries).flatMap Placed.run) start placed.run := by
  induction entries generalizing next address with
  | nil => cases h
  | cons entry rest ih =>
    rw [place, List.flatMap_cons]
    rcases List.mem_cons.1 h with rfl | h
    · exact ⟨0, rfl, standsAt_zero _ _⟩
    · obtain ⟨start, haddress, hstands⟩ := ih h
      have hstands := hstands.after (Placed.run ⟨entry, address, entry.file.address next⟩)
      rw [Placed.length_run] at hstands
      exact ⟨entry.size + start, by omega, hstands⟩

/-- A stored name stands as far into the names as the address that refers to it is from that of
the first. -/
theorem standsAt_name (h : placed ∈ place next address entries) {name : String}
    (hfile : placed.entry.file = .stored name) : ∃ start, placed.fileRef = next + start ∧
      StandsAt (entries.flatMap fun entry => entry.file.octets) start
        (Utf8.encode name ++ [0]) := by
  induction entries generalizing next address with
  | nil => cases h
  | cons entry rest ih =>
    rw [List.flatMap_cons]
    rcases List.mem_cons.1 h with rfl | h
    · refine ⟨0, ?_, ?_⟩
      · rw [hfile]
        rfl
      · rw [hfile]
        exact standsAt_zero _ _
    · obtain ⟨start, href, hstands⟩ := ih h
      exact ⟨entry.file.octets.length + start, by omega, hstands.after _⟩

theorem fileRef_of_absent (h : placed ∈ place next address entries) {other : UInt32}
    (hfile : placed.entry.file = .absent other) : placed.fileRef = other.toNat := by
  induction entries generalizing next address with
  | nil => cases h
  | cons entry rest ih =>
    rcases List.mem_cons.1 h with rfl | h
    · change entry.file = _ at hfile
      rw [hfile]
      rfl
    · exact ih h

theorem pairwise_place (next address : Nat) (entries : List Entry) :
    (place next address entries).Pairwise fun p q => p.address + slotSize ≤ q.address := by
  induction entries generalizing next address with
  | nil => exact .nil
  | cons entry rest ih =>
    refine .cons ?_ (ih _ _)
    intro placed hplaced
    obtain ⟨start, haddress, -⟩ := standsAt_run hplaced
    have := entry.slotSize_le_size
    dsimp only
    omega

theorem length_place (next address : Nat) (entries : List Entry) :
    (place next address entries).length = entries.length := by
  induction entries generalizing next address with
  | nil => rfl
  | cons entry rest ih => rw [place, List.length_cons, List.length_cons, ih]

end

/-! ## Reading what was placed -/

theorem literalAt_of_standsAt {names : Region} {data : ByteArray} {start : Nat} {placed : Placed}
    (h : StandsAt (octets data) start placed.run) (htext : '\x00' ∉ placed.entry.text.toList)
    (hlength : placed.entry.textOctets.length < 0x100000000)
    (href : placed.fileRef < 0x100000000)
    (hname : FilenameAt names placed.fileRef placed.entry.file.shown) :
    LiteralAt names data start placed.literal := by
  have hoctets : StandsAt (octets data) start placed.octets := h.left
  have hlength' : placed.literal.textLength.toNat = placed.entry.textOctets.length :=
    UInt32.toNat_ofNat_of_lt' hlength
  have href' : placed.literal.fileRef.toNat = placed.fileRef := UInt32.toNat_ofNat_of_lt' href
  simp only [Placed.octets, List.append_assoc] at hoctets
  have hlevel := hoctets.right
  have hsource := hlevel.right
  have hline := hsource.right
  have hfile := hline.right
  have hcount := hfile.right
  have hbody := hcount.right
  simp only [length_toLittleEndian] at hlevel hsource hline hfile hcount hbody
  refine ⟨number?_of_standsAt hoctets.left (UInt64.toNat_lt _),
    number?_of_standsAt hlevel.left (UInt32.toNat_lt _),
    number?_of_standsAt hsource.left (UInt32.toNat_lt _),
    number?_of_standsAt hline.left (UInt32.toNat_lt _), ?_, ?_, ?_, ?_, ?_⟩
  · rw [href']
    exact number?_of_standsAt hfile.left href
  · rw [hlength']
    exact number?_of_standsAt hcount.left hlength
  · rw [hlength']
    exact hbody.length_le
  · rw [hlength', hbody.take_drop]
    exact upToZero_encode htext (.inr (List.prefix_refl _))
  · rw [href']
    exact hname

/-- Of the sections with an ASCII name those hold literals whose name says so. -/
theorem isLiteralSection_of_name {name : String} (hname : nameOctets name = Utf8.encode name)
    {sec : Section} (hsec : sec.name = some (nameOctets name)) :
    isLiteralSection sec ↔ nameOctets "log_entries" <:+: nameOctets name := by
  have hdecode : (Utf8.decode? (nameOctets name)).isSome := by
    rw [hname, ← @String.ofList_toList name, Utf8.decode?_encode]
    rfl
  rw [isLiteralSection_iff]
  constructor
  · rintro ⟨other, hother, -, hmarker⟩
    obtain rfl := Option.some.inj (hsec.symm.trans hother)
    exact hmarker
  · intro hmarker
    exact ⟨_, hsec, hdecode, hmarker⟩

namespace Assembly

/-! ## The regions of an image -/

section

variable (assembly : Assembly)

def namesRegion : Region := ⟨assembly.namesAddress.toNat, ⟨⟨assembly.names⟩⟩⟩

def runsRegion : Region := ⟨assembly.entriesAddress.toNat, ⟨⟨assembly.runs⟩⟩⟩

/-- The one literal section of the image. -/
def regions : List (Nat × Region) := [(entriesIndex, assembly.runsRegion)]

theorem contains_namesRegion_iff {address : Nat} : assembly.namesRegion.Contains address ↔
    assembly.namesAddress.toNat ≤ address ∧
      address < assembly.namesAddress.toNat + assembly.names.length :=
  .rfl

theorem contains_runsRegion_iff {address : Nat} : assembly.runsRegion.Contains address ↔
    assembly.entriesAddress.toNat ≤ address ∧
      address < assembly.entriesAddress.toNat + assembly.runs.length :=
  .rfl

theorem regionOf_names :
    regionOf assembly.container assembly.namesSection = .ok assembly.namesRegion :=
  regionOf_eq_ok_iff.2 ⟨_, Section.data?_of_standsAt (show 1 ≠ noBitsKind by decide) rfl
    assembly.standsAt_names, rfl⟩

theorem regionOf_runs :
    regionOf assembly.container assembly.runsSection = .ok assembly.runsRegion :=
  regionOf_eq_ok_iff.2 ⟨_, Section.data?_of_standsAt (show 1 ≠ noBitsKind by decide) rfl
    assembly.standsAt_runs, rfl⟩

theorem literalRegions_container :
    literalRegions assembly.container = .ok assembly.regions := by
  have hother (name : String) (hname : nameOctets name = Utf8.encode name)
      (hmarker : ¬ nameOctets "log_entries" <:+: nameOctets name) {sec : Section}
      (hsec : sec.name = some (nameOctets name)) : isLiteralSection sec = false :=
    Bool.eq_false_iff.2 fun h => hmarker ((isLiteralSection_of_name hname hsec).1 h)
  have hnameTable : isLiteralSection nameTableSection = false :=
    hother ".shstrtab" rfl (by decide) rfl
  have hsymbols : isLiteralSection assembly.symbolTableSection = false :=
    hother ".symtab" rfl (by decide) rfl
  have hnames : isLiteralSection assembly.namesSection = false :=
    hother ".function_strings" rfl (by decide) rfl
  have hruns : isLiteralSection assembly.runsSection = true :=
    (isLiteralSection_of_name rfl rfl).2 ⟨nameOctets ".static_", [], rfl⟩
  have hindexed : (assembly.container.sections.zipIdx.drop 1).filter
      (fun s => isLiteralSection s.1) = [(assembly.runsSection, entriesIndex)] := by
    simp [container, sections, hnameTable, hsymbols, hnames, hruns, entriesIndex]
  change ((assembly.container.sections.zipIdx.drop 1).filter _).mapM _ = _
  rw [hindexed, List.mapM_cons, assembly.regionOf_runs]
  rfl

theorem readIn_container : readIn assembly.container
    = .ok ⟨assembly.regions, assembly.readSymbols.length,
        findAll assembly.namesRegion assembly.regions assembly.readSymbols⟩ :=
  readIn_eq_ok_iff.2 ⟨_, _, _, rfl, rfl, assembly.regionOf_names,
    assembly.literalRegions_container, rfl⟩

/-- The two symbols that belong to no literal define nothing. -/
theorem find_other {symbol : Symbol}
    (h : symbol ∈ [⟨assembly.namesAddress.toNat, some namesIndex⟩, (⟨0x1234, none⟩ : Symbol)]) :
    find assembly.namesRegion assembly.regions symbol = .ok none := by
  simp only [List.mem_cons, List.not_mem_nil, or_false] at h
  rcases h with rfl | rfl
  · rfl
  · rfl

end

/-! ## The literals of an image -/

section

variable {assembly : Assembly} (hfits : assembly.Fits) {placed : Placed}
  (h : placed ∈ assembly.placed)
include hfits h

theorem filenameAt_placed :
    FilenameAt assembly.namesRegion placed.fileRef placed.entry.file.shown := by
  have hentry := entry_mem_of_mem_place h
  cases hfile : placed.entry.file with
  | stored name =>
    obtain ⟨hzero, hcapacity⟩ := hfits.stored _ hentry name hfile
    obtain ⟨start, href, hstands⟩ := standsAt_name h hfile
    have hlength : start + (Utf8.encode name ++ [0]).length ≤ assembly.names.length :=
      hstands.length_le
    rw [List.length_append, List.length_singleton] at hlength
    constructor
    · intro _
      obtain ⟨back, hback⟩ := hstands.drop_eq
      rw [href]
      change Spells ((assembly.names.drop
        (assembly.namesAddress.toNat + start - assembly.namesAddress.toNat)).take 4096) name
      rw [Nat.add_sub_cancel_left, names, hback]
      exact upToZero_encode hzero (eq_or_prefix_take _ back hcapacity)
    · intro hout
      exact absurd (assembly.contains_namesRegion_iff.2 (by omega)) hout
  | absent address =>
    have href := fileRef_of_absent h hfile
    constructor
    · intro hin
      have hin := assembly.contains_namesRegion_iff.1 hin
      have := hfits.absent _ hentry address hfile
      omega
    · intro _
      rfl

theorem literalAt_placed : assembly.runsRegion.Contains placed.address ∧
    LiteralAt assembly.namesRegion assembly.runsRegion.data
      (placed.address - assembly.runsRegion.address) placed.literal := by
  obtain ⟨start, haddress, hstands⟩ := standsAt_run h
  change StandsAt assembly.runs start placed.run at hstands
  have hsize := placed.entry.le_size
  have hend := hstands.length_le
  rw [placed.length_run] at hend
  unfold literalHeaderSize at hsize
  -- the text lies in the runs, and these lie in front of the section headers
  have hlength : placed.entry.textOctets.length < 0x100000000 := by
    have hpadded := length_le_padded assembly.runs
    have hoffsets := hfits.offsets
    unfold headersOffset at hoffsets
    omega
  refine ⟨assembly.contains_runsRegion_iff.2 (by omega), ?_⟩
  rw [haddress, runsRegion, Nat.add_sub_cancel_left]
  exact literalAt_of_standsAt hstands (hfits.text _ (entry_mem_of_mem_place h)) hlength
    (hfits.addresses placed h).2 (filenameAt_placed hfits h)

theorem find_placed :
    find assembly.namesRegion assembly.regions ⟨placed.address, some entriesIndex⟩
      = .ok (some (.literal (keyOf placed.address) placed.literal)) := by
  obtain ⟨hcontains, hliteral⟩ := literalAt_placed hfits h
  have hlookup : assembly.regions.lookup entriesIndex = some assembly.runsRegion := rfl
  unfold find
  rw [Option.bind_some, hlookup]
  dsimp only
  rw [Region.offsetOf?_of_contains hcontains]
  exact congrArg (Except.map fun l => some (Finding.literal (keyOf placed.address) l))
    (readLiteral_of_literalAt hliteral)

theorem raw_keyOf : (keyOf placed.address).raw = placed.address >>> 7 := by
  have hlt : placed.address >>> 7 < UInt32.size :=
    Nat.lt_of_le_of_lt (Nat.shiftRight_le placed.address 7) (hfits.addresses placed h).1
  rw [keyOf, RecordKey.raw_ofEntry, UInt32.toNat_ofNat_of_lt' hlt]

end

/-! ## The table of an image -/

section

variable {assembly : Assembly} (hfits : assembly.Fits)
include hfits

/-- The definitions of an image are the literals that were placed, in their order. -/
theorem filterMap_definition? :
    assembly.readSymbols.filterMap (definition? assembly.namesRegion assembly.regions)
      = assembly.placed.map fun p => (keyOf p.address, p.literal) := by
  have hplaced : (assembly.placed.map fun p => (⟨p.address, some entriesIndex⟩ : Symbol)).filterMap
      (definition? assembly.namesRegion assembly.regions)
        = assembly.placed.map fun p => (keyOf p.address, p.literal) := by
    rw [List.filterMap_map, ← List.filterMap_eq_map]
    apply List.filterMap_congr
    intro p hp
    rw [Function.comp_apply, definition?, find_placed hfits hp]
    rfl
  rw [readSymbols, List.filterMap_append, hplaced]
  exact List.append_nil _

theorem exists_find_readSymbols {symbol : Symbol} (h : symbol ∈ assembly.readSymbols) :
    ∃ finding?, find assembly.namesRegion assembly.regions symbol = .ok finding? := by
  rcases List.mem_append.1 h with h | h
  · obtain ⟨p, hp, rfl⟩ := List.mem_map.1 h
    exact ⟨_, find_placed hfits hp⟩
  · exact ⟨_, assembly.find_other h⟩

/-- Runs of their own give literals keys of their own. -/
theorem ascending_placed :
    (assembly.placed.map fun p => (keyOf p.address, p.literal)).Pairwise
      fun a b => Ranked.rank a.1 < Ranked.rank b.1 := by
  rw [List.pairwise_map]
  refine (pairwise_place _ _ _).imp_of_mem ?_
  intro p q hp hq hpq
  change (keyOf p.address).raw < (keyOf q.address).raw
  rw [raw_keyOf hfits hp, raw_keyOf hfits hq, Nat.shiftRight_eq_div_pow,
    Nat.shiftRight_eq_div_pow]
  unfold slotSize at hpq
  omega

end

/-- An assembled image is read back: it has one entry for each of its literals, with the address
of the literal, less its low seven bits, as the key. -/
theorem build_image (assembly : Assembly) (hfits : assembly.Fits) :
    ∃ table, build assembly.image = .ok table ∧ table.size = assembly.entries.length ∧
      table.entries = assembly.placed.map fun p =>
        (.ofEntry (.ofNat (p.address >>> 7)), p.literal) := by
  have hread := assembly.read?_image hfits.offsets fun p hp => (hfits.addresses p hp).1
  have hbuild : build assembly.image
      = .ok (Table.ofFirst (assembly.placed.map fun p => (keyOf p.address, p.literal))) := by
    rw [build, read_of_container hread, readIn_container, ← filterMap_definition? hfits]
    exact table_findAll_of_ok fun symbol hsymbol => exists_find_readSymbols hfits hsymbol
  have hentries := Table.entries_ofFirst (ascending_placed hfits)
  refine ⟨_, hbuild, ?_, hentries⟩
  rw [Table.size, hentries, List.length_map]
  exact length_place _ _ _

theorem build_image_three :
    let assembly : Assembly := ⟨0x1000, 0x8000,
      [⟨"gain %d", .stored "mixer.c", 0, 1, 1, 120, 0⟩,
        ⟨"mute", .absent 0xdead0000, 8, 3, 2, 77, 1⟩, ⟨"", .stored "", 0, 0, 1, 0, 0⟩]⟩
    assembly.Fits ∧ ∃ table, build assembly.image = .ok table ∧ table.size = 3 ∧
      table.entries =
        [(.ofEntry 0x100, ⟨"gain %d", "mixer.c", 0, 1, 1, 120, 0x1000, 8⟩),
          (.ofEntry 0x101, ⟨"mute", "unknown_filename", 8, 3, 2, 77, 0xdead0000, 5⟩),
          (.ofEntry 0x103, ⟨"", "", 0, 0, 1, 0, 0x1008, 1⟩)] := by
  intro assembly
  have hfits : assembly.Fits := by
    refine ⟨by decide, ?_, ?_, by decide +kernel, by decide +kernel⟩
    · intro entry hentry name hfile
      rcases hentry with _ | ⟨_, _ | ⟨_, _ | ⟨_, ⟨⟩⟩⟩⟩
      all_goals cases hfile
      all_goals decide
    · intro entry hentry address hfile
      rcases hentry with _ | ⟨_, _ | ⟨_, _ | ⟨_, ⟨⟩⟩⟩⟩
      all_goals cases hfile
      all_goals decide
  obtain ⟨table, hbuild, hsize, hentries⟩ := build_image assembly hfits
  exact ⟨hfits, table, hbuild, hsize, hentries.trans (by decide)⟩

end Assembly
end FirmwareTrace.Image
