import FirmwareTrace.Elf.Container
import Mathlib.Data.List.Infix

/-! # Reading a container of which more is there

Whatever can be read of the front of a file is read in the same way of the whole file.
Names are the exception, because a section without one is no failure; but the name table
is either there as a whole or gives no names at all, `Container.read?_extends`.
-/
namespace FirmwareTrace

namespace Bytes

variable {front whole : ByteArray}

theorem size_le_of_front (h : octets front <+: octets whole) : front.size ≤ whole.size :=
  h.length_le

theorem stretch_of_front (h : octets front <+: octets whole) {offset count : Nat}
    (hsize : offset + count ≤ front.size) :
    stretch front offset count = stretch whole offset count := by
  obtain ⟨rest, hrest⟩ := h
  have hcount : count ≤ ((octets front).drop offset).length := by
    rw [List.length_drop, length_octets]
    omega
  rw [stretch_eq, stretch_eq, ← hrest, List.drop_append_of_le_length,
    List.take_append_of_le_length hcount]
  rw [length_octets]
  omega

theorem slice?_of_front (h : octets front <+: octets whole) {offset count : Nat}
    (hsize : offset + count ≤ front.size) :
    slice? front offset count = slice? whole offset count := by
  rw [slice?, slice?, if_pos hsize, if_pos (Nat.le_trans hsize (size_le_of_front h)),
    stretch_of_front h hsize]

theorem ext_octets {a b : ByteArray} (h : octets a = octets b) : a = b :=
  ByteArray.ext (Array.toList_inj.1 h)

theorem extract_of_front (h : octets front <+: octets whole) {offset count : Nat}
    (hsize : offset + count ≤ front.size) :
    front.extract offset (offset + count) = whole.extract offset (offset + count) :=
  ext_octets (stretch_of_front h hsize)

end Bytes

/-- Whatever the first reading gives, the second gives too. -/
def Extends {α : Type} (first second : Option α) : Prop :=
  ∀ a, first = some a → second = some a

namespace Extends

variable {α β : Type} {x y : Option α}

theorem refl (x : Option α) : Extends x x := fun _ h => h

theorem none (y : Option α) : Extends .none y := nofun

theorem bind {f g : α → Option β} (h : Extends x y) (hfg : ∀ a, Extends (f a) (g a)) :
    Extends (x >>= f) (y >>= g) := by
  intro b hb
  obtain ⟨a, ha, hfa⟩ := Option.bind_eq_some_iff.1 hb
  exact Option.bind_eq_some_iff.2 ⟨a, h a ha, hfg a b hfa⟩

theorem map (h : Extends x y) (f : α → β) : Extends (x.map f) (y.map f) := by
  intro b hb
  obtain ⟨a, ha, hfa⟩ := Option.map_eq_some_iff.1 hb
  exact Option.map_eq_some_iff.2 ⟨a, h a ha, hfa⟩

theorem filter (h : Extends x y) (p : α → Bool) : Extends (x.filter p) (y.filter p) := by
  intro a ha
  obtain ⟨hx, hp⟩ := Option.filter_eq_some_iff.1 ha
  exact Option.filter_eq_some_iff.2 ⟨h a hx, hp⟩

theorem ite {x' y' : Option α} (p : Prop) [Decidable p] (h : Extends x y)
    (h' : Extends x' y') : Extends (if p then x else x') (if p then y else y') := by
  by_cases hp : p
  · rwa [if_pos hp, if_pos hp]
  · rwa [if_neg hp, if_neg hp]

/-- A reading behind a condition that holds for the second if it does for the first. -/
theorem guard {p q : Bool} (hpq : p = true → q = true) (h : Extends x y) :
    Extends (if !p then .none else x) (if !q then .none else y) := by
  cases p with
  | false => exact .none _
  | true => simpa [hpq rfl] using h

theorem mapM {f g : α → Option β} (hfg : ∀ a, Extends (f a) (g a)) (xs : List α) :
    Extends (xs.mapM f) (xs.mapM g) := by
  induction xs with
  | nil => exact refl _
  | cons a xs ih =>
    rw [List.mapM_cons, List.mapM_cons]
    exact (hfg a).bind fun b => ih.bind fun bs => refl _

theorem foldlM {f g : β → α → Option β} (hfg : ∀ b a, Extends (f b a) (g b a)) (xs : List α)
    (start : β) : Extends (xs.foldlM f start) (xs.foldlM g start) := by
  induction xs generalizing start with
  | nil => exact refl _
  | cons a xs ih =>
    rw [List.foldlM_cons, List.foldlM_cons]
    exact (hfg start a).bind fun next => ih next

end Extends

namespace Elf

namespace Container

/-- The section headers of a file and the stretch that their names stand in. -/
def headers? (bytes : ByteArray) : Option (List (Nat × Section) × Option (Nat × Nat)) := do
  let header ← FileHeader.read? bytes
  if !header.programsReadable bytes then none
  else
    let raw ← header.sections? bytes
    let range ← if raw.isEmpty then some none else header.nameRange? raw
    some (raw, range)

/-- The sections with their names. -/
def named (bytes : ByteArray) (raw : List (Nat × Section)) (range : Option (Nat × Nat)) :
    List Section :=
  raw.map fun s => { s.2 with name := nameAt? bytes range s.1 }

/-- The container that has the given sections. -/
def ofSections? (bytes : ByteArray) (sections : List Section) : Option Container := do
  let (data, extended) ← symbolTable? bytes sections symbolTableKind
  let _ ← symbolTable? bytes sections dynamicSymbolsKind
  let positions := (List.range (data.size / symbolSize)).drop 1
  some ⟨bytes, sections, positions.filterMap (readSymbol? data extended)⟩

end Container

open Bytes

variable {front whole : ByteArray} (h : octets front <+: octets whole)
include h

theorem slice?_extends (offset count : Nat) :
    Extends (slice? front offset count) (slice? whole offset count) := by
  intro part hpart
  rw [← slice?_of_front h (slice?_eq_some_iff.1 hpart).1, hpart]

theorem inside_extends {offset size : Nat} (hinside : inside front offset size = true) :
    inside whole offset size = true := by
  have hle := size_le_of_front h
  simp only [inside, decide_eq_true_eq] at hinside ⊢
  omega

namespace FileHeader

theorem read?_extends : Extends (FileHeader.read? front) (FileHeader.read? whole) :=
  (slice?_extends h _ _).bind fun _ => .refl _

theorem programsReadable_extends {header : FileHeader}
    (hread : header.programsReadable front = true) : header.programsReadable whole = true := by
  simp only [programsReadable, Bool.or_eq_true, Bool.and_eq_true] at hread ⊢
  rcases hread with hnone | hinside
  · exact .inl hnone
  · exact .inr ⟨hinside.1, inside_extends h hinside.2⟩

end FileHeader

theorem readSection?_extends (offset : Nat) :
    Extends (readSection? front offset) (readSection? whole offset) :=
  (slice?_extends h _ _).map _

namespace FileHeader

theorem sectionTotal?_extends (header : FileHeader) :
    Extends (header.sectionTotal? front) (header.sectionTotal? whole) :=
  .ite _ (.refl _) (.ite _ (.refl _) (.ite _ (.refl _) ((readSection?_extends h _).map _)))

theorem sections?_extends (header : FileHeader) :
    Extends (header.sections? front) (header.sections? whole) :=
  (header.sectionTotal?_extends h).bind fun _ =>
    .ite _ (.refl _) (.ite _ (.refl _) (.guard (inside_extends h)
      (.mapM (fun _ => readSection?_extends h _) _)))

end FileHeader

/-- The name table is there as a whole, and gives the same names, or it gives none. -/
theorem nameAt?_cases (range : Option (Nat × Nat)) :
    (∀ offset, nameAt? front range offset = none) ∨
      ∀ offset, nameAt? front range offset = nameAt? whole range offset := by
  cases range with
  | none => exact .inl fun offset => rfl
  | some range =>
    obtain ⟨start, size⟩ := range
    by_cases hsize : start + size ≤ front.size
    · refine .inr fun offset => ?_
      by_cases hoffset : size < offset
      · simp [nameAt?, hoffset]
      · have hslice : slice? front (start + offset) (size - offset)
            = slice? whole (start + offset) (size - offset) :=
          slice?_of_front h (by omega)
        simp [nameAt?, hoffset, hslice]
    · refine .inl fun offset => ?_
      by_cases hoffset : size < offset
      · simp [nameAt?, hoffset]
      · have hslice : slice? front (start + offset) (size - offset) = none :=
          if_neg (by omega)
        simp [nameAt?, hoffset, hslice]

namespace Section

theorem data?_extends (sec : Section) : Extends (sec.data? front) (sec.data? whole) := by
  refine .ite _ (.refl _) fun data hdata => ?_
  by_cases hinside : inside front sec.offset sec.size = true
  · rw [if_pos hinside] at hdata
    rw [if_pos (inside_extends h hinside), ← hdata]
    exact congrArg some (extract_of_front h (of_decide_eq_true hinside)).symm
  · rw [if_neg hinside] at hdata
    cases hdata

theorem table?_extends (sec : Section) (entrySize : Nat) :
    Extends (sec.table? front entrySize) (sec.table? whole entrySize) :=
  (sec.data?_extends h).filter _

end Section

variable (sections : List Section)

theorem extendedIndices?_extends (index : Nat) :
    Extends (extendedIndices? front sections index) (extendedIndices? whole sections index) :=
  .foldlM (fun _ sec => .ite _ (sec.table?_extends h 4) (.refl _)) _ _

theorem symbolTable?_extends (kind : Nat) :
    Extends (symbolTable? front sections kind) (symbolTable? whole sections kind) := by
  unfold symbolTable?
  cases sections.findIdx? fun s => s.kind == kind with
  | none => exact .refl _
  | some index =>
    refine (Extends.refl sections[index]?).bind fun table => ?_
    refine (table.table?_extends h symbolSize).bind fun data => ?_
    exact .ite _ ((extendedIndices?_extends h sections index).bind fun _ => .refl _) (.refl _)

namespace Container

omit h in
theorem read?_eq (bytes : ByteArray) :
    read? bytes = (headers? bytes).bind fun headers =>
      ofSections? bytes (named bytes headers.1 headers.2) := by
  unfold read? headers?
  cases FileHeader.read? bytes with
  | none => rfl
  | some header =>
    by_cases hprograms : header.programsReadable bytes = true
    · cases hraw : header.sections? bytes with
      | none => simp [hprograms, hraw]
      | some raw =>
        cases raw with
        | nil => simp [hprograms, hraw, ofSections?, named]
        | cons sec raw =>
          cases hrange : header.nameRange? (sec :: raw) with
          | none => simp [hprograms, hraw, hrange]
          | some range => simp [hprograms, hraw, hrange, ofSections?, named]
    · simp [hprograms]

theorem headers?_extends : Extends (headers? front) (headers? whole) :=
  (FileHeader.read?_extends h).bind fun header =>
    .guard (FileHeader.programsReadable_extends h)
      ((header.sections?_extends h).bind fun _ => .refl _)

omit h in
theorem ofSections?_eq_some_iff {bytes : ByteArray} {container : Container} :
    ofSections? bytes sections = some container ↔ ∃ table dynamic,
      symbolTable? bytes sections symbolTableKind = some table ∧
      symbolTable? bytes sections dynamicSymbolsKind = some dynamic ∧
      ⟨bytes, sections, ((List.range (table.1.size / symbolSize)).drop 1).filterMap
        (readSymbol? table.1 table.2)⟩ = container := by
  constructor
  · intro hread
    obtain ⟨table, htable, hrest⟩ := Option.bind_eq_some_iff.1 hread
    obtain ⟨dynamic, hdynamic, hcontainer⟩ := Option.bind_eq_some_iff.1 hrest
    exact ⟨table, dynamic, htable, hdynamic, Option.some.inj hcontainer⟩
  · rintro ⟨table, dynamic, htable, hdynamic, rfl⟩
    unfold ofSections?
    rw [htable, hdynamic]
    rfl

theorem ofSections?_extends {container : Container}
    (hread : ofSections? front sections = some container) :
    ofSections? whole sections = some { container with bytes := whole } := by
  obtain ⟨table, dynamic, htable, hdynamic, rfl⟩ := (ofSections?_eq_some_iff sections).1 hread
  exact (ofSections?_eq_some_iff sections).2 ⟨table, dynamic,
    symbolTable?_extends h sections _ table htable,
    symbolTable?_extends h sections _ dynamic hdynamic, rfl⟩

omit h in
theorem sections_of_ofSections? {bytes : ByteArray} {container : Container}
    (hread : ofSections? bytes sections = some container) : container.sections = sections := by
  obtain ⟨table, dynamic, -, -, rfl⟩ := (ofSections?_eq_some_iff sections).1 hread
  rfl

omit h in
theorem ofSections?_of_read? {bytes : ByteArray} {container : Container}
    (hread : read? bytes = some container) :
    ofSections? bytes container.sections = some container := by
  rw [read?_eq] at hread
  obtain ⟨headers, -, hrest⟩ := Option.bind_eq_some_iff.1 hread
  rwa [sections_of_ofSections? _ hrest]

omit h in
theorem bytes_of_read? {bytes : ByteArray} {container : Container}
    (hread : read? bytes = some container) : container.bytes = bytes := by
  obtain ⟨table, dynamic, -, -, hcontainer⟩ :=
    (ofSections?_eq_some_iff _).1 (ofSections?_of_read? hread)
  rw [← hcontainer]

/-- A container that is read of the front of a file has no names at all, or is the
container of the whole file. -/
theorem read?_extends {container : Container} (hread : read? front = some container) :
    (∀ sec ∈ container.sections, sec.name = none) ∨
      read? whole = some { container with bytes := whole } := by
  rw [read?_eq] at hread
  obtain ⟨⟨raw, range⟩, hheaders, hread⟩ := Option.bind_eq_some_iff.1 hread
  rcases nameAt?_cases h range with hnone | hsame
  · left
    intro sec hsec
    rw [sections_of_ofSections? _ hread] at hsec
    obtain ⟨s, -, rfl⟩ := List.mem_map.1 hsec
    exact hnone s.1
  · right
    have hnamed : named front raw range = named whole raw range := by
      simp only [named, hsame]
    rw [read?_eq, headers?_extends h _ hheaders]
    rw [hnamed] at hread
    exact ofSections?_extends h _ hread

end Container
end Elf
end FirmwareTrace
