import FirmwareTrace.Image.Basic
import Mathlib.Data.List.Forall2

/-! # What an image that was read consists of

`readIn_eq_ok_iff` names the parts of a reading that succeeded: the two sections that have
to be there, the octets of the sections that hold literals, and what the symbols come to.
-/
namespace FirmwareTrace

namespace Except

variable {ε α β : Type}

theorem bind_eq_ok_iff {x : Except ε α} {f : α → Except ε β} {b : β} :
    (x >>= f) = .ok b ↔ ∃ a, x = .ok a ∧ f a = .ok b := by
  cases x with
  | error fault => simp [bind, Except.bind]
  | ok a => simp [bind, Except.bind]

theorem map_eq_ok_iff {x : Except ε α} {f : α → β} {b : β} :
    x.map f = .ok b ↔ ∃ a, x = .ok a ∧ f a = b := by
  cases x with
  | error fault => simp [Except.map]
  | ok a => simp [Except.map]

theorem mapM_eq_ok_iff {f : α → Except ε β} {xs : List α} {ys : List β} :
    xs.mapM f = .ok ys ↔ List.Forall₂ (fun a b => f a = .ok b) xs ys := by
  induction xs generalizing ys with
  | nil => cases ys <;> simp [pure, Except.pure]
  | cons a xs ih =>
    rw [List.mapM_cons, bind_eq_ok_iff, List.forall₂_cons_left_iff]
    constructor
    · rintro ⟨b, hb, hrest⟩
      obtain ⟨more, hmore, hys⟩ := bind_eq_ok_iff.1 hrest
      exact ⟨b, more, hb, ih.1 hmore, (Except.ok.inj hys).symm⟩
    · rintro ⟨b, more, hb, hmore, rfl⟩
      exact ⟨b, hb, bind_eq_ok_iff.2 ⟨more, ih.2 hmore, rfl⟩⟩

theorem mem_of_mapM_eq_ok {f : α → Except ε β} {xs : List α} {ys : List β}
    (h : xs.mapM f = .ok ys) {b : β} : b ∈ ys ↔ ∃ a ∈ xs, f a = .ok b := by
  induction mapM_eq_ok_iff.1 h with
  | nil => simp
  | cons hhead hrest ih => simp [ih (mapM_eq_ok_iff.2 hrest), hhead, eq_comm]

theorem exists_mapM_eq_ok_iff {f : α → Except ε β} {xs : List α} :
    (∃ ys, xs.mapM f = .ok ys) ↔ ∀ a ∈ xs, ∃ b, f a = .ok b := by
  induction xs with
  | nil => exact ⟨fun _ a ha => absurd ha List.not_mem_nil, fun _ => ⟨[], rfl⟩⟩
  | cons a xs ih =>
    rw [List.forall_mem_cons, ← ih]
    constructor
    · rintro ⟨ys, hys⟩
      obtain ⟨b, more, hb, hmore, -⟩ := List.forall₂_cons_left_iff.1 (mapM_eq_ok_iff.1 hys)
      exact ⟨⟨b, hb⟩, more, mapM_eq_ok_iff.2 hmore⟩
    · rintro ⟨⟨b, hb⟩, more, hmore⟩
      exact ⟨b :: more, mapM_eq_ok_iff.2 (.cons hb (mapM_eq_ok_iff.1 hmore))⟩

end Except

namespace Image

open Elf

theorem regionOf_eq_ok_iff {container : Container} {sec : Section} {region : Region} :
    regionOf container sec = .ok region ↔
      ∃ data, sec.data? container.bytes = some data ∧ region = ⟨sec.address, data⟩ := by
  unfold regionOf
  cases sec.data? container.bytes with
  | none => simp
  | some data => simp [eq_comm]

/-- The reading of an image whose container was read. -/
def readIn (container : Container) : Except Failure Reading :=
  if (sectionNamed? container symbolSection).isNone then .error (.missingSection symbolSection)
  else
    match sectionNamed? container fileNameSection with
    | none => .error (.missingSection fileNameSection)
    | some sec => do
      let names ← regionOf container sec
      let regions ← literalRegions container
      .ok ⟨regions, container.symbols.length, findAll names regions container.symbols⟩

theorem read_of_container {bytes : ByteArray} {container : Container}
    (h : Container.read? bytes = some container) : read bytes = readIn container := by
  unfold read
  rw [h]
  rfl

theorem container_of_read {bytes : ByteArray} {reading : Reading} (h : read bytes = .ok reading) :
    ∃ container, Container.read? bytes = some container := by
  cases hcontainer : Container.read? bytes with
  | none =>
    unfold read at h
    rw [hcontainer] at h
    cases h
  | some container => exact ⟨container, rfl⟩

theorem readIn_eq_ok_iff {container : Container} {reading : Reading} :
    readIn container = .ok reading ↔ ∃ sec names regions,
      (sectionNamed? container symbolSection).isSome ∧
      sectionNamed? container fileNameSection = some sec ∧
      regionOf container sec = .ok names ∧ literalRegions container = .ok regions ∧
      ⟨regions, container.symbols.length, findAll names regions container.symbols⟩ = reading := by
  unfold readIn
  cases hsymbols : sectionNamed? container symbolSection with
  | none => simp
  | some symbols =>
    cases hsec : sectionNamed? container fileNameSection with
    | none => simp
    | some sec => simp [Except.bind_eq_ok_iff]

/-- Without names the required sections are missing, so nothing was read. -/
theorem readIn_of_nameless {container : Container}
    (hname : ∀ sec ∈ container.sections, sec.name = none) (reading : Reading) :
    readIn container ≠ .ok reading := by
  intro hread
  obtain ⟨sec, -, -, -, hsec, -⟩ := readIn_eq_ok_iff.1 hread
  have hnone : sectionNamed? container fileNameSection = none :=
    List.find?_eq_none.2 fun sec hsec => by simp [hname sec hsec]
  rw [hnone] at hsec
  cases hsec

/-! ## A small image

One literal at `0x8000`, in the file that `0x1000` names, and an octet at the end that belongs
to no section. -/

/-- The octets of a section header. -/
def headerOctets (name kind address offset size : Nat) : List UInt8 :=
  [name, kind, 0, address, offset, size, 0, 0, 0, 0].flatMap (Bytes.toLittleEndian 4)

def gainHeaders : List UInt8 :=
  headerOctets 0 0 0 0 0 ++ headerOctets 0 stringTableKind 0 252 39
    ++ headerOctets 1 symbolTableKind 0 291 32 ++ headerOctets 9 1 0x1000 323 8
    ++ headerOctets 27 1 0x8000 331 35

def gainImage : ByteArray :=
  ⟨⟨identification ++ List.replicate 25 0 ++ Bytes.toLittleEndian 4 52 ++ List.replicate 10 0
    ++ [40, 5, 1].flatMap (Bytes.toLittleEndian 2) ++ gainHeaders
    ++ Utf8.encode "\x00.symtab\x00.function_strings\x00log_entries\x00"
    ++ List.replicate 20 0 ++ Bytes.toLittleEndian 4 0x8000
    ++ List.replicate 6 0 ++ Bytes.toLittleEndian 2 4
    ++ Utf8.encode "mixer.c\x00"
    ++ List.replicate 8 0 ++ [3, 0, 12, 0x1000, 7].flatMap (Bytes.toLittleEndian 4)
    ++ Utf8.encode "gain %d" ++ [0]⟩⟩

theorem literal_gainImage :
    (build gainImage).toOption.bind (fun table => table.get? (.ofEntry 0x100))
      = some ⟨"gain %d", "mixer.c", 0, 3, 0, 12, 0x1000, 7⟩ := by
  decide +kernel

theorem exists_build_gainImage : ∃ table, build gainImage = .ok table ∧
    table.get? (.ofEntry 0x100) = some ⟨"gain %d", "mixer.c", 0, 3, 0, 12, 0x1000, 7⟩ := by
  have h := literal_gainImage
  cases hbuild : build gainImage with
  | error failure => simp [hbuild, Except.toOption] at h
  | ok table => exact ⟨table, rfl, by simpa [hbuild, Except.toOption] using h⟩

end Image
end FirmwareTrace
