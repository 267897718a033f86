import FirmwareTrace.Proofs.Elf.Extension
import FirmwareTrace.Proofs.Image.Reading

/-! # Images that are cut off

An image that is read of the front of a file is the image of the whole file,
`build_extends`.  So a file that is cut off is either refused or has lost nothing,
`build_truncated`.
-/
namespace FirmwareTrace.Image

open Elf Bytes

variable {front whole : ByteArray} (h : octets front <+: octets whole) {container : Container}
include h

theorem regionOf_extends (hbytes : container.bytes = front) {sec : Section} {region : Region}
    (hregion : regionOf container sec = .ok region) :
    regionOf { container with bytes := whole } sec = .ok region := by
  obtain ⟨data, hdata, hregion⟩ := regionOf_eq_ok_iff.1 hregion
  rw [hbytes] at hdata
  exact regionOf_eq_ok_iff.2 ⟨data, sec.data?_extends h data hdata, hregion⟩

theorem literalRegions_extends (hbytes : container.bytes = front) {regions : List (Nat × Region)}
    (hregions : literalRegions container = .ok regions) :
    literalRegions { container with bytes := whole } = .ok regions := by
  refine Except.mapM_eq_ok_iff.2 ((Except.mapM_eq_ok_iff.1 hregions).imp fun sec region hone => ?_)
  obtain ⟨found, hfound, hregion⟩ := Except.map_eq_ok_iff.1 hone
  exact Except.map_eq_ok_iff.2 ⟨found, regionOf_extends h hbytes hfound, hregion⟩

theorem readIn_extends (hbytes : container.bytes = front) {reading : Reading}
    (hread : readIn container = .ok reading) :
    readIn { container with bytes := whole } = .ok reading := by
  obtain ⟨sec, names, regions, hsymbols, hsec, hnames, hregions, hreading⟩ :=
    readIn_eq_ok_iff.1 hread
  exact readIn_eq_ok_iff.2 ⟨sec, names, regions, hsymbols, hsec, regionOf_extends h hbytes hnames,
    literalRegions_extends h hbytes hregions, hreading⟩

theorem read_extends {reading : Reading} (hread : read front = .ok reading) :
    read whole = .ok reading := by
  obtain ⟨container, hcontainer⟩ := container_of_read hread
  rw [read_of_container hcontainer] at hread
  rcases Container.read?_extends h hcontainer with hname | hwhole
  · exact absurd hread (readIn_of_nameless hname reading)
  · rw [read_of_container hwhole]
    exact readIn_extends h (Container.bytes_of_read? hcontainer) hread

theorem build_extends {table : LiteralTable Icl.Literal} (hbuild : build front = .ok table) :
    build whole = .ok table := by
  obtain ⟨reading, hread, htable⟩ := Except.bind_eq_ok_iff.1 hbuild
  exact Except.bind_eq_ok_iff.2 ⟨reading, read_extends h hread, htable⟩

/-- Cutting an image off loses no literal unnoticed. -/
theorem build_truncated {table : LiteralTable Icl.Literal} (hbuild : build whole = .ok table) :
    (∃ failure, build front = .error failure) ∨ build front = .ok table := by
  cases hfront : build front with
  | error failure => exact .inl ⟨failure, rfl⟩
  | ok less =>
    right
    rw [← hbuild, build_extends h hfront]

omit h in
theorem gainImage_truncated : ∃ table, build gainImage = .ok table ∧
    table.get? (.ofEntry 0x100) = some ⟨"gain %d", "mixer.c", 0, 3, 0, 12, 0x1000, 7⟩ ∧
    ∀ count, (∃ failure, build (gainImage.extract 0 count) = .error failure) ∨
      build (gainImage.extract 0 count) = .ok table := by
  obtain ⟨table, hbuild, hliteral⟩ := exists_build_gainImage
  refine ⟨table, hbuild, hliteral, fun count => build_truncated ?_ hbuild⟩
  have hcut : octets (gainImage.extract 0 count) = (octets gainImage).take count := by
    simpa [stretch] using stretch_eq gainImage 0 count
  rw [hcut]
  exact List.take_prefix _ _

end FirmwareTrace.Image
