import FirmwareTrace.Proofs.Template.Arguments
import Mathlib.Data.String.Basic

/-! # The size of a rendered text

A placeholder writes 514 octets at the most, whatever width and precision it asks for: 512 digits
behind the base mark of a hexadecimal number, `Spec.utf8Len_write_le`.  All other pieces write no
more than they were cut from, so a template bounds the size of its text, `size_text_format`.
-/
namespace FirmwareTrace.Template
open String (utf8Len)

/-! ## Characters of one octet -/

/-- A text of so many characters at the most, each of them one octet. -/
structure Fits (limit : Nat) (cs : List Char) : Prop where
  narrow : ∀ c ∈ cs, c.utf8Size = 1
  length_le : cs.length ≤ limit

section
variable {limit more : Nat} {cs others : List Char}

theorem utf8Len_eq_length (h : ∀ c ∈ cs, c.utf8Size = 1) : utf8Len cs = cs.length := by
  induction cs with
  | nil => rfl
  | cons c rest ih =>
    obtain ⟨hc, hrest⟩ := List.forall_mem_cons.1 h
    rw [String.utf8Len_cons, hc, ih hrest, List.length_cons]

theorem utf8Len_replicate {c : Char} (h : c.utf8Size = 1) (n : Nat) :
    utf8Len (List.replicate n c) = n := by
  have hnarrow : ∀ d ∈ List.replicate n c, d.utf8Size = 1 := by
    intro d hd
    rwa [List.eq_of_mem_replicate hd]
  rw [utf8Len_eq_length hnarrow, List.length_replicate]

theorem Fits.mono (h : Fits limit cs) (hle : limit ≤ more) : Fits more cs :=
  ⟨h.narrow, Nat.le_trans h.length_le hle⟩

theorem Fits.append (h : Fits limit cs) (hothers : Fits more others) :
    Fits (limit + more) (cs ++ others) where
  narrow := List.forall_mem_append.2 ⟨h.narrow, hothers.narrow⟩
  length_le := by
    rw [List.length_append]
    exact Nat.add_le_add h.length_le hothers.length_le

theorem Fits.cons {c : Char} (hc : c.utf8Size = 1) (h : Fits limit cs) :
    Fits (limit + 1) (c :: cs) where
  narrow := List.forall_mem_cons.2 ⟨hc, h.narrow⟩
  length_le := Nat.succ_le_succ h.length_le

theorem Fits.nil : Fits 0 [] := ⟨nofun, Nat.le_refl 0⟩

theorem Fits.padLeft (h : Fits limit cs) (hle : more ≤ limit) :
    Fits limit (Numeral.padLeft '0' more cs) where
  narrow := by
    refine List.forall_mem_append.2 ⟨?_, h.narrow⟩
    intro c hc
    rw [List.eq_of_mem_replicate hc]
    rfl
  length_le := by
    rw [Numeral.length_padLeft]
    exact Nat.max_le.2 ⟨hle, h.length_le⟩

end

/-! ## Numerals -/

section
variable {base n : Nat}

/-- Every character of a numeral is that of a digit. -/
theorem exists_digitChar (hbase : 1 < base) {c : Char} (hc : c ∈ Nat.toDigits base n) :
    ∃ digit < base, c = Nat.digitChar digit := by
  induction n using Nat.strongRecOn with
  | ind n ih =>
    rw [Nat.toDigits_eq_if hbase] at hc
    split at hc
    · rename_i hlt
      exact ⟨n, hlt, List.mem_singleton.1 hc⟩
    · rename_i hle
      rcases List.mem_append.1 hc with hc | hc
      · exact ih (n / base) (Nat.div_lt_self (by omega) hbase) hc
      · exact ⟨n % base, Nat.mod_lt n (by omega), List.mem_singleton.1 hc⟩

theorem utf8Size_digitChar {digit : Nat} (h : digit < 16) :
    (Nat.digitChar digit).utf8Size = 1 ∧ (Nat.digitChar digit).toUpper.utf8Size = 1 := by
  have hall : ∀ digit : Fin 16, (Nat.digitChar digit.val).utf8Size = 1 ∧
      (Nat.digitChar digit.val).toUpper.utf8Size = 1 := by decide
  exact hall ⟨digit, h⟩

/-- A word has eleven digits at the most, those of its octal numeral. -/
theorem length_toDigits_le (hbase : 8 ≤ base) (hn : n < 0x100000000) :
    (Nat.toDigits base n).length ≤ 11 := by
  rw [Nat.length_toDigits_le_iff (by omega) (by decide)]
  calc n < 0x100000000 := hn
    _ ≤ 8 ^ 11 := by decide
    _ ≤ base ^ 11 := Nat.pow_le_pow_left hbase 11

theorem fits_toDigits (hbase : 8 ≤ base ∧ base ≤ 16) (hn : n < 0x100000000) :
    Fits 11 (Nat.toDigits base n) where
  narrow := by
    intro c hc
    obtain ⟨digit, hdigit, rfl⟩ := exists_digitChar (by omega) hc
    exact (utf8Size_digitChar (by omega)).1
  length_le := length_toDigits_le hbase.1 hn

theorem fits_upperHex (hn : n < 0x100000000) : Fits 11 (Numeral.upperHex n) where
  narrow := by
    intro c hc
    obtain ⟨d, hd, rfl⟩ := List.mem_map.1 hc
    obtain ⟨digit, hdigit, rfl⟩ := exists_digitChar (by decide) hd
    exact (utf8Size_digitChar hdigit).2
  length_le := by
    rw [Numeral.upperHex, List.length_map]
    exact length_toDigits_le (by decide) hn

end

theorem natAbs_signedValue_lt (word : UInt32) : (signedValue word).natAbs < 0x100000000 := by
  have hlt := word.toNat_lt
  unfold signedValue
  split <;> omega

/-! ## One conversion -/

/-- Width and precision are those of a specification, so neither is beyond the limit. -/
structure Layout.Clamped (layout : Layout) : Prop where
  width : layout.width ≤ maxField
  precision : ∀ p ∈ layout.precision, p ≤ maxField

theorem Spec.clamped_resolve (spec : Spec) (args : Arguments) :
    (spec.resolve args).1.Clamped where
  width := by
    change (spec.widthCount.resolveWidth args).1.1 ≤ maxField
    cases spec.widthCount with
    | absent => exact Nat.zero_le _
    | fixed n => exact Nat.min_le_right _ _
    | argument => exact Nat.min_le_right _ _
  precision := by
    intro p hp
    change (spec.precisionCount.resolvePrecision _).1 = some p at hp
    cases hcount : spec.precisionCount with
    | absent => simp [hcount, Count.resolvePrecision] at hp
    | fixed n =>
      simp only [hcount, Count.resolvePrecision, Option.some.injEq] at hp
      omega
    | argument =>
      simp only [hcount, Count.resolvePrecision] at hp
      split at hp
      · cases hp
      · simp only [Option.some.injEq] at hp
        omega

section
variable {layout : Layout}

theorem fits_withPrecision (h : layout.Clamped) (word : UInt32) {digits : List Char}
    (hdigits : Fits 11 digits) : Fits 512 (withPrecision layout.precision word digits) := by
  have hwide : Fits 512 digits := hdigits.mono (by decide)
  unfold withPrecision
  split
  · exact hwide
  · rename_i p hp
    split
    · exact Fits.nil.mono (by decide)
    · exact hwide.padLeft (h.precision p hp)

theorem fits_signMark (layout : Layout) (value : Int) : Fits 1 (signMark layout value) := by
  have hsingle : ∀ c : Char, c.utf8Size = 1 → Fits 1 [c] := fun c hc => .cons hc .nil
  unfold signMark
  repeat' split
  · exact hsingle '-' rfl
  · exact hsingle '+' rfl
  · exact hsingle ' ' rfl
  · exact Fits.nil.mono (by decide)

theorem fits_baseMark (condition : Prop) [Decidable condition] {letter : Char}
    (h : letter.utf8Size = 1) : Fits 2 (if condition then ['0', letter] else []) := by
  split
  · exact .cons rfl (.cons h .nil)
  · exact Fits.nil.mono (by decide)

theorem utf8Size_ofNat_le {n : Nat} (h : n < 256) : (Char.ofNat n).utf8Size ≤ 2 := by
  have hall : ∀ n : Fin 256, (Char.ofNat n.val).utf8Size ≤ 2 := by decide +kernel
  exact hall ⟨n, h⟩

/-- What a conversion prints fits, but for a character, which may take two octets. -/
theorem Conversion.fits_parts (h : layout.Clamped) (word : UInt32) {conversion : Conversion}
    (hconversion : conversion ≠ .character) :
    Fits 514 ((conversion.parts layout word).mark ++ (conversion.parts layout word).body) := by
  have hword : word.toNat < 0x100000000 := word.toNat_lt
  have hhex : Fits 11 (Numeral.hex word.toNat) := fits_toDigits (by decide) hword
  cases conversion with
  | signed =>
    have hdigits : Fits 11 (Numeral.decimal (signedValue word).natAbs) :=
      fits_toDigits (by decide) (natAbs_signedValue_lt word)
    exact ((fits_signMark layout _).append (fits_withPrecision h word hdigits)).mono (by decide)
  | unsigned =>
    have hdigits : Fits 11 (Numeral.decimal word.toNat) := fits_toDigits (by decide) hword
    exact (fits_withPrecision h word hdigits).mono (by decide)
  | hex => exact (fits_baseMark _ rfl).append (fits_withPrecision h word hhex)
  | upperHex =>
    exact (fits_baseMark _ rfl).append (fits_withPrecision h word (fits_upperHex hword))
  | octal =>
    have hdigits : Fits 11 (Numeral.octal word.toNat) := fits_toDigits (by decide) hword
    have hshown := fits_withPrecision h word hdigits
    simp only [parts, List.nil_append]
    split
    · exact (Fits.cons rfl hshown).mono (by decide)
    · exact hshown.mono (by decide)
  | character => exact absurd rfl hconversion
  | pointer => exact ((fits_baseMark True rfl).append hhex).mono (by decide)
  | address =>
    exact (Fits.cons rfl (Fits.cons rfl (hhex.padLeft (by decide)))).mono (by decide)

/-- The parts of a conversion take one octet more than they have characters at the most. -/
theorem Conversion.utf8Len_parts_le (h : layout.Clamped) (word : UInt32)
    (conversion : Conversion) :
    let parts := conversion.parts layout word
    utf8Len (parts.mark ++ parts.body) ≤ 514 ∧
      utf8Len (parts.mark ++ parts.body) ≤ (parts.mark ++ parts.body).length + 1 := by
  by_cases hconversion : conversion = .character
  · subst hconversion
    have hsize : (Char.ofNat (word.toNat % 256)).utf8Size ≤ 2 :=
      utf8Size_ofNat_le (Nat.mod_lt _ (by decide))
    simp only [parts, List.nil_append, String.utf8Len_cons, String.utf8Len_nil, List.length_cons,
      List.length_nil]
    omega
  · have hfits := fits_parts h word hconversion
    simp only [utf8Len_eq_length hfits.narrow]
    exact ⟨hfits.length_le, Nat.le_succ _⟩

end

/-- The fill of a field takes one octet for each character that is wanting. -/
theorem Parts.utf8Len_place (parts : Parts) (layout : Layout) (zeroFills : Bool) :
    utf8Len (parts.place layout zeroFills) =
      utf8Len (parts.mark ++ parts.body) + (layout.width - (parts.mark ++ parts.body).length) := by
  have hspaces : ∀ n, utf8Len (List.replicate n ' ') = n := utf8Len_replicate rfl
  have hzeros : ∀ n, utf8Len (List.replicate n '0') = n := utf8Len_replicate rfl
  unfold Parts.place
  dsimp only
  split
  · rw [String.utf8Len_append, hspaces]
  · split
    · simp only [String.utf8Len_append, hzeros]
      omega
    · rw [String.utf8Len_append, hspaces, Nat.add_comm]

theorem Spec.utf8Len_write_le {spec : Spec} (h : spec.conversion?.isSome) (args : Arguments) :
    utf8Len (spec.write args).1 ≤ 514 := by
  obtain ⟨conversion, hconversion⟩ := Option.isSome_iff_exists.1 h
  have hclamped := spec.clamped_resolve args
  have hwidth : (spec.resolve args).1.width ≤ 512 := hclamped.width
  have hparts := conversion.utf8Len_parts_le hclamped (args.word spec.stars)
  rw [write_of_some hconversion, Parts.utf8Len_place]
  omega

/-! ## All pieces -/

/-- A specification of a supported conversion. -/
def Piece.isPlaceholder : Piece → Bool
  | .directive spec => spec.conversion?.isSome
  | _ => false

/-- The placeholders in a template. -/
def placeholderCount (template : String) : Nat :=
  (pieces template.toList).countP Piece.isPlaceholder

/-- The octets that a piece writes at the most. -/
def Piece.maxSize (piece : Piece) : Nat :=
  if piece.isPlaceholder then 514 else utf8Len piece.source

/-- The pieces in order, each with the text that it writes. -/
def shares : List Piece → Arguments → List (Piece × List Char)
  | [], _ => []
  | piece :: rest, args => (piece, (piece.write args).1) :: shares rest (piece.write args).2

theorem Piece.utf8Len_write_le (piece : Piece) (args : Arguments) :
    utf8Len (piece.write args).1 ≤ piece.maxSize := by
  cases piece with
  | text run => exact Nat.le_refl _
  | percent => exact Nat.le_succ 1
  | stray why => exact Nat.le_refl _
  | directive spec =>
    cases hconversion : spec.conversion? with
    | none => simp [maxSize, isPlaceholder, hconversion, write, Spec.write_of_none, source]
    | some conversion =>
      have hsome : spec.conversion?.isSome := by simp [hconversion]
      rw [maxSize, isPlaceholder, if_pos hsome]
      exact Spec.utf8Len_write_le hsome args

section
variable (pieces : List Piece) (args : Arguments)

theorem map_fst_shares : (shares pieces args).map Prod.fst = pieces := by
  induction pieces generalizing args with
  | nil => rfl
  | cons piece rest ih => rw [shares, List.map_cons, ih]

theorem flatMap_snd_shares : (shares pieces args).flatMap Prod.snd = (writeAll pieces args).1 := by
  induction pieces generalizing args with
  | nil => rfl
  | cons piece rest ih => rw [shares, List.flatMap_cons, ih, writeAll]

theorem utf8Len_share_le :
    ∀ share ∈ shares pieces args, utf8Len share.2 ≤ share.1.maxSize := by
  induction pieces generalizing args with
  | nil => exact List.forall_mem_nil _
  | cons piece rest ih => exact List.forall_mem_cons.2 ⟨piece.utf8Len_write_le args, ih _⟩

theorem utf8Len_writeAll_le :
    utf8Len (writeAll pieces args).1 ≤
      utf8Len (pieces.flatMap Piece.source) + 514 * pieces.countP Piece.isPlaceholder := by
  induction pieces generalizing args with
  | nil => exact Nat.le_refl _
  | cons piece rest ih =>
    have hpiece := piece.utf8Len_write_le args
    have hrest := ih (piece.write args).2
    simp only [writeAll, List.flatMap_cons, List.countP_cons, String.utf8Len_append]
    rw [Piece.maxSize] at hpiece
    split at hpiece
    · rename_i hplaceholder
      rw [if_pos hplaceholder]
      omega
    · rename_i hother
      rw [if_neg hother]
      omega

end

/-! ## Whole templates -/

/-- A text is put together from what the pieces of its template write.  No placeholder writes more
than 514 octets and no other piece more than it was cut from, so the size of the text is bounded
by that of the template and the number of its placeholders. -/
theorem size_text_format (template : String) (words : List UInt32) :
    let shares := shares (pieces template.toList) { words }
    (format template words).text = String.ofList (shares.flatMap Prod.snd) ∧
      shares.map Prod.fst = pieces template.toList ∧
      (∀ share ∈ shares, (String.ofList share.2).utf8ByteSize ≤
        if share.1.isPlaceholder then 514 else (String.ofList share.1.source).utf8ByteSize) ∧
      (format template words).text.utf8ByteSize ≤
        template.utf8ByteSize + 514 * placeholderCount template := by
  have hwritten := flatMap_snd_shares (pieces template.toList) { words }
  have hbound := utf8Len_writeAll_le (pieces template.toList) { words }
  refine ⟨?_, map_fst_shares _ _, ?_, ?_⟩
  · rw [hwritten]
    rfl
  · simp only [String.utf8ByteSize_ofList]
    exact utf8Len_share_le _ _
  · rw [flatMap_source_pieces, ← String.utf8ByteSize_ofList, ← String.utf8ByteSize_ofList,
      String.ofList_toList] at hbound
    exact hbound

/-- Its precision is cut off, and the base mark comes on top of it. -/
def wideShare : Piece × List Char :=
  (.directive ⟨['#'], [], some ['*'], [], 'x'⟩, '0' :: 'x' :: Numeral.padLeft '0' 512 ['a', 'b'])

theorem size_text_format_wide :
    wideShare ∈ shares (pieces "é%#.*x".toList) { words := [0x7fffffff, 0xab] } ∧
      (String.ofList wideShare.2).utf8ByteSize ≤ 514 ∧
      (format "é%#.*x" [0x7fffffff, 0xab]).text.utf8ByteSize ≤ 7 + 514 * 1 := by
  have hmem : wideShare ∈ shares (pieces "é%#.*x".toList) { words := [0x7fffffff, 0xab] } := by
    decide +kernel
  have hcount : placeholderCount "é%#.*x" = 1 := by decide +kernel
  obtain ⟨-, -, hshares, htext⟩ := size_text_format "é%#.*x" [0x7fffffff, 0xab]
  rw [hcount] at htext
  exact ⟨hmem, hshares wideShare hmem, htext⟩

/-- The bound of a placeholder is reached. -/
example : (format "%#.*x" [0x7fffffff, 0xab]).text.utf8ByteSize = 514 := by decide +kernel

end FirmwareTrace.Template
