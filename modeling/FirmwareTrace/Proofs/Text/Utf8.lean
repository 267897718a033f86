import FirmwareTrace.Text.Utf8

/-! # Reading encoded text

The octets of a text are read back as its characters, `decode?_encode`, and no other octets are
read as a text, `decode?_eq_some_iff`.  An ASCII octet among them stands for its own character,
`mem_encode_ofList`.
-/
namespace FirmwareTrace.Utf8

theorem encode_ofList (cs : List Char) :
    encode (String.ofList cs) = cs.flatMap String.utf8EncodeChar := by
  rw [encode, String.toByteArray_ofList, List.utf8Encode, List.toList_data_toByteArray]

theorem encode_ofList_append (front back : List Char) :
    encode (String.ofList (front ++ back))
      = encode (String.ofList front) ++ encode (String.ofList back) := by
  simp only [encode_ofList, List.flatMap_append]

/-! ## One character -/

/-- An octet that continues a character, as its first octet allows it. -/
theorem readTails_succ {n low high : Nat} (hlow : low ≤ n) (hhigh : n ≤ high) (hn : n < 256)
    (tails bits : Nat) (rest : List UInt8) :
    readTails (tails + 1) low high bits (UInt8.ofNat n :: rest)
      = readTails tails 0x80 0xbf (bits * 64 + n % 64) rest := by
  have hoctet : (UInt8.ofNat n).toNat = n := UInt8.toNat_ofNat_of_lt' hn
  rw [readTails, hoctet, if_pos ⟨hlow, hhigh⟩]

theorem readTails_tail (n tails bits : Nat) (rest : List UInt8) :
    readTails (tails + 1) 0x80 0xbf bits (UInt8.ofNat (n % 0x40 + 0x80) :: rest)
      = readTails tails 0x80 0xbf (bits * 64 + n % 64) rest := by
  rw [readTails_succ (by omega) (by omega) (by omega)]
  congr 1
  omega

/-- The first octet of a character announces its bits, and leaves room for the second. -/
def Announces (octet : UInt8) (tails second bits : Nat) : Prop :=
  ∃ low high, Lead.of? octet = some ⟨tails, low, high, bits⟩ ∧ low ≤ second ∧ second ≤ high

theorem readChar_of_announces {octet : UInt8} {tails second bits : Nat}
    (h : Announces octet (tails + 1) second bits) (hsecond : second < 256)
    (rest : List UInt8) :
    readChar octet (UInt8.ofNat second :: rest)
      = ((readTails tails 0x80 0xbf (bits * 64 + second % 64) rest).1.map Char.ofNat,
        (readTails tails 0x80 0xbf (bits * 64 + second % 64) rest).2) := by
  obtain ⟨low, high, hlead, hlow, hhigh⟩ := h
  rw [readChar, hlead]
  dsimp only
  rw [readTails_succ hlow hhigh hsecond]

theorem announces_one (n second : Nat) (hlow : 0x80 ≤ n) (hhigh : n ≤ 0x7ff)
    (hsecond : second = n % 0x40 + 0x80) :
    Announces (UInt8.ofNat (n / 64 % 0x20 + 0xc0)) 1 second (n / 64) := by
  have hoctet : (UInt8.ofNat (n / 64 % 0x20 + 0xc0)).toNat = n / 64 % 0x20 + 0xc0 :=
    UInt8.toNat_ofNat_of_lt' (show _ < 256 by omega)
  refine ⟨0x80, 0xbf, ?_, by omega, by omega⟩
  rw [Lead.of?, hoctet]
  rw [if_neg (by omega), if_neg (by omega), if_pos (by omega)]
  congr 2
  omega

theorem announces_two (n second : Nat) (hlow : 0x800 ≤ n) (hhigh : n ≤ 0xffff)
    (hvalid : n < 0xd800 ∨ 0xdfff < n) (hsecond : second = n / 64 % 0x40 + 0x80) :
    Announces (UInt8.ofNat (n / 4096 % 0x10 + 0xe0)) 2 second (n / 4096) := by
  have hoctet : (UInt8.ofNat (n / 4096 % 0x10 + 0xe0)).toNat = n / 4096 % 0x10 + 0xe0 :=
    UInt8.toNat_ofNat_of_lt' (show _ < 256 by omega)
  unfold Announces
  rw [Lead.of?, hoctet]
  rw [if_neg (by omega), if_neg (by omega), if_neg (by omega)]
  by_cases hfirst : n / 4096 = 0
  · rw [if_pos (by omega)]
    exact ⟨0xa0, 0xbf, by rw [hfirst], by omega, by omega⟩
  · rw [if_neg (by omega)]
    by_cases hsurrogate : n / 4096 = 0xd
    · rw [if_pos (by omega)]
      exact ⟨0x80, 0x9f, by rw [hsurrogate], by omega, by omega⟩
    · rw [if_neg (by omega), if_pos (by omega)]
      refine ⟨0x80, 0xbf, ?_, by omega, by omega⟩
      congr 2
      omega

theorem announces_three (n second : Nat) (hlow : 0x10000 ≤ n) (hhigh : n ≤ 0x10ffff)
    (hsecond : second = n / 4096 % 0x40 + 0x80) :
    Announces (UInt8.ofNat (n / 262144 % 0x08 + 0xf0)) 3 second (n / 262144) := by
  have hoctet : (UInt8.ofNat (n / 262144 % 0x08 + 0xf0)).toNat = n / 262144 % 0x08 + 0xf0 :=
    UInt8.toNat_ofNat_of_lt' (show _ < 256 by omega)
  unfold Announces
  rw [Lead.of?, hoctet]
  rw [if_neg (by omega), if_neg (by omega), if_neg (by omega), if_neg (by omega),
    if_neg (by omega), if_neg (by omega)]
  by_cases hfirst : n / 262144 = 0
  · rw [if_pos (by omega)]
    exact ⟨0x90, 0xbf, by rw [hfirst], by omega, by omega⟩
  · rw [if_neg (by omega)]
    by_cases hlast : n / 262144 = 4
    · rw [if_neg (by omega), if_pos (by omega)]
      exact ⟨0x80, 0x8f, by rw [hlast], by omega, by omega⟩
    · rw [if_pos (by omega)]
      refine ⟨0x80, 0xbf, ?_, by omega, by omega⟩
      congr 2
      omega

theorem readChar_ascii {n : Nat} (h : n < 0x80) (rest : List UInt8) :
    readChar (UInt8.ofNat n) rest = (some (Char.ofNat n), rest) := by
  have hoctet : (UInt8.ofNat n).toNat = n := UInt8.toNat_ofNat_of_lt' (show _ < 256 by omega)
  rw [readChar, Lead.of?, hoctet, if_pos h]
  rfl

/-- The octets of a character in front of others are read as that character. -/
theorem exists_readChar_utf8EncodeChar (c : Char) (rest : List UInt8) :
    ∃ first more, String.utf8EncodeChar c = first :: more ∧
      readChar first (more ++ rest) = (some c, rest) := by
  have hvalid : c.val.toNat < 0xd800 ∨ 0xdfff < c.val.toNat ∧ c.val.toNat < 0x110000 := c.valid
  have hc : Char.ofNat c.val.toNat = c := Char.ofNat_toNat c
  rw [String.utf8EncodeChar]
  generalize c.val.toNat = n at hvalid hc ⊢
  subst hc
  split
  · have hn : n < 0x80 := by omega
    exact ⟨_, _, rfl, readChar_ascii hn rest⟩
  · split
    · have hlead := announces_one n (n % 0x40 + 0x80) (by omega) (by omega) rfl
      have hcode : n / 64 * 64 + (n % 0x40 + 0x80) % 64 = n := by omega
      refine ⟨_, _, rfl, ?_⟩
      rw [List.cons_append, List.nil_append, readChar_of_announces hlead (by omega), hcode]
      rfl
    · split
      · have hlead := announces_two n (n / 64 % 0x40 + 0x80) (by omega) (by omega) (by omega) rfl
        have hcode : (n / 4096 * 64 + (n / 64 % 0x40 + 0x80) % 64) * 64 + n % 64 = n := by omega
        refine ⟨_, _, rfl, ?_⟩
        rw [List.cons_append, List.cons_append, List.nil_append,
          readChar_of_announces hlead (by omega), readTails_tail, hcode]
        rfl
      · have hlead := announces_three n (n / 4096 % 0x40 + 0x80) (by omega) (by omega) rfl
        have hcode : ((n / 262144 * 64 + (n / 4096 % 0x40 + 0x80) % 64) * 64
            + (n / 64) % 64) * 64 + n % 64 = n := by omega
        refine ⟨_, _, rfl, ?_⟩
        rw [List.cons_append, List.cons_append, List.cons_append, List.nil_append,
          readChar_of_announces hlead (by omega), readTails_tail, readTails_tail, hcode]
        rfl

/-! ## Texts -/

theorem sequences_cons (first : UInt8) (rest : List UInt8) :
    sequences (first :: rest)
      = (readChar first rest).1 :: sequences (readChar first rest).2 := by
  rw [sequences]

theorem sequences_encode (cs : List Char) :
    sequences (encode (String.ofList cs)) = cs.map some := by
  rw [encode_ofList]
  induction cs with
  | nil => rw [List.flatMap_nil, sequences, List.map_nil]
  | cons c cs ih =>
    obtain ⟨first, more, hoctets, hread⟩ :=
      exists_readChar_utf8EncodeChar c (cs.flatMap String.utf8EncodeChar)
    rw [List.flatMap_cons, hoctets, List.cons_append, sequences_cons, hread, ih, List.map_cons]

/-- A text is decoded as the characters that were encoded. -/
theorem decode?_encode (cs : List Char) : decode? (encode (String.ofList cs)) = some cs := by
  rw [decode?, sequences_encode]
  induction cs with
  | nil => rfl
  | cons c cs ih => rw [List.map_cons, List.mapM_cons, ih]; rfl

theorem decodeLossy_encode (cs : List Char) :
    decodeLossy (encode (String.ofList cs)) = cs := by
  rw [decodeLossy, sequences_encode, List.map_map]
  exact List.map_id cs

/-- An octet below `0x80` stands for its own character. -/
theorem mem_utf8EncodeChar {c : Char} {octet : UInt8} (hascii : octet.toNat < 0x80)
    (h : octet ∈ String.utf8EncodeChar c) : c = Char.ofNat octet.toNat := by
  have hc : Char.ofNat c.val.toNat = c := Char.ofNat_toNat c
  rw [String.utf8EncodeChar] at h
  generalize c.val.toNat = n at hc h
  subst hc
  have hhigh : ∀ m, 0x80 ≤ m → m < 256 → octet ≠ UInt8.ofNat m := by
    rintro m hlow hm rfl
    rw [UInt8.toNat_ofNat_of_lt' hm] at hascii
    omega
  split at h
  · have hn : n < 256 := by omega
    rw [List.mem_singleton.1 h, UInt8.toNat_ofNat_of_lt' hn]
  · exfalso
    split at h
    · simp only [List.mem_cons, List.not_mem_nil, or_false] at h
      rcases h with h | h <;> exact hhigh _ (by omega) (by omega) h
    · split at h
      · simp only [List.mem_cons, List.not_mem_nil, or_false] at h
        rcases h with h | h | h <;> exact hhigh _ (by omega) (by omega) h
      · simp only [List.mem_cons, List.not_mem_nil, or_false] at h
        rcases h with h | h | h | h <;> exact hhigh _ (by omega) (by omega) h

theorem mem_encode_ofList {cs : List Char} {octet : UInt8} (hascii : octet.toNat < 0x80)
    (h : octet ∈ encode (String.ofList cs)) : Char.ofNat octet.toNat ∈ cs := by
  rw [encode_ofList] at h
  obtain ⟨c, hmem, hoctet⟩ := List.mem_flatMap.1 h
  exact mem_utf8EncodeChar hascii hoctet ▸ hmem

/-! ## Valid octets -/

/-- An octet that was taken as the continuation of a character. -/
theorem exists_of_readTails {tails low high bits n : Nat} {octets left : List UInt8}
    (h : readTails (tails + 1) low high bits octets = (some n, left)) :
    ∃ octet rest, octets = octet :: rest ∧ low ≤ octet.toNat ∧ octet.toNat ≤ high ∧
      readTails tails 0x80 0xbf (bits * 64 + octet.toNat % 64) rest = (some n, left) := by
  cases octets with
  | nil => cases h
  | cons octet rest =>
    rw [readTails] at h
    split at h
    · rename_i hrange
      exact ⟨octet, rest, rfl, hrange.1, hrange.2, h⟩
    · cases h

theorem val_ofNat {n : Nat} (h : n.isValidChar) : (Char.ofNat n).val.toNat = n := by
  rw [Char.ofNat, dif_pos h]
  rfl

theorem ofNat_eq (octet : UInt8) {n : Nat} (h : n = octet.toNat) : UInt8.ofNat n = octet := by
  rw [h, UInt8.ofNat_toNat]

section
variable {a : UInt8} {low high bits n : Nat} {rest left : List UInt8}

theorem eq_append_of_readTails_zero (ha : a.toNat < 0x80) (hbits : bits = a.toNat)
    (h : readTails 0 low high bits rest = (some n, left)) :
    a :: rest = String.utf8EncodeChar (Char.ofNat n) ++ left := by
  obtain ⟨hn, rfl⟩ := Prod.mk.inj h
  replace hn := (Option.some.inj hn).symm
  have hvalid : n < 0xd800 ∨ 0xdfff < n ∧ n < 0x110000 := by omega
  simp only [String.utf8EncodeChar, val_ofNat hvalid]
  rw [if_pos (by omega), ofNat_eq a (by omega)]
  rfl

theorem eq_append_of_readTails_one (ha : 0xc2 ≤ a.toNat ∧ a.toNat < 0xe0)
    (hbits : bits = a.toNat % 0x20) (h : readTails 1 0x80 0xbf bits rest = (some n, left)) :
    a :: rest = String.utf8EncodeChar (Char.ofNat n) ++ left := by
  obtain ⟨b, rest, rfl, hlow, hhigh, h⟩ := exists_of_readTails h
  obtain ⟨hn, rfl⟩ := Prod.mk.inj h
  replace hn := (Option.some.inj hn).symm
  have hvalid : n < 0xd800 ∨ 0xdfff < n ∧ n < 0x110000 := by omega
  simp only [String.utf8EncodeChar, val_ofNat hvalid]
  rw [if_neg (by omega), if_pos (by omega), ofNat_eq a (by omega), ofNat_eq b (by omega)]
  rfl

theorem eq_append_of_readTails_two (ha : 0xe0 ≤ a.toNat ∧ a.toNat < 0xf0)
    (hlow : 0x80 ≤ low ∧ (a.toNat = 0xe0 → 0xa0 ≤ low))
    (hhigh : high ≤ 0xbf ∧ (a.toNat = 0xed → high ≤ 0x9f))
    (hbits : bits = a.toNat % 0x10) (h : readTails 2 low high bits rest = (some n, left)) :
    a :: rest = String.utf8EncodeChar (Char.ofNat n) ++ left := by
  obtain ⟨b, rest, rfl, hlowb, hhighb, h⟩ := exists_of_readTails h
  obtain ⟨c, rest, rfl, hlowc, hhighc, h⟩ := exists_of_readTails h
  obtain ⟨hn, rfl⟩ := Prod.mk.inj h
  replace hn := (Option.some.inj hn).symm
  have hvalid : n < 0xd800 ∨ 0xdfff < n ∧ n < 0x110000 := by omega
  simp only [String.utf8EncodeChar, val_ofNat hvalid]
  rw [if_neg (by omega), if_neg (by omega), if_pos (by omega), ofNat_eq a (by omega),
    ofNat_eq b (by omega), ofNat_eq c (by omega)]
  rfl

theorem eq_append_of_readTails_three (ha : 0xf0 ≤ a.toNat ∧ a.toNat < 0xf5)
    (hlow : 0x80 ≤ low ∧ (a.toNat = 0xf0 → 0x90 ≤ low))
    (hhigh : high ≤ 0xbf ∧ (a.toNat = 0xf4 → high ≤ 0x8f))
    (hbits : bits = a.toNat % 0x08) (h : readTails 3 low high bits rest = (some n, left)) :
    a :: rest = String.utf8EncodeChar (Char.ofNat n) ++ left := by
  obtain ⟨b, rest, rfl, hlowb, hhighb, h⟩ := exists_of_readTails h
  obtain ⟨c, rest, rfl, hlowc, hhighc, h⟩ := exists_of_readTails h
  obtain ⟨d, rest, rfl, hlowd, hhighd, h⟩ := exists_of_readTails h
  obtain ⟨hn, rfl⟩ := Prod.mk.inj h
  replace hn := (Option.some.inj hn).symm
  have hvalid : n < 0xd800 ∨ 0xdfff < n ∧ n < 0x110000 := by omega
  simp only [String.utf8EncodeChar, val_ofNat hvalid]
  rw [if_neg (by omega), if_neg (by omega), if_neg (by omega), ofNat_eq a (by omega),
    ofNat_eq b (by omega), ofNat_eq c (by omega), ofNat_eq d (by omega)]
  rfl

end

/-- A character is read from its own octets only. -/
theorem eq_utf8EncodeChar_append {first : UInt8} {rest left : List UInt8} {c : Char}
    (h : readChar first rest = (some c, left)) :
    first :: rest = String.utf8EncodeChar c ++ left := by
  unfold readChar at h
  split at h
  · cases h
  · rename_i lead hlead
    obtain ⟨tails, low, high, bits⟩ := lead
    obtain ⟨hcode, rfl⟩ := Prod.mk.inj h
    obtain ⟨n, hn, rfl⟩ := Option.map_eq_some_iff.1 hcode
    have hread : readTails tails low high bits rest = (some n, _) := Prod.ext hn rfl
    clear h hcode hn
    -- one case for each kind of first octet
    unfold Lead.of? at hlead
    dsimp only at hlead
    repeat' split at hlead
    all_goals cases hlead
    · exact eq_append_of_readTails_zero (by omega) rfl hread
    · exact eq_append_of_readTails_one (by omega) rfl hread
    · exact eq_append_of_readTails_two (by omega) (by omega) (by omega) (by omega) hread
    · exact eq_append_of_readTails_two (by omega) (by omega) (by omega) (by omega) hread
    · exact eq_append_of_readTails_two (by omega) (by omega) (by omega) rfl hread
    · exact eq_append_of_readTails_three (by omega) (by omega) (by omega) (by omega) hread
    · exact eq_append_of_readTails_three (by omega) (by omega) (by omega) rfl hread
    · exact eq_append_of_readTails_three (by omega) (by omega) (by omega) (by omega) hread

theorem eq_encode_of_decode? {octets : List UInt8} {cs : List Char}
    (h : decode? octets = some cs) : octets = encode (String.ofList cs) := by
  rw [encode_ofList]
  unfold decode? at h
  fun_induction sequences octets generalizing cs with
  | case1 =>
    obtain rfl := Option.some.inj h
    rfl
  | case2 first rest ih =>
    rw [List.mapM_cons] at h
    obtain ⟨c, hc, h⟩ := Option.bind_eq_some_iff.1 h
    obtain ⟨more, hmore, h⟩ := Option.bind_eq_some_iff.1 h
    obtain rfl := Option.some.inj h
    rw [List.flatMap_cons, ← ih hmore]
    exact eq_utf8EncodeChar_append (Prod.ext hc rfl)

/-- Octets are decoded as the text that they encode, if they encode any. -/
theorem decode?_eq_some_iff {octets : List UInt8} {cs : List Char} :
    decode? octets = some cs ↔ octets = encode (String.ofList cs) :=
  ⟨eq_encode_of_decode?, fun h => h ▸ decode?_encode cs⟩

theorem encode_singleton (c : Char) : encode (String.ofList [c]) = String.utf8EncodeChar c := by
  rw [encode_ofList, List.flatMap_singleton]

theorem utf8EncodeChar_ascii {octet : UInt8} (hascii : octet.toNat < 0x80) :
    String.utf8EncodeChar (Char.ofNat octet.toNat) = [octet] := by
  have hvalid : octet.toNat < 0xd800 ∨ 0xdfff < octet.toNat ∧ octet.toNat < 0x110000 := by omega
  simp only [String.utf8EncodeChar, val_ofNat hvalid]
  rw [if_pos (by omega), UInt8.ofNat_toNat]

/-- An ASCII octet behind others is the last character of their text. -/
theorem decode?_concat {octet : UInt8} (hascii : octet.toNat < 0x80) (octets : List UInt8) :
    decode? (octets ++ [octet]) = (decode? octets).map (· ++ [Char.ofNat octet.toNat]) := by
  apply Option.ext
  intro cs
  simp only [Option.map_eq_some_iff, decode?_eq_some_iff]
  constructor
  · intro h
    rcases List.eq_nil_or_concat cs with rfl | ⟨front, c, rfl⟩
    · rw [encode_ofList, List.flatMap_nil] at h
      exact absurd h (List.concat_ne_nil octet octets)
    · rw [List.concat_eq_append, encode_ofList_append, encode_singleton] at h
      have hlast := List.getLast?_eq_some_getLast (String.utf8EncodeChar_ne_nil (c := c))
      have hoctet := congrArg List.getLast? h
      rw [List.getLast?_concat, List.getLast?_append, hlast, Option.some_or] at hoctet
      obtain rfl := mem_utf8EncodeChar hascii (List.mem_of_getLast? (hlast.trans hoctet.symm))
      rw [utf8EncodeChar_ascii hascii] at h
      exact ⟨front, List.append_cancel_right h, (List.concat_eq_append).symm⟩
  · rintro ⟨front, rfl, rfl⟩
    rw [encode_ofList_append, encode_singleton, utf8EncodeChar_ascii hascii]

end FirmwareTrace.Utf8
