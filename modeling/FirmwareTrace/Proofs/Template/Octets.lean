import FirmwareTrace.Proofs.Template.Size
import FirmwareTrace.Proofs.Text.Utf8

/-! # Specifications in octets

A template can be read octet by octet.  All that a specification consists of is ASCII, so a reader
of octets finds the specification that a reader of characters finds, `parse_of_suffix`.  Where it
breaks off before or inside a longer character, both find none.
-/
namespace FirmwareTrace.Template

/-- The octets of some characters. -/
def octetsOf (cs : List Char) : List UInt8 := cs.flatMap String.utf8EncodeChar

/-- An octet, read as a character by itself. -/
def ofOctet (octet : UInt8) : Char := Char.ofNat octet.toNat

/-- The octet at an index, if there is one. -/
def at? (octets : List UInt8) (index : Nat) : Option Char := octets[index]?.map ofOctet

/-- The octets between two indices, each by itself. -/
def between (octets : List UInt8) (start stop : Nat) : List Char :=
  ((octets.drop start).take (stop - start)).map ofOctet

/-- Moves an index over the octets that fit. -/
def skipWhile (p : Char → Bool) (octets : List UInt8) (index : Nat) : Nat :=
  match _h : octets[index]? with
  | some octet => if p (ofOctet octet) then skipWhile p octets (index + 1) else index
  | none => index
termination_by octets.length - index
decreasing_by
  have := (List.getElem?_eq_some_iff.1 _h).1
  omega

/-- Moves an index over a width or a precision. -/
def skipCount (octets : List UInt8) (index : Nat) : Nat :=
  if at? octets index = some '*' then index + 1 else skipWhile Char.isDigit octets index

/-- Reads a precision, if there is a point, and gives the index behind it. -/
def parsePrecision (octets : List UInt8) (index : Nat) : Option (List Char) × Nat :=
  if at? octets index = some '.' then
    (some (between octets (index + 1) (skipCount octets (index + 1))), skipCount octets (index + 1))
  else (none, index)

/-- What follows a percent sign, with the index behind it. -/
inductive Parsed
  | directive (spec : Spec) (stop : Nat)
  | percent (stop : Nat)
  | incomplete
  deriving DecidableEq, Repr

/-- Reads what follows a percent sign, from an index on. -/
def parse (octets : List UInt8) (index : Nat) : Parsed :=
  if at? octets index = some '%' then .percent (index + 1)
  else
    let flags := skipWhile isFlag octets index
    let width := skipCount octets flags
    let precision := parsePrecision octets width
    let modifiers := skipWhile isModifier octets precision.2
    match at? octets modifiers with
    | none => .incomplete
    | some letter =>
      if letter.toNat < 128 then
        .directive
          { flags := between octets index flags
            width := between octets flags width
            precision := precision.1
            modifiers := between octets precision.2 modifiers
            letter } (modifiers + 1)
      else .incomplete

/-! ## Indices move forward -/

theorem le_skipWhile (p : Char → Bool) (octets : List UInt8) (index : Nat) :
    index ≤ skipWhile p octets index := by
  fun_induction skipWhile p octets index with
  | case1 index octet h hp ih => exact Nat.le_of_succ_le ih
  | case2 index octet h hp => exact Nat.le_refl _
  | case3 index h => exact Nat.le_refl _

theorem le_skipCount (octets : List UInt8) (index : Nat) : index ≤ skipCount octets index := by
  unfold skipCount
  split
  · exact Nat.le_succ _
  · exact le_skipWhile _ _ _

theorem le_parsePrecision (octets : List UInt8) (index : Nat) :
    index ≤ (parsePrecision octets index).2 := by
  unfold parsePrecision
  split
  · exact Nat.le_of_succ_le (le_skipCount octets (index + 1))
  · exact Nat.le_refl _

/-- What is parsed ends behind the index it was parsed from. -/
def Parsed.Beyond (index : Nat) : Parsed → Prop
  | .directive _ stop | .percent stop => index < stop
  | .incomplete => True

theorem beyond_parse (octets : List UInt8) (index : Nat) : (parse octets index).Beyond index := by
  unfold parse
  dsimp only
  have hflags := le_skipWhile isFlag octets index
  have hwidth := le_skipCount octets (skipWhile isFlag octets index)
  generalize skipCount octets (skipWhile isFlag octets index) = width at hwidth
  have hprecision := le_parsePrecision octets width
  generalize parsePrecision octets width = precision at hprecision
  have hmodifiers := le_skipWhile isModifier octets precision.2
  split
  · exact Nat.lt_succ_self index
  · split
    · trivial
    · split
      · exact Nat.lt_succ_of_le
          (hflags.trans (hwidth.trans (hprecision.trans hmodifiers)))
      · trivial

/-! ## ASCII octets and characters -/

theorem octetsOf_append (front back : List Char) :
    octetsOf (front ++ back) = octetsOf front ++ octetsOf back :=
  List.flatMap_append

theorem octetsOf_cons (c : Char) (rest : List Char) :
    octetsOf (c :: rest) = String.utf8EncodeChar c ++ octetsOf rest :=
  List.flatMap_cons

theorem octetsOf_toList (text : String) : octetsOf text.toList = Utf8.encode text := by
  rw [octetsOf, ← Utf8.encode_ofList, String.ofList_toList]

theorem length_octetsOf (cs : List Char) : (octetsOf cs).length = String.utf8Len cs := by
  induction cs with
  | nil => rfl
  | cons c rest ih =>
    rw [octetsOf_cons, List.length_append, ih, String.length_utf8EncodeChar, String.utf8Len_cons,
      Nat.add_comm]

theorem toNat_ofOctet (octet : UInt8) : (ofOctet octet).toNat = octet.toNat := by
  have hlt : octet.toNat < 256 := octet.toNat_lt
  exact Utf8.val_ofNat (.inl (by omega))

theorem utf8Size_eq_one_iff {c : Char} : c.utf8Size = 1 ↔ c.toNat < 128 := by
  rw [Char.utf8Size_eq_one_iff, UInt32.le_iff_toNat_le]
  exact Nat.lt_succ_iff.symm

theorem exists_octet_of_ascii {c : Char} (h : c.toNat < 128) :
    ∃ octet, String.utf8EncodeChar c = [octet] ∧ ofOctet octet = c := by
  have hoctet : (UInt8.ofNat c.toNat).toNat = c.toNat :=
    UInt8.toNat_ofNat_of_lt' (show _ < 256 by omega)
  have hc : Char.ofNat (UInt8.ofNat c.toNat).toNat = c := by rw [hoctet, Char.ofNat_toNat]
  refine ⟨UInt8.ofNat c.toNat, ?_, hc⟩
  rw [← hc, Utf8.utf8EncodeChar_ascii (by omega), hc]

/-- An octet of a longer character stands for no ASCII character. -/
theorem not_ascii_of_mem {c : Char} (h : ¬c.toNat < 128) {octet : UInt8}
    (hmem : octet ∈ String.utf8EncodeChar c) : ¬(ofOctet octet).toNat < 128 := by
  rw [toNat_ofOctet]
  intro hascii
  rw [Utf8.mem_utf8EncodeChar hascii hmem] at h
  exact h (by rwa [← toNat_ofOctet] at hascii)

/-! ## Characters from an index on -/

/-- The octets from an index on are those of some characters. -/
def Suffix (octets : List UInt8) (index : Nat) (cs : List Char) : Prop :=
  octets.drop index = octetsOf cs

/-- The ASCII characters between two indices, in front of others. -/
structure Passes (octets : List UInt8) (start stop : Nat) (run rest : List Char) : Prop where
  stop_eq : stop = start + run.length
  between_eq : between octets start stop = run
  suffix : Suffix octets stop rest

section
variable {octets : List UInt8} {index : Nat} {cs front back run rest : List Char} {c : Char}

theorem Suffix.append (h : Suffix octets index (front ++ back)) :
    Suffix octets (index + String.utf8Len front) back := by
  rw [Suffix, octetsOf_append] at h
  rw [Suffix, ← List.drop_drop, h, ← length_octetsOf, List.drop_left]

theorem at?_eq_head? (h : Suffix octets index cs) :
    at? octets index = (octetsOf cs).head?.map ofOctet := by
  rw [at?, ← List.head?_drop, h]

theorem at?_of_ascii (h : Suffix octets index (c :: rest)) (hc : c.toNat < 128) :
    at? octets index = some c := by
  obtain ⟨octet, hencode, hoctet⟩ := exists_octet_of_ascii hc
  rw [at?_eq_head? h, octetsOf_cons, hencode, ← hoctet]
  rfl

theorem exists_at?_of_not_ascii (h : Suffix octets index (c :: rest)) (hc : ¬c.toNat < 128) :
    ∃ d, at? octets index = some d ∧ ¬d.toNat < 128 := by
  have hpos : 0 < (String.utf8EncodeChar c).length := by
    rw [String.length_utf8EncodeChar]
    exact c.utf8Size_pos
  obtain ⟨octet, more, hencode⟩ := List.exists_cons_of_ne_nil (List.ne_nil_of_length_pos hpos)
  refine ⟨ofOctet octet, ?_, not_ascii_of_mem hc (by rw [hencode]; exact List.mem_cons_self)⟩
  rw [at?_eq_head? h, octetsOf_cons, hencode]
  rfl

/-- A reader of octets tells an ASCII character as a reader of characters does. -/
theorem at?_eq_some_iff (h : Suffix octets index cs) (hc : c.toNat < 128) :
    at? octets index = some c ↔ cs.head? = some c := by
  cases cs with
  | nil => simp [at?_eq_head? h, octetsOf]
  | cons d rest =>
    by_cases hd : d.toNat < 128
    · rw [at?_of_ascii h hd, List.head?_cons]
    · obtain ⟨e, he, hne⟩ := exists_at?_of_not_ascii h hd
      rw [he, List.head?_cons, Option.some.injEq, Option.some.injEq]
      constructor
      · rintro rfl
        exact absurd hc hne
      · rintro rfl
        exact absurd hc hd

theorem utf8Len_of_ascii (hrun : ∀ c ∈ run, c.toNat < 128) : String.utf8Len run = run.length :=
  utf8Len_eq_length fun c hc => utf8Size_eq_one_iff.2 (hrun c hc)

theorem map_ofOctet_octetsOf (hrun : ∀ c ∈ run, c.toNat < 128) :
    (octetsOf run).map ofOctet = run := by
  induction run with
  | nil => rfl
  | cons c rest ih =>
    obtain ⟨hc, hrest⟩ := List.forall_mem_cons.1 hrun
    obtain ⟨octet, hencode, hoctet⟩ := exists_octet_of_ascii hc
    rw [octetsOf_cons, hencode, List.map_append, ih hrest, List.map_singleton, hoctet]
    rfl

theorem passes_of_ascii (h : Suffix octets index (run ++ rest))
    (hrun : ∀ c ∈ run, c.toNat < 128) : Passes octets index (index + run.length) run rest where
  stop_eq := rfl
  between_eq := by
    rw [between, h, octetsOf_append, Nat.add_sub_cancel_left, ← utf8Len_of_ascii hrun,
      ← length_octetsOf, List.take_left, map_ofOctet_octetsOf hrun]
  suffix := by
    rw [← utf8Len_of_ascii hrun]
    exact h.append

theorem Suffix.passes_head (h : Suffix octets index (c :: rest)) (hc : c.toNat < 128) :
    Passes octets index (index + 1) [c] rest := by
  have hcons : Suffix octets index ([c] ++ rest) := h
  exact passes_of_ascii hcons (List.forall_mem_singleton.2 hc)

/-! ## The parts of a specification -/

/-- A test that only ASCII characters pass. -/
def AsciiOnly (p : Char → Bool) : Prop := ∀ c, p c → c.toNat < 128

theorem skipWhile_eq (p : Char → Bool) (octets : List UInt8) (index : Nat) :
    skipWhile p octets index
      = if (at? octets index).any p then skipWhile p octets (index + 1) else index := by
  rw [skipWhile, at?]
  split <;> simp_all

theorem skipWhile_of_suffix {p : Char → Bool} (hp : AsciiOnly p) (h : Suffix octets index cs) :
    skipWhile p octets index = index + (cs.takeWhile p).length := by
  induction cs generalizing index with
  | nil =>
    rw [skipWhile_eq, at?_eq_head? h]
    rfl
  | cons c rest ih =>
    rw [skipWhile_eq]
    by_cases hc : c.toNat < 128
    · rw [at?_of_ascii h hc, Option.any_some]
      by_cases hpc : p c
      · have hrest : Suffix octets (index + 1) rest := (h.passes_head hc).suffix
        rw [if_pos hpc, ih hrest, List.takeWhile_cons_of_pos hpc, List.length_cons]
        omega
      · rw [if_neg hpc, List.takeWhile_cons_of_neg hpc]
        rfl
    · obtain ⟨d, hd, hascii⟩ := exists_at?_of_not_ascii h hc
      have hpc : ¬p c := fun hpc => hc (hp c hpc)
      have hpd : ¬p d := fun hpd => hascii (hp d hpd)
      rw [hd, Option.any_some, if_neg hpd, List.takeWhile_cons_of_neg hpc]
      rfl

theorem passes_skipWhile {p : Char → Bool} (hp : AsciiOnly p) (h : Suffix octets index cs) :
    Passes octets index (skipWhile p octets index) (cs.takeWhile p) (cs.dropWhile p) := by
  rw [skipWhile_of_suffix hp h]
  refine passes_of_ascii (by rwa [List.takeWhile_append_dropWhile]) fun c hc => hp c ?_
  exact List.all_eq_true.1 List.all_takeWhile c hc

theorem asciiOnly_isDigit : AsciiOnly Char.isDigit := by
  intro c hc
  have hc' : c.toNat ≤ 57 := by
    simp [Char.isDigit] at hc
    exact hc.2
  omega

theorem asciiOnly_isFlag : AsciiOnly isFlag := by
  intro c hc
  simp only [isFlag, Bool.or_eq_true, beq_iff_eq] at hc
  rcases hc with (((rfl | rfl) | rfl) | rfl) | rfl <;> decide

theorem asciiOnly_isModifier : AsciiOnly isModifier := by
  intro c hc
  simp only [isModifier, Bool.or_eq_true, beq_iff_eq] at hc
  rcases hc with (((((rfl | rfl) | rfl) | rfl) | rfl) | rfl) | rfl <;> decide

theorem passes_skipCount (h : Suffix octets index cs) :
    Passes octets index (skipCount octets index) (splitCount cs).1 (splitCount cs).2 := by
  unfold skipCount
  by_cases hstar : cs.head? = some '*'
  · rw [if_pos ((at?_eq_some_iff h (by decide)).2 hstar)]
    obtain ⟨rest, rfl⟩ := List.head?_eq_some_iff.1 hstar
    exact h.passes_head (by decide)
  · rw [if_neg (mt (at?_eq_some_iff h (by decide)).1 hstar), splitCount_of_head? hstar]
    exact passes_skipWhile asciiOnly_isDigit h

theorem parsePrecision_of_suffix (h : Suffix octets index cs) :
    (parsePrecision octets index).1 = (splitPrecision cs).1 ∧
      (parsePrecision octets index).2
        = index + ((splitPrecision cs).1.elim [] fun p => '.' :: p).length ∧
      Suffix octets (parsePrecision octets index).2 (splitPrecision cs).2 := by
  unfold parsePrecision
  by_cases hpoint : cs.head? = some '.'
  · rw [if_pos ((at?_eq_some_iff h (by decide)).2 hpoint)]
    obtain ⟨rest, rfl⟩ := List.head?_eq_some_iff.1 hpoint
    have hrest : Suffix octets (index + 1) rest := (h.passes_head (by decide)).suffix
    obtain ⟨hstop, hbetween, hsuffix⟩ := passes_skipCount hrest
    refine ⟨congrArg some hbetween, ?_, hsuffix⟩
    rw [hstop, splitPrecision, Option.elim_some, List.length_cons]
    omega
  · rw [if_neg (mt (at?_eq_some_iff h (by decide)).1 hpoint), splitPrecision_of_head? hpoint]
    exact ⟨rfl, rfl, h⟩

/-- What a reader of characters finds behind a percent sign, with the index behind it. -/
def parsedOf (index : Nat) (cs : List Char) : Parsed :=
  if cs.head? = some '%' then .percent (index + 1)
  else
    match scanSpec cs with
    | .ok (spec, _) => .directive spec (index + spec.tail.length)
    | .error _ => .incomplete

theorem parse_of_suffix (h : Suffix octets index cs) : parse octets index = parsedOf index cs := by
  unfold parse parsedOf
  by_cases hpercent : cs.head? = some '%'
  · rw [if_pos hpercent, if_pos ((at?_eq_some_iff h (by decide)).2 hpercent)]
  · rw [if_neg hpercent, if_neg (mt (at?_eq_some_iff h (by decide)).1 hpercent)]
    obtain ⟨hflags, hflags', hwidth⟩ := passes_skipWhile asciiOnly_isFlag h
    obtain ⟨hstop, hwidth', hprecision⟩ := passes_skipCount hwidth
    obtain ⟨hprecision', hpoint, hmodifiers⟩ := parsePrecision_of_suffix hprecision
    obtain ⟨hlast, hmodifiers', hletter⟩ := passes_skipWhile asciiOnly_isModifier hmodifiers
    dsimp only
    rw [hflags', hwidth', hprecision', hmodifiers', scanSpec]
    cases hrest : (splitPrecision (splitCount (cs.dropWhile isFlag)).2).2.dropWhile isModifier with
    | nil =>
      rw [hrest] at hletter
      rw [at?_eq_head? hletter]
      rfl
    | cons c rest =>
      rw [hrest] at hletter
      by_cases hc : c.toNat < 128
      · rw [at?_of_ascii hletter hc]
        dsimp only
        rw [if_pos hc, if_pos hc]
        dsimp only
        congr 1
        rw [hlast, hpoint, hstop, hflags]
        simp only [Spec.tail, List.length_append, List.length_singleton]
        omega
      · obtain ⟨d, hd, hascii⟩ := exists_at?_of_not_ascii hletter hc
        rw [hd]
        dsimp only
        rw [if_neg hascii, if_neg hc]

end

end FirmwareTrace.Template
