import FirmwareTrace.Template.Render

/-! # Scanned specifications

What a scanned specification consists of, `Spec.Scanned`.  A scan that found a letter goes the
same way whatever follows it, `scanSpec_append`, and a supported specification is scanned as it is
written, `Spec.scanSpec_tail`.
-/
namespace FirmwareTrace.Template

/-! ## What a scanned specification consists of -/

/-- A width or a precision: a `*`, or digits. -/
def CountRun (run : List Char) : Prop := run = ['*'] ∨ ∀ c ∈ run, c.isDigit

theorem countRun_splitCount (cs : List Char) : CountRun (splitCount cs).1 := by
  fun_cases splitCount cs with
  | case1 rest => exact .inl rfl
  | case2 cs hstar => exact .inr (List.all_eq_true.1 List.all_takeWhile)

theorem countRun_splitPrecision {cs run : List Char} (h : (splitPrecision cs).1 = some run) :
    CountRun run := by
  fun_cases splitPrecision cs with
  | case1 rest =>
    obtain rfl := Option.some.inj h
    exact countRun_splitCount rest
  | case2 cs hpoint => simp [splitPrecision] at h

namespace Spec

/-- Each part of the specification has the characters that may stand there. -/
structure Scanned (spec : Spec) : Prop where
  flags : ∀ c ∈ spec.flags, isFlag c
  width : CountRun spec.width
  precision : ∀ run, spec.precision = some run → CountRun run
  modifiers : ∀ c ∈ spec.modifiers, isModifier c
  letter : spec.letter.toNat < 128

theorem scanned_of_scanSpec {cs rest : List Char} {spec : Spec}
    (h : scanSpec cs = .ok (spec, rest)) : spec.Scanned := by
  unfold scanSpec at h
  dsimp only at h
  split at h
  · cases h
  · rename_i c found hfound
    split at h
    · rename_i hascii
      obtain ⟨rfl, rfl⟩ := Prod.mk.inj (Except.ok.inj h)
      exact ⟨List.all_eq_true.1 List.all_takeWhile, countRun_splitCount _,
        fun run => countRun_splitPrecision, List.all_eq_true.1 List.all_takeWhile, hascii⟩
    · cases h

end Spec

def Piece.Scanned : Piece → Prop
  | .directive spec => spec.Scanned
  | _ => True

theorem scanned_pieces (cs : List Char) : ∀ piece ∈ pieces cs, piece.Scanned := by
  fun_induction pieces cs with
  | case1 => exact List.forall_mem_nil _
  | case2 rest ih => exact List.forall_mem_cons.2 ⟨trivial, ih⟩
  | case3 rest _ spec rest' hscan _ ih =>
    exact List.forall_mem_cons.2 ⟨Spec.scanned_of_scanSpec hscan, ih⟩
  | case4 rest _ why hscan ih => exact List.forall_mem_cons.2 ⟨trivial, ih⟩
  | case5 c rest _ _ ih => exact List.forall_mem_cons.2 ⟨trivial, ih⟩

/-! ## Scanning does not look behind the letter -/

section
variable {p : Char → Bool} {cs : List Char}

theorem takeWhile_append_of_ne_nil (h : cs.dropWhile p ≠ []) (back : List Char) :
    (cs ++ back).takeWhile p = cs.takeWhile p := by
  rw [List.takeWhile_append, if_neg]
  intro hlength
  have htotal := congrArg List.length (List.takeWhile_append_dropWhile (p := p) (l := cs))
  rw [List.length_append, hlength, Nat.add_eq_left] at htotal
  exact h (List.eq_nil_of_length_eq_zero htotal)

theorem dropWhile_append_of_ne_nil (h : cs.dropWhile p ≠ []) (back : List Char) :
    (cs ++ back).dropWhile p = cs.dropWhile p ++ back := by
  rw [List.dropWhile_append, if_neg]
  simpa using h

theorem ne_nil_of_dropWhile (h : cs.dropWhile p ≠ []) : cs ≠ [] := by
  rintro rfl
  exact h rfl

theorem splitCount_of_head? (h : cs.head? ≠ some '*') :
    splitCount cs = (cs.takeWhile Char.isDigit, cs.dropWhile Char.isDigit) := by
  fun_cases splitCount cs with
  | case1 rest => exact absurd rfl h
  | case2 => rfl

theorem splitPrecision_of_head? (h : cs.head? ≠ some '.') : splitPrecision cs = (none, cs) := by
  fun_cases splitPrecision cs with
  | case1 rest => exact absurd rfl h
  | case2 => rfl

theorem ne_nil_of_splitCount (h : (splitCount cs).2 ≠ []) : cs ≠ [] := by
  rintro rfl
  exact h rfl

theorem ne_nil_of_splitPrecision (h : (splitPrecision cs).2 ≠ []) : cs ≠ [] := by
  rintro rfl
  exact h rfl

theorem head?_append_ne {c : Char} (hne : cs ≠ []) (h : cs.head? ≠ some c) (back : List Char) :
    (cs ++ back).head? ≠ some c := by
  cases cs with
  | nil => exact absurd rfl hne
  | cons first rest => exact h

theorem splitCount_append_back (h : (splitCount cs).2 ≠ []) (back : List Char) :
    splitCount (cs ++ back) = ((splitCount cs).1, (splitCount cs).2 ++ back) := by
  by_cases hstar : cs.head? = some '*'
  · obtain ⟨rest, rfl⟩ := List.head?_eq_some_iff.1 hstar
    rfl
  · have hne := ne_nil_of_splitCount h
    rw [splitCount_of_head? hstar] at h ⊢
    rw [splitCount_of_head? (head?_append_ne hne hstar back), takeWhile_append_of_ne_nil h,
      dropWhile_append_of_ne_nil h]

theorem splitPrecision_append_back (h : (splitPrecision cs).2 ≠ []) (back : List Char) :
    splitPrecision (cs ++ back) = ((splitPrecision cs).1, (splitPrecision cs).2 ++ back) := by
  by_cases hpoint : cs.head? = some '.'
  · obtain ⟨rest, rfl⟩ := List.head?_eq_some_iff.1 hpoint
    simp only [List.cons_append, splitPrecision, splitCount_append_back h]
  · have hne := ne_nil_of_splitPrecision h
    rw [splitPrecision_of_head? hpoint,
      splitPrecision_of_head? (head?_append_ne hne hpoint back)]

/-- A scan that did not come to the end of the characters goes the same way before others. -/
theorem scanSpec_append (h : scanSpec cs ≠ .error .atEnd) (back : List Char) :
    scanSpec (cs ++ back) = (scanSpec cs).map fun found => (found.1, found.2 ++ back) := by
  have hmodifiers : (splitPrecision (splitCount (cs.dropWhile isFlag)).2).2.dropWhile isModifier
      ≠ [] := by
    intro hnil
    simp [scanSpec, hnil] at h
  have hprecision := ne_nil_of_dropWhile hmodifiers
  have hwidth := ne_nil_of_splitPrecision hprecision
  have hflags := ne_nil_of_splitCount hwidth
  simp only [scanSpec, takeWhile_append_of_ne_nil hflags, dropWhile_append_of_ne_nil hflags,
    splitCount_append_back hwidth, splitPrecision_append_back hprecision,
    takeWhile_append_of_ne_nil hmodifiers, dropWhile_append_of_ne_nil hmodifiers]
  cases hletter : (splitPrecision (splitCount (cs.dropWhile isFlag)).2).2.dropWhile isModifier with
  | nil => exact absurd hletter hmodifiers
  | cons c rest =>
    dsimp only [List.cons_append]
    split <;> rfl

end

/-! ## A supported specification is scanned as it is written -/

/-- The character ends the flags, the width and the precision that stand in front of it. -/
def EndsCounts (c : Char) : Prop := ¬isFlag c ∧ ¬c.isDigit ∧ c ≠ '*' ∧ c ≠ '.'

instance (c : Char) : Decidable (EndsCounts c) :=
  inferInstanceAs (Decidable (¬isFlag c ∧ ¬c.isDigit ∧ c ≠ '*' ∧ c ≠ '.'))

theorem endsCounts_of_isModifier {c : Char} (h : isModifier c) : EndsCounts c := by
  simp only [isModifier, Bool.or_eq_true, beq_iff_eq] at h
  rcases h with (((((rfl | rfl) | rfl) | rfl) | rfl) | rfl) | rfl <;> decide

/-- The letter of a supported conversion is no other part of a specification. -/
theorem letter_of_ofLetter? {c : Char} (h : (Conversion.ofLetter? c).isSome) :
    EndsCounts c ∧ ¬isModifier c ∧ c.toNat < 128 := by
  unfold Conversion.ofLetter? at h
  split at h
  case h_10 => cases h
  all_goals decide

section
variable {p : Char → Bool} {front back : List Char}

theorem takeWhile_append_of_head? (hfront : ∀ c ∈ front, p c) (hback : ∀ c ∈ back.head?, ¬p c) :
    (front ++ back).takeWhile p = front := by
  rw [List.takeWhile_append_of_pos hfront]
  cases back with
  | nil => simp
  | cons c rest => simp [hback c rfl]

theorem dropWhile_append_of_head? (hfront : ∀ c ∈ front, p c) (hback : ∀ c ∈ back.head?, ¬p c) :
    (front ++ back).dropWhile p = back := by
  rw [List.dropWhile_append_of_pos hfront]
  cases back with
  | nil => rfl
  | cons c rest => simp [hback c rfl]

theorem splitCount_append_of_head? (hfront : CountRun front)
    (hback : ∀ c ∈ back.head?, ¬c.isDigit ∧ c ≠ '*') :
    splitCount (front ++ back) = (front, back) := by
  rcases hfront with rfl | hdigits
  · rfl
  · have hstar : (front ++ back).head? ≠ some '*' := by
      cases front with
      | nil => exact fun heq => (hback _ heq).2 rfl
      | cons c rest =>
        intro heq
        obtain rfl := Option.some.inj heq
        exact absurd (hdigits _ List.mem_cons_self) (by decide)
    have hnext : ∀ c ∈ back.head?, ¬c.isDigit := fun c hc => (hback c hc).1
    rw [splitCount_of_head? hstar, takeWhile_append_of_head? hdigits hnext,
      dropWhile_append_of_head? hdigits hnext]

theorem splitPrecision_append_of_head? {precision : Option (List Char)}
    (hprecision : ∀ run, precision = some run → CountRun run)
    (hback : ∀ c ∈ back.head?, EndsCounts c) :
    splitPrecision ((precision.elim [] fun run => '.' :: run) ++ back) = (precision, back) := by
  cases precision with
  | none =>
    apply splitPrecision_of_head?
    exact fun heq => (hback _ heq).2.2.2 rfl
  | some run =>
    have hcount := splitCount_append_of_head? (hprecision run rfl)
      fun c hc => ⟨(hback c hc).2.1, (hback c hc).2.2.1⟩
    simp [splitPrecision, hcount]

end

theorem Spec.scanSpec_tail {spec : Spec} (h : spec.Scanned) (hsupported : spec.conversion?.isSome)
    (hwidth : ∀ c ∈ spec.width.head?, ¬isFlag c) (back : List Char) :
    scanSpec (spec.tail ++ back) = .ok (spec, back) := by
  obtain ⟨flags, width, precision, modifiers, letter⟩ := spec
  obtain ⟨hends, hmodifier, hascii⟩ := letter_of_ofLetter? hsupported
  have hletter : ∀ c ∈ (letter :: back).head?, ¬isModifier c := by simpa using hmodifier
  have hmodifiers : ∀ c ∈ (modifiers ++ letter :: back).head?, EndsCounts c := by
    cases modifiers with
    | nil => simpa using hends
    | cons c rest => simpa using endsCounts_of_isModifier (h.modifiers c (by simp))
  have hprecision : ∀ c ∈ ((precision.elim [] fun run => '.' :: run) ++
      (modifiers ++ letter :: back)).head?, ¬isFlag c ∧ ¬c.isDigit ∧ c ≠ '*' := by
    cases precision with
    | none =>
      exact fun c hc => ⟨(hmodifiers c hc).1, (hmodifiers c hc).2.1, (hmodifiers c hc).2.2.1⟩
    | some run =>
      rintro c hc
      obtain rfl := Option.some.inj hc
      decide
  have hflags : ∀ c ∈ (width ++ ((precision.elim [] fun run => '.' :: run) ++
      (modifiers ++ letter :: back))).head?, ¬isFlag c := by
    cases width with
    | nil => exact fun c hc => (hprecision c hc).1
    | cons c rest => exact hwidth
  have hsplit : tail ⟨flags, width, precision, modifiers, letter⟩ ++ back =
      flags ++ (width ++ ((precision.elim [] fun run => '.' :: run) ++
        (modifiers ++ letter :: back))) := by
    simp [tail]
  rw [hsplit, scanSpec, takeWhile_append_of_head? h.flags hflags,
    dropWhile_append_of_head? h.flags hflags,
    splitCount_append_of_head? h.width fun c hc => (hprecision c hc).2,
    splitPrecision_append_of_head? h.precision hmodifiers]
  simp only [takeWhile_append_of_head? h.modifiers hletter,
    dropWhile_append_of_head? h.modifiers hletter]
  exact if_pos hascii

/-- A percent sign behind a percent sign is the letter of a specification, and no supported one. -/
theorem head?_ne_of_scanSpec {cs rest : List Char} {spec : Spec}
    (h : scanSpec cs = .ok (spec, rest)) (hsupported : spec.conversion?.isSome) :
    cs.head? ≠ some '%' := by
  intro hhead
  obtain ⟨more, rfl⟩ := List.head?_eq_some_iff.1 hhead
  obtain ⟨rfl, -⟩ := Prod.mk.inj (Except.ok.inj h)
  cases hsupported

/-! ## Pieces, one at a time -/

theorem pieces_percent (rest : List Char) :
    pieces ('%' :: '%' :: rest) = .percent :: pieces rest := by
  rw [pieces]

section
variable {rest rest' : List Char} {spec : Spec} {why : Stray}

theorem pieces_directive (hdouble : rest.head? ≠ some '%')
    (h : scanSpec rest = .ok (spec, rest')) :
    pieces ('%' :: rest) = .directive spec :: pieces rest' := by
  rw [pieces]
  · split
    · rename_i found last heq
      obtain ⟨rfl, rfl⟩ := Prod.mk.inj (Except.ok.inj (h.symm.trans heq))
      rfl
    · rename_i heq
      cases h.symm.trans heq
  · rintro more rfl
    exact hdouble rfl

theorem pieces_stray (hdouble : rest.head? ≠ some '%') (h : scanSpec rest = .error why) :
    pieces ('%' :: rest) = .stray why :: pieces rest := by
  rw [pieces]
  · split
    · rename_i heq
      cases h.symm.trans heq
    · rename_i heq
      obtain rfl := Except.error.inj (h.symm.trans heq)
      rfl
  · rintro more rfl
    exact hdouble rfl

theorem pieces_text {c : Char} (h : c ≠ '%') (rest : List Char) :
    pieces (c :: rest) =
      .text (c :: rest.takeWhile (· != '%')) :: pieces (rest.dropWhile (· != '%')) := by
  rw [pieces]
  · exact fun _ heq => absurd heq h
  · exact h

end

/-- What is not a doubled percent sign is none before other characters, if a letter was found. -/
theorem not_double_append {rest : List Char} (hdouble : ∀ more, rest = '%' :: more → False)
    (h : scanSpec rest ≠ .error .atEnd) {back : List Char} :
    (rest ++ back).head? ≠ some '%' := by
  cases rest with
  | nil => exact absurd rfl h
  | cons first more =>
    rintro heq
    obtain rfl := Option.some.inj heq
    exact hdouble more rfl

end FirmwareTrace.Template
