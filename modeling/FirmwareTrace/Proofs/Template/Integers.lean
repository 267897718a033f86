import FirmwareTrace.Proofs.Template.Composition
import FirmwareTrace.Proofs.Template.Printf
import FirmwareTrace.Proofs.Text.Numerals
import Mathlib.Data.Nat.Digits.Lemmas

/-! # Integers are rendered as C prints them

The placeholder of an integer is scanned as it is written, `scanSpec_tail_spec`, and its width and
precision are taken from the arguments in the order of C, `resolve_spec`.  The number is then laid
out as C does it, `place_parts_layoutOf`, so a template shows what `printf` prints,
`text_placeholder`.
-/
namespace FirmwareTrace.Printf

/-! ## Numerals -/

theorem signedValue_eq (word : UInt32) : Template.signedValue word = int word := by
  have hlt := word.toNat_lt
  rw [int, Template.signedValue, Int32.toInt, UInt32.toBitVec_toInt32, BitVec.toInt]
  simp only [UInt32.toNat_toBitVec]
  split <;> split <;> omega

theorem toDigits_eq {base n : Nat} (hbase : 1 < base) (hn : n ≠ 0) :
    Nat.toDigits base n = (Nat.digits base n).reverse.map Nat.digitChar := by
  induction n using Nat.strongRecOn with
  | ind n ih =>
    rw [Nat.toDigits_eq_if hbase, Nat.digits_def' hbase (Nat.pos_of_ne_zero hn)]
    split
    · rename_i hlt
      simp [Nat.div_eq_of_lt hlt, Nat.mod_eq_of_lt hlt]
    · rename_i hle
      have hquot : n / base ≠ 0 := by
        rw [Nat.div_ne_zero_iff]
        omega
      rw [ih (n / base) (Nat.div_lt_self (Nat.pos_of_ne_zero hn) hbase) hquot]
      simp

namespace Conversion

variable (conversion : Conversion)

/-- The conversion of a template that prints the same integers. -/
def supported : Conversion → Template.Conversion
  | .d | .i => .signed
  | .u => .unsigned
  | .x => .hex
  | .X => .upperHex
  | .o => .octal

/-- The numeral that a template shows of a number. -/
def numeral : Conversion → Nat → List Char
  | .x => Numeral.hex
  | .X => Numeral.upperHex
  | .o => Numeral.octal
  | _ => Numeral.decimal

theorem ofLetter?_letter :
    Template.Conversion.ofLetter? conversion.letter = some conversion.supported := by
  cases conversion <;> rfl

theorem one_lt_base : 1 < conversion.base := by
  cases conversion <;> decide

theorem digits_zero : conversion.digits 0 = [] := by simp [digits]

theorem length_digits_pos {n : Nat} (h : n ≠ 0) : 0 < (conversion.digits n).length := by
  simpa [digits, List.length_pos_iff] using Nat.digits_ne_nil_iff_ne_zero.2 h

theorem symbol_eq {digit : Nat} (h : digit < conversion.base) :
    conversion.symbols.getD digit '0' =
      if conversion = .X then (Nat.digitChar digit).toUpper else Nat.digitChar digit := by
  cases conversion <;> simp only [base] at h <;> interval_cases digit <;> rfl

theorem digits_eq (n : Nat) :
    conversion.digits n = (Nat.digits conversion.base n).reverse.map fun digit =>
      if conversion = .X then (Nat.digitChar digit).toUpper else Nat.digitChar digit := by
  apply List.map_congr_left
  intro digit hdigit
  apply symbol_eq
  exact Nat.digits_lt_base conversion.one_lt_base (List.mem_reverse.1 hdigit)

/-- Zero is shown with one digit, and any other number as its digits are. -/
theorem numeral_eq (n : Nat) :
    conversion.numeral n = if n = 0 then ['0'] else conversion.digits n := by
  by_cases h : n = 0
  · subst h
    cases conversion <;> rfl
  · rw [if_neg h, digits_eq]
    cases conversion <;>
      simp [numeral, base, Numeral.decimal, Numeral.hex, Numeral.upperHex, Numeral.octal,
        toDigits_eq, h]

/-- The digits of a number do not begin with a zero. -/
theorem head?_digits_octal (n : Nat) : (digits .o n).head? ≠ some '0' := by
  rw [digits_eq, List.head?_map, List.head?_reverse]
  intro heq
  obtain ⟨digit, hlast, hzero⟩ := Option.map_eq_some_iff.1 heq
  have hn : n ≠ 0 := by
    rintro rfl
    simp at hlast
  rw [List.getLast?_eq_some_getLast (Nat.digits_ne_nil_iff_ne_zero.2 hn)] at hlast
  obtain rfl := Option.some.inj hlast
  exact Nat.getLast_digit_ne_zero _ hn (by simpa using hzero)

end Conversion

/-! ## The number in its field -/

section
variable (directive : Directive) (word : UInt32)

/-- The layout of a template that stands for a specification. -/
def layoutOf : Template.Layout where
  left := decide (.minus ∈ directive.flags)
  zero := decide (.zero ∈ directive.flags)
  plus := decide (.plus ∈ directive.flags)
  space := decide (.space ∈ directive.flags)
  alternate := decide (.sharp ∈ directive.flags)
  width := directive.width
  precision := directive.precision

/-- Zero has one digit in a template and none here, where a precision of one stands for that. -/
theorem withPrecision_eq (conversion : Conversion) (precision : Option Nat) {n : Nat}
    (h : word = 0 ↔ n = 0) :
    Template.withPrecision precision word (conversion.numeral n) =
      List.replicate (precision.getD 1 - (conversion.digits n).length) '0'
        ++ conversion.digits n := by
  rw [conversion.numeral_eq]
  by_cases hn : n = 0
  · subst hn
    have hword := h.2 rfl
    cases precision with
    | none => simp [Template.withPrecision, Conversion.digits_zero]
    | some p =>
      by_cases hp : p = 0
      · simp [Template.withPrecision, Conversion.digits_zero, hword, hp]
      · obtain ⟨p, rfl⟩ := Nat.exists_eq_succ_of_ne_zero hp
        simp [Template.withPrecision, Conversion.digits_zero, Numeral.padLeft,
          List.replicate_succ']
  · have hword : word ≠ 0 := fun heq => hn (h.1 heq)
    have hlength := conversion.length_digits_pos hn
    cases precision with
    | none =>
      have hpad : 1 - (conversion.digits n).length = 0 := by omega
      simp [Template.withPrecision, hn, hpad]
    | some p => simp [Template.withPrecision, hn, hword, Numeral.padLeft]

theorem eq_zero_iff_int : word = 0 ↔ int word = 0 := by
  rw [← signedValue_eq, Template.signedValue, ← UInt32.toNat_inj, UInt32.toNat_zero]
  have hlt := word.toNat_lt
  split <;> omega

theorem eq_zero_iff_toNat : word = 0 ↔ (word.toNat : Int) = 0 := by
  rw [← UInt32.toNat_inj, UInt32.toNat_zero]
  omega

theorem eq_zero_iff_value (conversion : Conversion) : word = 0 ↔ conversion.value word = 0 := by
  unfold Conversion.value
  split
  · exact eq_zero_iff_int word
  · exact eq_zero_iff_toNat word

theorem mark_layoutOf :
    (directive.conversion.supported.parts (layoutOf directive) word).mark =
      directive.sign (directive.conversion.value word)
        ++ directive.baseMark (directive.conversion.value word) := by
  have hzero := eq_zero_iff_value word directive.conversion
  obtain ⟨flags, width, precision, conversion⟩ := directive
  cases conversion <;>
    simp [Conversion.supported, Template.Conversion.parts, Template.signMark, layoutOf,
      Directive.sign, Directive.baseMark, Conversion.isSigned, Conversion.value, signedValue_eq,
      hzero]

/-- With `#`, an octal number takes a zero unless its digits begin with one. -/
theorem number_octal (flags : List Flag) (width : Nat) (precision : Option Nat) :
    let digits := Conversion.o.digits word.toNat
    let shown := List.replicate (precision.getD 1 - digits.length) '0' ++ digits
    Directive.number ⟨flags, width, precision, .o⟩ word.toNat =
      if .sharp ∈ flags ∧ shown.head? ≠ some '0' then '0' :: shown else shown := by
  intro digits shown
  have hnumber : Directive.number ⟨flags, width, precision, .o⟩ word.toNat =
      List.replicate ((if .sharp ∈ flags then max (precision.getD 1) (digits.length + 1)
        else precision.getD 1) - digits.length) '0' ++ digits := by
    simp [Directive.number, Directive.leastDigits, digits]
  rw [hnumber]
  -- digits that fill the precision begin with no zero, and padded ones do
  by_cases hsharp : .sharp ∈ flags
  · by_cases hle : precision.getD 1 ≤ digits.length
    · have hshown : shown = digits := by simp [shown, Nat.sub_eq_zero_of_le hle]
      have hraised : max (precision.getD 1) (digits.length + 1) - digits.length = 1 := by omega
      have hhead := Conversion.head?_digits_octal word.toNat
      rw [if_pos hsharp, hraised, hshown, if_pos ⟨hsharp, hhead⟩]
      rfl
    · obtain ⟨more, hmore⟩ := Nat.exists_eq_succ_of_ne_zero
        (Nat.sub_ne_zero_of_lt (Nat.lt_of_not_le hle))
      have hhead : shown.head? = some '0' := by simp [shown, hmore, List.replicate_succ]
      have hkept : max (precision.getD 1) (digits.length + 1) = precision.getD 1 := by omega
      rw [if_pos hsharp, hkept, if_neg fun h => h.2 hhead]
  · rw [if_neg hsharp, if_neg fun h => hsharp h.1]

theorem body_layoutOf :
    (directive.conversion.supported.parts (layoutOf directive) word).body =
      directive.number (directive.conversion.value word) := by
  have hzero := (eq_zero_iff_value word directive.conversion).trans Int.natAbs_eq_zero.symm
  have hbody := withPrecision_eq word directive.conversion directive.precision hzero
  obtain ⟨flags, width, precision, conversion⟩ := directive
  cases conversion with
  | o =>
    have hshown : Template.withPrecision precision word (Numeral.octal word.toNat) =
        List.replicate (precision.getD 1 - (Conversion.o.digits word.toNat).length) '0'
          ++ Conversion.o.digits word.toNat := hbody
    simp [Conversion.supported, Template.Conversion.parts, layoutOf, hshown, Conversion.value,
      Conversion.isSigned, number_octal]
  | _ =>
    simpa [Conversion.supported, Template.Conversion.parts, layoutOf, Conversion.numeral,
      Conversion.value, Conversion.isSigned, signedValue_eq, Directive.number,
      Directive.leastDigits] using hbody

theorem place_layoutOf (value : Int) :
    Template.Parts.place ⟨directive.sign value ++ directive.baseMark value, directive.number value⟩
      (layoutOf directive) true = directive.print value := by
  unfold Template.Parts.place Directive.print layoutOf
  simp only [List.length_append, decide_eq_true_eq, Bool.and_true, Bool.and_eq_true,
    Option.isNone_iff_eq_none, List.append_assoc, Nat.add_assoc]

/-- The parts in their field are what C prints. -/
theorem place_parts_layoutOf :
    (directive.conversion.supported.parts (layoutOf directive) word).place (layoutOf directive)
      directive.conversion.supported.zeroFills =
        directive.print (directive.conversion.value word) := by
  have hfills : directive.conversion.supported.zeroFills = true := by
    cases directive.conversion <;> rfl
  rw [hfills, ← place_layoutOf, ← mark_layoutOf, ← body_layoutOf]

end

/-! ## Widths and precisions -/

namespace Amount

theorem isDigit_of_mem_spelling {run : List (Fin 10)} {c : Char}
    (h : c ∈ (digits run).spelling) : c.isDigit := by
  obtain ⟨digit, -, rfl⟩ := List.mem_map.1 h
  simp [Nat.isDigit_digitChar]

theorem countRun_spelling (amount : Amount) : Template.CountRun amount.spelling := by
  cases amount with
  | star => exact .inl rfl
  | digits run => exact .inr fun _ => isDigit_of_mem_spelling

theorem readDigits?_spelling (run : List (Fin 10)) (value : Nat) :
    Numeral.readDigits? 10 value (run.map fun digit => Nat.digitChar digit.val) =
      some (run.foldl (fun n digit => 10 * n + digit.val) value) := by
  have hdigit : ∀ digit : Fin 10, Numeral.digit? 10 (Nat.digitChar digit.val) = some digit.val := by
    decide
  induction run generalizing value with
  | nil => rfl
  | cons digit rest ih =>
    simp only [List.map_cons, List.foldl_cons, Numeral.readDigits?, hdigit, ih]

/-- How a template reads the amount. -/
def count : Amount → Template.Count
  | .digits run => .fixed (numberOf run)
  | .star => .argument

theorem ofRun_spelling {amount : Amount} (h : amount.spelling ≠ []) :
    Template.Count.ofRun amount.spelling = amount.count := by
  cases amount with
  | star => rfl
  | digits run =>
    have hread : Numeral.ofDigits? 10 (digits run).spelling = some (numberOf run) := by
      rw [Numeral.ofDigits?_of_ne_nil h]
      exact readDigits?_spelling run 0
    have hstar : (digits run).spelling ≠ ['*'] := by
      intro heq
      have hmem : '*' ∈ (digits run).spelling := by simp [heq]
      exact absurd (isDigit_of_mem_spelling hmem) (by decide)
    rw [Template.Count.ofRun, hread]
    · rfl
    · exact h
    · exact hstar

theorem count_of_spelling_eq_nil {amount : Amount} (h : amount.spelling = []) :
    amount.count = .fixed 0 := by
  cases amount with
  | star => cases h
  | digits run =>
    obtain rfl := List.map_eq_nil_iff.1 h
    rfl

variable (amount : Amount) (args : Template.Arguments)

theorem asks_count : amount.count.asks = Amount.stars (some amount) := by
  cases amount <;> rfl

theorem resolveWidth_count :
    let value := amount.value (args.word 0)
    let resolved := (amount.count.resolveWidth args).1
    resolved.1 = min value.natAbs Template.maxField ∧ (resolved.2 = true ↔ value < 0) := by
  cases amount with
  | star =>
    simp [count, Template.Count.resolveWidth, Template.Arguments.next_eq, signedValue_eq, value]
  | digits run => simp [count, Template.Count.resolveWidth, value, Int.not_ofNat_neg]

theorem resolvePrecision_count :
    let value := amount.value (args.word 0)
    (amount.count.resolvePrecision args).1 =
      if value < 0 then none else some (min value.toNat Template.maxField) := by
  cases amount with
  | star =>
    by_cases h : int (args.word 0) < 0 <;>
      simp [count, Template.Count.resolvePrecision, Template.Arguments.next_eq, signedValue_eq,
        value, h]
  | digits run => simp [count, Template.Count.resolvePrecision, value, Int.not_ofNat_neg]

end Amount

/-! ## Placeholders -/

namespace Placeholder

variable (placeholder : Placeholder)

/-- The specification that a template has for the placeholder. -/
def spec : Template.Spec where
  flags := placeholder.flags.map Flag.letter
  width := placeholder.width.elim [] Amount.spelling
  precision := placeholder.precision.map Amount.spelling
  modifiers := placeholder.modifiers.map Modifier.letter
  letter := placeholder.conversion.letter

theorem spelling_eq : placeholder.spelling = '%' :: placeholder.spec.tail := by
  cases hprecision : placeholder.precision <;>
    simp [spelling, Template.Spec.tail, spec, hprecision]

theorem conversion?_spec :
    placeholder.spec.conversion? = some placeholder.conversion.supported :=
  placeholder.conversion.ofLetter?_letter

theorem scanned_spec : placeholder.spec.Scanned where
  flags := by
    intro c hc
    obtain ⟨flag, -, rfl⟩ := List.mem_map.1 hc
    cases flag <;> rfl
  width := by
    unfold spec
    cases placeholder.width with
    | none => exact .inr nofun
    | some amount => exact amount.countRun_spelling
  precision := by
    intro run hrun
    obtain ⟨amount, -, rfl⟩ := Option.map_eq_some_iff.1 hrun
    exact amount.countRun_spelling
  modifiers := by
    intro c hc
    obtain ⟨modifier, -, rfl⟩ := List.mem_map.1 hc
    cases modifier <;> rfl
  letter := by
    change placeholder.conversion.letter.toNat < 128
    cases placeholder.conversion <;> decide

/-- The first character of a width is none of the flags. -/
theorem head?_width : ∀ c ∈ placeholder.spec.width.head?, ¬Template.isFlag c := by
  have hdigit : ∀ digit : Fin 10, digit ≠ 0 → ¬Template.isFlag (Nat.digitChar digit.val) := by
    decide
  intro c hc
  unfold spec at hc
  cases hwidth : placeholder.width with
  | none => simp [hwidth] at hc
  | some amount =>
    cases amount with
    | star =>
      obtain rfl : c = '*' := by simpa [hwidth, Amount.spelling, eq_comm] using hc
      decide
    | digits run =>
      cases run with
      | nil => simp [hwidth, Amount.spelling] at hc
      | cons digit rest =>
        obtain rfl : c = Nat.digitChar digit.val := by
          simpa [hwidth, Amount.spelling, eq_comm] using hc
        exact hdigit digit fun hzero => placeholder.width_head _ hwidth (by simp [hzero])

theorem scanSpec_tail_spec (rest : List Char) :
    Template.scanSpec (placeholder.spec.tail ++ rest) = .ok (placeholder.spec, rest) :=
  Template.Spec.scanSpec_tail placeholder.scanned_spec (by simp [conversion?_spec])
    placeholder.head?_width rest

/-! ## The layout of a placeholder -/

/-- A width without digits is none. -/
theorem widthCount_spec (args : Template.Arguments) :
    let count := placeholder.width.elim .absent Amount.count
    placeholder.spec.widthCount.asks = count.asks ∧
      placeholder.spec.widthCount.resolveWidth args = count.resolveWidth args := by
  cases hwidth : placeholder.width with
  | none => simp [Template.Spec.widthCount, spec, hwidth, Template.Count.ofRun]
  | some amount =>
    by_cases hempty : amount.spelling = []
    · simp [Template.Spec.widthCount, spec, hwidth, hempty, Template.Count.ofRun,
        Amount.count_of_spelling_eq_nil hempty, Template.Count.asks, Template.Count.resolveWidth]
    · simp [Template.Spec.widthCount, spec, hwidth, Amount.ofRun_spelling hempty]

theorem precisionCount_spec :
    placeholder.spec.precisionCount = placeholder.precision.elim .absent Amount.count := by
  unfold Template.Spec.precisionCount spec
  cases placeholder.precision with
  | none => rfl
  | some amount =>
    by_cases hempty : amount.spelling = []
    · simp [hempty, Amount.count_of_spelling_eq_nil hempty]
    · simp [Amount.ofRun_spelling hempty]

theorem asks_elim_count (amount? : Option Amount) :
    (amount?.elim .absent Amount.count).asks = Amount.stars amount? := by
  cases amount? with
  | none => rfl
  | some amount => exact amount.asks_count

theorem stars_spec : placeholder.spec.stars = placeholder.stars := by
  rw [Template.Spec.stars, (widthCount_spec placeholder ⟨[], 0, 0⟩).1, precisionCount_spec,
    asks_elim_count, asks_elim_count, stars]

theorem contains_flags_spec (flag : Flag) :
    placeholder.spec.flags.contains flag.letter = decide (flag ∈ placeholder.flags) := by
  have hinjective : ∀ other : Flag, other.letter = flag.letter → other = flag := by
    cases flag <;> rintro ⟨⟩ <;> decide
  rw [List.contains_eq_mem, decide_eq_decide, spec, List.mem_map]
  constructor
  · rintro ⟨other, hmem, hletter⟩
    rwa [hinjective other hletter] at hmem
  · exact fun hmem => ⟨flag, hmem, rfl⟩

theorem resolveWidth_spec (args : Template.Arguments) :
    let value : Int := placeholder.width.elim 0 fun amount => amount.value (args.word 0)
    let resolved := (placeholder.spec.widthCount.resolveWidth args).1
    resolved.1 = min value.natAbs Template.maxField ∧ (resolved.2 = true ↔ value < 0) := by
  rw [(widthCount_spec placeholder args).2]
  cases placeholder.width with
  | none => simp [Template.Count.resolveWidth]
  | some amount => exact amount.resolveWidth_count args

theorem resolvePrecision_spec (args : Template.Arguments) :
    (placeholder.spec.precisionCount.resolvePrecision args).1 =
      (placeholder.precision.map fun amount => amount.value (args.word 0)).bind
        fun n => if n < 0 then none else some (min n.toNat Template.maxField) := by
  rw [precisionCount_spec]
  cases placeholder.precision with
  | none => rfl
  | some amount => exact amount.resolvePrecision_count args

theorem resolve_spec (args : Template.Arguments) :
    (placeholder.spec.resolve args).1 =
      layoutOf (placeholder.directive Template.maxField args.word) := by
  obtain ⟨hwidth, hleft⟩ := placeholder.resolveWidth_spec args
  have hasks := (widthCount_spec placeholder args).1.trans (asks_elim_count placeholder.width)
  have hprecision :=
    placeholder.resolvePrecision_spec (args.after (Amount.stars placeholder.width))
  simp only [Template.Arguments.word_after, Nat.add_zero] at hprecision
  have hlayout : (placeholder.spec.resolve args).1 =
      let width := placeholder.spec.widthCount.resolveWidth args
      let flag (flag : Flag) := placeholder.spec.flags.contains flag.letter
      ⟨flag .minus || width.1.2, flag .zero, flag .plus, flag .space, flag .sharp, width.1.1,
        (placeholder.spec.precisionCount.resolvePrecision width.2).1⟩ := rfl
  simp only [hlayout, contains_flags_spec, hwidth, Template.Count.resolveWidth_snd, hasks,
    hprecision, layoutOf, directive, Template.Layout.mk.injEq]
  by_cases hneg : (placeholder.width.elim 0 fun amount => amount.value (args.word 0)) < 0
  · simp [hneg, hleft.2 hneg]
  · have hright := Bool.eq_false_iff.2 fun heq => hneg (hleft.1 heq)
    simp [hneg, hright]

/-! ## The text of a placeholder -/

theorem write_spec (args : Template.Arguments) :
    placeholder.spec.write args =
      (placeholder.print Template.maxField args.word, args.after (placeholder.stars + 1)) := by
  have hplace := place_parts_layoutOf (placeholder.directive Template.maxField args.word)
    (args.word placeholder.stars)
  rw [Template.Spec.write_of_some placeholder.conversion?_spec, resolve_spec, stars_spec]
  exact congrArg (Prod.mk · _) hplace

/-- A template that starts with the placeholder has it for its first piece. -/
theorem pieces_spelling (rest : List Char) :
    Template.pieces (placeholder.spelling ++ rest) =
      .directive placeholder.spec :: Template.pieces rest := by
  have hscan := placeholder.scanSpec_tail_spec rest
  rw [spelling_eq, List.cons_append]
  exact Template.pieces_directive
    (Template.head?_ne_of_scanSpec hscan (by simp [conversion?_spec])) hscan

end Placeholder

/-- A template that starts with the placeholder of an integer shows what C prints for it, and goes
on with the words behind those that the placeholder asks for. -/
theorem text_placeholder (placeholder : Placeholder) (rest : String) (words : List UInt32) :
    (Template.format (String.ofList placeholder.spelling ++ rest) words).text =
      String.ofList (placeholder.print Template.maxField fun index => words.getD index 0) ++
        (Template.format rest (words.drop (placeholder.stars + 1))).text := by
  simp only [Template.format, String.toList_append, String.toList_ofList,
    placeholder.pieces_spelling, Template.writeAll, Template.Piece.write, placeholder.write_spec,
    Template.writeAll_pieces_after, String.ofList_append]
  rfl

/-- With `#`, the zero of an octal number counts for its precision; a negative width adjusts to the
left, against the flag for zeros. -/
example : (Template.format "%#5.o|%#05o|%0*d|" [0, 8, 0xfffffff4, 0x80000000]).text =
    "    0|00010|-2147483648 |" := by
  decide +kernel

end FirmwareTrace.Printf
