import FirmwareTrace.Text.Numeral
import Mathlib.Data.List.Induction
import Mathlib.Tactic.IntervalCases
import Mathlib.Tactic.SplitIfs

/-! # Numerals as they are written

A decimal numeral is a run of digits, and reading it gives the number that it was written
from, `word?_decimal`.  `Spells` says which runs of digits stand for a number, and a word is read
from these, with a plus sign in front or not, and from nothing else, `word?_eq_some_iff`.
-/
namespace FirmwareTrace.Numeral

theorem digit?_of_isDigit {c : Char} (h : c.isDigit) :
    digit? 10 c = some (c.toNat - '0'.toNat) := by
  rw [Char.isDigit_iff_toNat] at h
  have hlow : '0' ≤ c := h.1
  have hhigh : c ≤ '9' := h.2
  have hlt : c.toNat - '0'.toNat < 10 := by
    have h9 : c.toNat ≤ 57 := h.2
    change c.toNat - 48 < 10
    omega
  simp only [digit?, hlow, hhigh, and_self, if_true, if_pos hlt]

theorem readDigits?_eq_some {cs : List Char} (h : ∀ c ∈ cs, c.isDigit) (value : Nat) :
    readDigits? 10 value cs = some (Nat.ofDigitChars 10 cs value) := by
  induction cs generalizing value with
  | nil => rfl
  | cons c rest ih =>
    rw [readDigits?, digit?_of_isDigit (h c (by simp))]
    dsimp only
    rw [ih (fun d hd => h d (by simp [hd])), Nat.ofDigitChars_cons]

theorem isDigit_of_mem_decimal {n : Nat} {c : Char} (h : c ∈ decimal n) : c.isDigit :=
  Nat.isDigit_of_mem_toDigits (by decide) (by decide) h

theorem decimal_ne_nil (n : Nat) : decimal n ≠ [] := Nat.toDigits_ne_nil

theorem ofDigits?_of_ne_nil {base : Nat} {cs : List Char} (h : cs ≠ []) :
    ofDigits? base cs = readDigits? base 0 cs := by
  cases cs with
  | nil => exact absurd rfl h
  | cons c rest => rfl

theorem ofDigits?_decimal (n : Nat) : ofDigits? 10 (decimal n) = some n := by
  rw [ofDigits?_of_ne_nil (decimal_ne_nil n), readDigits?_eq_some fun _ => isDigit_of_mem_decimal,
    decimal, Nat.ofDigitChars_toDigits (by decide) (by decide)]

theorem bounded?_decimal {n bound : Nat} (h : n < bound) :
    bounded? 10 bound (decimal n) = some n := by
  unfold bounded?
  split
  · rename_i rest hplus
    exact absurd (isDigit_of_mem_decimal (n := n) (hplus ▸ List.mem_cons_self)) (by decide)
  · simp only [ofDigits?_decimal, Option.filter_some, h, decide_true, if_true]

theorem word?_decimal (n : UInt32) : word? 10 (decimal n.toNat) = some n := by
  rw [word?, bounded?_decimal n.toNat_lt, Option.map_some, UInt32.ofNat_toNat]

/-! ## Runs of digits -/

/-- The character is the small or the capital digit of the value. -/
def Digit (base : Nat) (c : Char) (value : Nat) : Prop :=
  value < base ∧ (c = Nat.digitChar value ∨ c = (Nat.digitChar value).toUpper)

/-- The digits of a number, the highest first; zeros may stand in front. -/
inductive Spells (base : Nat) : List Char → Nat → Prop
  | digit {c : Char} {value : Nat} (hc : Digit base c value) : Spells base [c] value
  | concat {cs : List Char} {c : Char} {n value : Nat} (hcs : Spells base cs n)
      (hc : Digit base c value) : Spells base (cs ++ [c]) (base * n + value)

/-- The digits of a word, perhaps after a plus sign. -/
inductive SpellsWord (base : Nat) : List Char → UInt32 → Prop
  | bare {cs : List Char} {n : UInt32} (hcs : Spells base cs n.toNat) : SpellsWord base cs n
  | plus {cs : List Char} {n : UInt32} (hcs : Spells base cs n.toNat) :
      SpellsWord base ('+' :: cs) n

section

variable {base : Nat}

theorem digit_of_digit? {c : Char} {value : Nat} (h : digit? base c = some value) :
    Digit base c value := by
  have decimal (n : Nat) (hlow : 48 ≤ n) (hhigh : n ≤ 57) :
      Char.ofNat n = Nat.digitChar (n - 48) := by interval_cases n <;> rfl
  have small (n : Nat) (hlow : 97 ≤ n) (hhigh : n ≤ 102) :
      Char.ofNat n = Nat.digitChar (n - 97 + 10) := by interval_cases n <;> rfl
  have capital (n : Nat) (hlow : 65 ≤ n) (hhigh : n ≤ 70) :
      Char.ofNat n = (Nat.digitChar (n - 65 + 10)).toUpper := by interval_cases n <;> rfl
  have hc : Char.ofNat c.toNat = c := Char.ofNat_toNat c
  simp only [digit?] at h
  split_ifs at h with hdecimal hlt hsmall hlt hcapital hlt hlt
  · obtain rfl := Option.some.inj h
    exact ⟨hlt, .inl (hc.symm.trans (decimal _ hdecimal.1 hdecimal.2))⟩
  · obtain rfl := Option.some.inj h
    exact ⟨hlt, .inl (hc.symm.trans (small _ hsmall.1 hsmall.2))⟩
  · obtain rfl := Option.some.inj h
    exact ⟨hlt, .inr (hc.symm.trans (capital _ hcapital.1 hcapital.2))⟩
  · exact absurd hlt (Nat.lt_irrefl base)

theorem digit?_of_digit {c : Char} {value : Nat} (hbase : base ≤ 16)
    (h : Digit base c value) : digit? base c = some value := by
  obtain ⟨hlt, hc⟩ := h
  have hvalue : value < 16 := Nat.lt_of_lt_of_le hlt hbase
  rcases hc with rfl | rfl
  · interval_cases value <;> exact if_pos hlt
  · interval_cases value <;> exact if_pos hlt

theorem readDigits?_concat (value : Nat) (cs : List Char) (c : Char) :
    readDigits? base value (cs ++ [c]) =
      (readDigits? base value cs).bind fun n => (digit? base c).map (base * n + ·) := by
  induction cs generalizing value with
  | nil =>
    simp only [List.nil_append, readDigits?]
    cases digit? base c <;> rfl
  | cons d rest ih =>
    rw [List.cons_append, readDigits?, readDigits?]
    cases digit? base d with
    | none => rfl
    | some v => exact ih _

theorem ofDigits?_singleton (c : Char) : ofDigits? base [c] = digit? base c := by
  rw [ofDigits?_of_ne_nil (List.cons_ne_nil _ _), readDigits?]
  cases digit? base c with
  | none => rfl
  | some value => simp [readDigits?]

theorem ofDigits?_concat {cs : List Char} (h : cs ≠ []) (c : Char) :
    ofDigits? base (cs ++ [c]) =
      (ofDigits? base cs).bind fun n => (digit? base c).map (base * n + ·) := by
  rw [ofDigits?_of_ne_nil (List.append_ne_nil_of_left_ne_nil h _), ofDigits?_of_ne_nil h,
    readDigits?_concat]

theorem Spells.ne_nil {cs : List Char} {n : Nat} (h : Spells base cs n) : cs ≠ [] := by
  cases h <;> simp

theorem ofDigits?_of_spells (hbase : base ≤ 16) {cs : List Char} {n : Nat}
    (h : Spells base cs n) : ofDigits? base cs = some n := by
  induction h with
  | digit hc => rw [ofDigits?_singleton, digit?_of_digit hbase hc]
  | concat hcs hc ih =>
    rw [ofDigits?_concat hcs.ne_nil, ih, digit?_of_digit hbase hc]
    rfl

theorem spells_of_ofDigits? {cs : List Char} {n : Nat} (h : ofDigits? base cs = some n) :
    Spells base cs n := by
  induction cs using List.reverseRecOn generalizing n with
  | nil => cases h
  | append_singleton cs c ih =>
    by_cases hcs : cs = []
    · subst hcs
      rw [List.nil_append, ofDigits?_singleton] at h
      exact .digit (digit_of_digit? h)
    · rw [ofDigits?_concat hcs] at h
      obtain ⟨m, hm, hvalue⟩ := Option.bind_eq_some_iff.1 h
      obtain ⟨value, hc, rfl⟩ := Option.map_eq_some_iff.1 hvalue
      exact .concat (ih hm) (digit_of_digit? hc)

theorem Digit.ne_plus (hbase : base ≤ 16) {c : Char} {value : Nat} (h : Digit base c value) :
    c ≠ '+' := by
  rintro rfl
  have hplus := digit?_of_digit hbase h
  simp [digit?] at hplus

theorem Spells.exists_digit {cs : List Char} {n : Nat} (h : Spells base cs n) :
    ∀ c ∈ cs, ∃ value, Digit base c value := by
  induction h with
  | digit hc => simpa using ⟨_, hc⟩
  | concat _ hc ih =>
    rw [List.forall_mem_append, List.forall_mem_singleton]
    exact ⟨ih, _, hc⟩

theorem Spells.not_mem_plus (hbase : base ≤ 16) {cs : List Char} {n : Nat}
    (h : Spells base cs n) : '+' ∉ cs := by
  intro hplus
  obtain ⟨value, hdigit⟩ := h.exists_digit '+' hplus
  exact hdigit.ne_plus hbase rfl

/-- Reading a word accepts its spellings and nothing else. -/
theorem word?_eq_some_iff (hbase : base ≤ 16) {cs : List Char} {n : UInt32} :
    word? base cs = some n ↔ SpellsWord base cs n := by
  have hdigits (digits : List Char) :
      ((ofDigits? base digits).filter (· < 0x100000000)).map UInt32.ofNat = some n ↔
        Spells base digits n.toNat := by
    simp only [Option.map_eq_some_iff, Option.filter_eq_some_iff, decide_eq_true_eq]
    constructor
    · rintro ⟨m, ⟨hm, hlt⟩, rfl⟩
      rw [UInt32.toNat_ofNat_of_lt' hlt]
      exact spells_of_ofDigits? hm
    · intro h
      exact ⟨n.toNat, ⟨ofDigits?_of_spells hbase h, n.toNat_lt⟩, UInt32.ofNat_toNat⟩
  unfold word? bounded?
  constructor
  · intro h
    split at h
    · exact .plus ((hdigits _).1 h)
    · exact .bare ((hdigits _).1 h)
  · intro h
    cases h with
    | bare hcs =>
      split
      · exact absurd List.mem_cons_self (hcs.not_mem_plus hbase)
      · exact (hdigits _).2 hcs
    | plus hcs => exact (hdigits _).2 hcs

theorem spells_toDigits (hbase : 1 < base) (n : Nat) : Spells base (Nat.toDigits base n) n := by
  induction n using Nat.strongRecOn with
  | ind n ih =>
    rw [Nat.toDigits_eq_if hbase]
    split
    · rename_i hlt
      exact .digit ⟨hlt, .inl rfl⟩
    · rename_i hle
      have hquot : n / base < n := Nat.div_lt_self (by omega) hbase
      have hn : base * (n / base) + n % base = n := Nat.div_add_mod n base
      have hstep := Spells.concat (ih _ hquot) ⟨Nat.mod_lt n (by omega), .inl rfl⟩
      rwa [hn] at hstep

theorem Digit.toUpper (hbase : base ≤ 16) {c : Char} {value : Nat} (h : Digit base c value) :
    Digit base c.toUpper value := by
  obtain ⟨hlt, hc⟩ := h
  have hvalue : value < 16 := Nat.lt_of_lt_of_le hlt hbase
  refine ⟨hlt, .inr ?_⟩
  rcases hc with rfl | rfl
  · rfl
  · interval_cases value <;> rfl

theorem Spells.map_toUpper (hbase : base ≤ 16) {cs : List Char} {n : Nat}
    (h : Spells base cs n) : Spells base (cs.map Char.toUpper) n := by
  induction h with
  | digit hc => exact .digit (hc.toUpper hbase)
  | concat _ hc ih =>
    rw [List.map_append]
    exact .concat ih (hc.toUpper hbase)

end
end FirmwareTrace.Numeral
