import FirmwareTrace.Proofs.Text.Numerals
import FirmwareTrace.Proofs.Text.Trimming
import FirmwareTrace.SymbolCache.Record

/-! # Quote layers

A plain text may be wrapped in any number of quote layers with blanks around each of them.
Unquoting takes off just these, `Wrapped.unquote_eq`.
-/
namespace FirmwareTrace.SymbolCache

/-- A text that a field can hold: on one line, with no blanks to trim and no quotes to take
off. -/
structure Plain (chars : List Char) : Prop where
  oneLine : '\n' ∉ chars
  trimmed : Text.trim chars = chars
  unquoted : 1 < chars.length → ¬(chars.head? = some quote ∧ chars.getLast? = some quote)

instance : DecidablePred Plain := fun chars =>
  decidable_of_iff
    ('\n' ∉ chars ∧ Text.trim chars = chars ∧
      (1 < chars.length → ¬(chars.head? = some quote ∧ chars.getLast? = some quote)))
    ⟨fun ⟨honeLine, htrimmed, hunquoted⟩ => ⟨honeLine, htrimmed, hunquoted⟩,
      fun h => ⟨h.oneLine, h.trimmed, h.unquoted⟩⟩

/-- Blanks that stay on the line. -/
structure Margin (cs : List Char) : Prop where
  blank : Text.Blanks cs
  oneLine : '\n' ∉ cs

instance : DecidablePred Margin := fun cs =>
  decidable_of_iff (cs.all Text.isBlank = true ∧ '\n' ∉ cs)
    ⟨fun ⟨hblank, honeLine⟩ => ⟨List.all_eq_true.1 hblank, honeLine⟩,
      fun h => ⟨List.all_eq_true.2 h.blank, h.oneLine⟩⟩

/-- The fields that a text is written as. -/
inductive Wrapped (chars : List Char) : List Char → Prop
  | bare : Wrapped chars chars
  | padded {left text right : List Char} (hleft : Margin left) (hright : Margin right)
      (htext : Wrapped chars text) : Wrapped chars (left ++ text ++ right)
  | quoted {text : List Char} (htext : Wrapped chars text) :
      Wrapped chars (quote :: (text ++ [quote]))

theorem isBlank_quote : Text.isBlank quote = false := by decide

/-! ## Unquoting -/

theorem unquote_of_trim_nil {field : List Char} (h : Text.trim field = []) :
    unquote field = [] := by
  rw [unquote]
  split
  · rename_i htrim
    exact absurd (h.symm.trans htrim) (List.cons_ne_nil _ _).symm
  · rfl

theorem unquote_of_trim_cons {field : List Char} {c : Char} {rest : List Char}
    (h : Text.trim field = c :: rest) :
    unquote field
      = if c = quote ∧ rest.getLast? = some quote then unquote rest.dropLast else c :: rest := by
  rw [unquote]
  split
  · rename_i htrim
    obtain ⟨rfl, rfl⟩ := List.cons.inj (h.symm.trans htrim)
    rfl
  · rename_i htrim
    exact absurd (htrim.symm.trans h) (List.cons_ne_nil _ _).symm

/-- Blanks around a field are of no account. -/
theorem unquote_congr {field other : List Char} (h : Text.trim field = Text.trim other) :
    unquote field = unquote other := by
  cases hother : Text.trim other with
  | nil => rw [unquote_of_trim_nil hother, unquote_of_trim_nil (h.trans hother)]
  | cons c rest => rw [unquote_of_trim_cons hother, unquote_of_trim_cons (h.trans hother)]

theorem trim_quoted (text : List Char) :
    Text.trim (quote :: (text ++ [quote])) = quote :: (text ++ [quote]) := by
  apply Text.trim_eq_self
  · intro c hc
    obtain rfl : quote = c := Option.some.inj hc
    exact isBlank_quote
  · intro c hc
    rw [← List.cons_append, List.getLast?_concat] at hc
    obtain rfl : quote = c := Option.some.inj hc
    exact isBlank_quote

theorem unquote_quoted (text : List Char) :
    unquote (quote :: (text ++ [quote])) = unquote text := by
  rw [unquote_of_trim_cons (trim_quoted text), if_pos ⟨rfl, List.getLast?_concat⟩,
    List.dropLast_concat]

theorem Plain.unquote_eq {chars : List Char} (h : Plain chars) : unquote chars = chars := by
  cases chars with
  | nil => exact unquote_of_trim_nil h.trimmed
  | cons c rest =>
    rw [unquote_of_trim_cons h.trimmed]
    apply if_neg
    rintro ⟨rfl, hlast⟩
    have hrest : rest ≠ [] := by
      rintro rfl
      cases hlast
    refine h.unquoted ?_ ⟨rfl, ?_⟩
    · rw [List.length_cons]
      exact Nat.succ_lt_succ (List.length_pos_iff.2 hrest)
    · rw [List.getLast?_cons_of_ne_nil hrest, hlast]

/-- Unquoting a field gives back the text that was wrapped. -/
theorem Wrapped.unquote_eq {chars field : List Char} (h : Plain chars)
    (hfield : Wrapped chars field) : unquote field = chars := by
  induction hfield with
  | bare => exact h.unquote_eq
  | padded hleft hright _ ih =>
    exact (unquote_congr (Text.trim_pad hleft.blank hright.blank _)).trans ih
  | quoted _ ih => exact (unquote_quoted _).trans ih

/-! ## Characters of a field -/

/-- Only quotes and blanks on the line are added to a text. -/
theorem Wrapped.not_mem {chars field : List Char} (hfield : Wrapped chars field) {c : Char}
    (h : c ∉ chars) (hquote : c ≠ quote) (hblank : c ≠ '\n' → Text.isBlank c = false) :
    c ∉ field := by
  have hmargin : ∀ cs, Margin cs → c ∉ cs := by
    intro cs hcs hc
    have hne : c ≠ '\n' := fun heq => hcs.oneLine (heq ▸ hc)
    exact Bool.false_ne_true ((hblank hne).symm.trans (hcs.blank c hc))
  induction hfield with
  | bare => exact h
  | padded hleft hright _ ih =>
    rw [List.mem_append, List.mem_append]
    rintro ((hc | hc) | hc)
    · exact hmargin _ hleft hc
    · exact ih hc
    · exact hmargin _ hright hc
  | quoted _ ih =>
    rw [List.mem_cons, List.mem_append, List.mem_singleton]
    rintro (hc | hc | hc)
    · exact hquote hc
    · exact ih hc
    · exact hquote hc

theorem Wrapped.oneLine {chars field : List Char} (h : '\n' ∉ chars)
    (hfield : Wrapped chars field) : '\n' ∉ field :=
  hfield.not_mem h (by decide) fun hne => absurd rfl hne

theorem Wrapped.noComma {chars field : List Char} (h : ',' ∉ chars)
    (hfield : Wrapped chars field) : ',' ∉ field :=
  hfield.not_mem h (by decide) fun _ => by decide

/-! ## Numerals -/

theorem isBlank_of_isDigit {c : Char} (h : c.isDigit) : Text.isBlank c = false := by
  rw [Char.isDigit_iff_toNat] at h
  have hlow : 48 ≤ c.toNat := h.1
  have hhigh : c.toNat ≤ 57 := h.2
  simp only [Text.isBlank, Bool.or_eq_false_iff, Bool.and_eq_false_iff, decide_eq_false_iff_not,
    beq_eq_false_iff_ne]
  omega

theorem not_mem_decimal {n : Nat} {c : Char} (h : c.isDigit = false) :
    c ∉ Numeral.decimal n := by
  intro hc
  exact Bool.false_ne_true (h.symm.trans (Numeral.isDigit_of_mem_decimal hc))

theorem plain_decimal (n : Nat) : Plain (Numeral.decimal n) where
  oneLine := not_mem_decimal (by decide)
  trimmed := Text.trim_eq_self
    (fun _ hc => isBlank_of_isDigit (Numeral.isDigit_of_mem_decimal (List.mem_of_head? hc)))
    (fun _ hc => isBlank_of_isDigit (Numeral.isDigit_of_mem_decimal (List.mem_of_getLast? hc)))
  unquoted := fun _ hquotes =>
    not_mem_decimal (c := quote) (by decide) (List.mem_of_head? hquotes.1)

end FirmwareTrace.SymbolCache
