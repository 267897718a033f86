import FirmwareTrace.Config.Source
import FirmwareTrace.Proofs.Text.Numerals
import FirmwareTrace.Proofs.Text.Trimming
import Mathlib.Data.List.TakeDrop

/-! # Sources as they are written

A source is written as its path, a colon and its library id.  The last colon divides the two, so
a path may hold more of them.  Reading accepts what `Source.Written` describes, refuses any
other text for the reason that `Source.Refused` gives, and gives back what was written,
`Source.parse_exact`.
-/
namespace FirmwareTrace

/-! ## Library ids -/

namespace LibraryId

/-- An id in decimal, or in hexadecimal after `0x`. -/
inductive Written : List Char → LibraryId → Prop
  | decimal {numeral : List Char} {id : LibraryId} (h : Numeral.SpellsWord 10 numeral id) :
      Written numeral id
  | hexadecimal {x : Char} {digits : List Char} {id : LibraryId} (hx : x = 'x' ∨ x = 'X')
      (h : Numeral.SpellsWord 16 digits id) : Written ('0' :: x :: digits) id

/-- The value of a numeral in the base that its front tells. -/
def value? (numeral : List Char) : Option LibraryId :=
  match numeral with
  | '0' :: 'x' :: digits | '0' :: 'X' :: digits => Numeral.word? 16 digits
  | _ => Numeral.word? 10 numeral

variable {numeral digits text : List Char} {x : Char} {id : LibraryId}

theorem parse_eq (text : List Char) :
    LibraryId.parse text =
      match value? (Text.trim text) with
      | some id => .ok id
      | none => .error (.badLibraryId (String.ofList (Text.trim text))) := by
  unfold LibraryId.parse value?
  rfl

/-- What begins with a mark is no decimal numeral. -/
theorem not_spellsWord_ten (hx : x = 'x' ∨ x = 'X') :
    ¬Numeral.SpellsWord 10 ('0' :: x :: digits) id := by
  have hnone : Numeral.word? 10 ('0' :: x :: digits) = none := by
    rcases hx with rfl | rfl <;> rfl
  rw [← Numeral.word?_eq_some_iff (by decide), hnone]
  simp

theorem value?_of_mark (hx : x = 'x' ∨ x = 'X') (digits : List Char) :
    value? ('0' :: x :: digits) = Numeral.word? 16 digits := by
  rcases hx with rfl | rfl <;> rfl

theorem value?_of_no_mark (h : ∀ x digits, x = 'x' ∨ x = 'X' → numeral ≠ '0' :: x :: digits) :
    value? numeral = Numeral.word? 10 numeral := by
  unfold value?
  split
  · exact absurd rfl (h 'x' _ (.inl rfl))
  · exact absurd rfl (h 'X' _ (.inr rfl))
  · rfl

theorem value?_eq_some_iff : value? numeral = some id ↔ Written numeral id := by
  by_cases hmark : ∃ x digits, (x = 'x' ∨ x = 'X') ∧ numeral = '0' :: x :: digits
  · obtain ⟨x, digits, hx, rfl⟩ := hmark
    rw [value?_of_mark hx, Numeral.word?_eq_some_iff (by decide)]
    constructor
    · exact .hexadecimal hx
    · intro h
      cases h with
      | decimal h => exact absurd h (not_spellsWord_ten hx)
      | hexadecimal _ h => exact h
  · rw [value?_of_no_mark fun x digits hx heq => hmark ⟨x, digits, hx, heq⟩,
      Numeral.word?_eq_some_iff (by decide)]
    constructor
    · exact .decimal
    · intro h
      cases h with
      | decimal h => exact h
      | hexadecimal hx h => exact absurd ⟨_, _, hx, rfl⟩ hmark

theorem parse_eq_ok_iff : LibraryId.parse text = .ok id ↔ Written (Text.trim text) id := by
  rw [parse_eq, ← value?_eq_some_iff]
  cases value? (Text.trim text) <;> simp

theorem parse_eq_error_iff {fault : ConfigFault} :
    LibraryId.parse text = .error fault ↔
      (∀ id, ¬Written (Text.trim text) id) ∧
        fault = .badLibraryId (String.ofList (Text.trim text)) := by
  simp only [parse_eq, ← value?_eq_some_iff, ← Option.eq_none_iff_forall_ne_some]
  cases value? (Text.trim text) <;> simp [eq_comm]

/-! ## Numerals of an id -/

/-- An id in decimal, and in hexadecimal with small and with capital letters. -/
def numerals (id : LibraryId) : List (List Char) :=
  [Numeral.decimal id.toNat, '0' :: 'x' :: Numeral.hex id.toNat,
    '0' :: 'x' :: Numeral.upperHex id.toNat, '0' :: 'X' :: Numeral.hex id.toNat,
    '0' :: 'X' :: Numeral.upperHex id.toNat]

theorem written_of_mem_numerals (h : numeral ∈ numerals id) : Written numeral id := by
  have hdecimal : Numeral.Spells 10 (Numeral.decimal id.toNat) id.toNat :=
    Numeral.spells_toDigits (by decide) _
  have hhex : Numeral.Spells 16 (Numeral.hex id.toNat) id.toNat :=
    Numeral.spells_toDigits (by decide) _
  have hupper : Numeral.Spells 16 (Numeral.upperHex id.toNat) id.toNat :=
    hhex.map_toUpper (by decide)
  simp only [numerals, List.mem_cons, List.not_mem_nil, or_false] at h
  rcases h with rfl | rfl | rfl | rfl | rfl
  · exact .decimal (.bare hdecimal)
  · exact .hexadecimal (.inl rfl) (.bare hhex)
  · exact .hexadecimal (.inl rfl) (.bare hupper)
  · exact .hexadecimal (.inr rfl) (.bare hhex)
  · exact .hexadecimal (.inr rfl) (.bare hupper)

/-- The text holds neither colons nor blanks. -/
def Solid (text : List Char) : Prop := ∀ c ∈ text, c ≠ ':' ∧ Text.isBlank c = false

theorem Solid.cons {c : Char} (hc : c ≠ ':' ∧ Text.isBlank c = false) (h : Solid text) :
    Solid (c :: text) :=
  List.forall_mem_cons.2 ⟨hc, h⟩

theorem solid_of_digit {base : Nat} (hbase : base ≤ 16) {c : Char} {value : Nat}
    (h : Numeral.Digit base c value) : c ≠ ':' ∧ Text.isBlank c = false := by
  obtain ⟨hlt, hc⟩ := h
  have hvalue : value < 16 := Nat.lt_of_lt_of_le hlt hbase
  rcases hc with rfl | rfl
  · interval_cases value <;> decide
  · interval_cases value <;> decide

theorem solid_of_spellsWord {base : Nat} (hbase : base ≤ 16)
    (h : Numeral.SpellsWord base numeral id) : Solid numeral := by
  have hspells {digits : List Char} (h : Numeral.Spells base digits id.toNat) : Solid digits := by
    intro c hc
    obtain ⟨value, hdigit⟩ := h.exists_digit c hc
    exact solid_of_digit hbase hdigit
  cases h with
  | bare h => exact hspells h
  | plus h => exact (hspells h).cons (by decide)

theorem Written.solid (h : Written numeral id) : Solid numeral := by
  cases h with
  | decimal h => exact solid_of_spellsWord (by decide) h
  | hexadecimal hx h =>
    have hdigits := solid_of_spellsWord (by decide) h
    rcases hx with rfl | rfl
    · exact (hdigits.cons (by decide)).cons (by decide)
    · exact (hdigits.cons (by decide)).cons (by decide)

end LibraryId

namespace Source

/-! ## The last colon -/

variable {mark : Char} {cs front back : List Char}

theorem forall_ne_of_not_mem (h : mark ∉ cs) : ∀ c ∈ cs.reverse, (c != mark) = true := by
  intro c hc
  rw [bne_iff_ne]
  rintro rfl
  exact h (List.mem_reverse.1 hc)

theorem splitLast_append (h : mark ∉ back) (front : List Char) :
    splitLast mark (front ++ mark :: back) = some (front, back) := by
  have hback := forall_ne_of_not_mem h
  simp [splitLast, List.span_eq_takeWhile_dropWhile, List.takeWhile_append_of_pos hback,
    List.dropWhile_append_of_pos hback]

theorem splitLast_of_not_mem (h : mark ∉ cs) : splitLast mark cs = none := by
  have hcs := forall_ne_of_not_mem h
  simp [splitLast, List.span_eq_takeWhile_dropWhile, List.dropWhile_eq_nil_iff.2 hcs]

/-- A text with the character has a last occurrence of it. -/
theorem exists_last_of_mem (h : mark ∈ cs) :
    ∃ front back, cs = front ++ mark :: back ∧ mark ∉ back := by
  obtain ⟨after, before, hcs, hafter⟩ := List.eq_append_cons_of_mem (List.mem_reverse.2 h)
  refine ⟨before.reverse, after.reverse, ?_, by simpa using hafter⟩
  simpa using congrArg List.reverse hcs

/-! ## Texts of sources -/

/-- The text is the path and, after its last colon, the id with blanks around it. -/
inductive Written (text : String) (source : Source) : Prop
  | intro {id numeral : List Char} (text_eq : text.toList = source.path.toList ++ ':' :: id)
      (last : ':' ∉ id) (path_ne : source.path ≠ "") (trims : Text.Trims id numeral)
      (library : LibraryId.Written numeral source.library)

/-- Why a text is no source. -/
inductive Refused (text : String) : ConfigFault → Prop
  | noColon (h : ':' ∉ text.toList) : Refused text (.missingLibraryId text)
  | noPath {id : List Char} (text_eq : text.toList = ':' :: id) (last : ':' ∉ id) :
      Refused text (.emptySourcePath text)
  | badId {path id numeral : List Char} (text_eq : text.toList = path ++ ':' :: id)
      (last : ':' ∉ id) (path_ne : path ≠ []) (trims : Text.Trims id numeral)
      (library : ∀ library, ¬LibraryId.Written numeral library) :
      Refused text (.badLibraryId (String.ofList numeral))

section

variable {text : String}

theorem parse_of_no_colon (h : ':' ∉ text.toList) :
    parse text = .error (.missingLibraryId text) := by
  rw [parse, splitLast_of_not_mem h]

theorem parse_of_no_path {id : List Char} (htext : text.toList = ':' :: id) (hid : ':' ∉ id) :
    parse text = .error (.emptySourcePath text) := by
  have hsplit : splitLast ':' (':' :: id) = some ([], id) := splitLast_append hid []
  rw [parse, htext, hsplit]

theorem parse_of_path {path id : List Char} (htext : text.toList = path ++ ':' :: id)
    (hid : ':' ∉ id) (hpath : path ≠ []) :
    parse text = (LibraryId.parse id).map fun library => ⟨String.ofList path, library⟩ := by
  obtain ⟨first, rest, rfl⟩ := List.exists_cons_of_ne_nil hpath
  rw [parse, htext, splitLast_append hid]

/-- A text is a source or it is refused. -/
theorem parse_cases (text : String) :
    (∃ source, Written text source ∧ parse text = .ok source) ∨
      ∃ fault, Refused text fault ∧ parse text = .error fault := by
  by_cases hcolon : ':' ∈ text.toList
  · obtain ⟨path, id, htext, hid⟩ := exists_last_of_mem hcolon
    by_cases hpath : path = []
    · subst hpath
      exact .inr ⟨_, .noPath htext hid, parse_of_no_path htext hid⟩
    · have hparse := parse_of_path htext hid hpath
      cases hlibrary : LibraryId.parse id with
      | ok library =>
        rw [hlibrary] at hparse
        have hwritten := LibraryId.parse_eq_ok_iff.1 hlibrary
        exact .inl ⟨_, ⟨by simpa using htext, hid, by simpa using hpath, Text.trims_trim id,
          hwritten⟩, hparse⟩
      | error fault =>
        rw [hlibrary] at hparse
        obtain ⟨hnone, rfl⟩ := LibraryId.parse_eq_error_iff.1 hlibrary
        exact .inr ⟨_, .badId htext hid hpath (Text.trims_trim id) hnone, hparse⟩
  · exact .inr ⟨_, .noColon hcolon, parse_of_no_colon hcolon⟩

theorem parse_of_written {source : Source} (h : Written text source) :
    parse text = .ok source := by
  obtain ⟨htext, hid, hpath, htrims, hlibrary⟩ := h
  rw [parse_of_path htext hid (by simpa using hpath),
    LibraryId.parse_eq_ok_iff.2 (Text.trim_eq_iff.2 htrims ▸ hlibrary)]
  simp [Except.map]

theorem parse_of_refused {fault : ConfigFault} (h : Refused text fault) :
    parse text = .error fault := by
  cases h with
  | noColon hcolon => exact parse_of_no_colon hcolon
  | noPath htext hid => exact parse_of_no_path htext hid
  | badId htext hid hpath htrims hnone =>
    obtain rfl := Text.trim_eq_iff.2 htrims
    rw [parse_of_path htext hid hpath, LibraryId.parse_eq_error_iff.2 ⟨hnone, rfl⟩]
    rfl

theorem parse_eq_ok_iff {source : Source} : parse text = .ok source ↔ Written text source := by
  refine ⟨fun hparse => ?_, parse_of_written⟩
  rcases parse_cases text with ⟨found, hwritten, hfound⟩ | ⟨fault, -, hfault⟩
  · rw [hfound] at hparse
    exact Except.ok.inj hparse ▸ hwritten
  · rw [hfault] at hparse
    cases hparse

theorem parse_eq_error_iff {fault : ConfigFault} :
    parse text = .error fault ↔ Refused text fault := by
  refine ⟨fun hparse => ?_, parse_of_refused⟩
  rcases parse_cases text with ⟨source, -, hsource⟩ | ⟨found, hrefused, hfound⟩
  · rw [hsource] at hparse
    cases hparse
  · rw [hfound] at hparse
    exact Except.error.inj hparse ▸ hrefused

end

/-- A path and an id, with a colon between them, are read back. -/
theorem parse_append {path : String} {id : LibraryId} {numeral : List Char} (hpath : path ≠ "")
    (h : LibraryId.Written numeral id) :
    parse (path ++ ":" ++ String.ofList numeral) = .ok ⟨path, id⟩ := by
  have hsolid := h.solid
  have htrim : Text.trim numeral = numeral :=
    Text.trim_eq_self (fun c hc => (hsolid c (List.mem_of_head? hc)).2)
      fun c hc => (hsolid c (List.mem_of_getLast? hc)).2
  apply parse_of_written
  exact ⟨by simp, fun hcolon => (hsolid ':' hcolon).1 rfl, hpath, Text.trim_eq_iff.1 htrim, h⟩

/-- Which texts are sources, why the others are none, and that sources are read back as they
were written. -/
theorem parse_exact :
    (∀ text source, parse text = .ok source ↔ Written text source) ∧
    (∀ text fault, parse text = .error fault ↔ Refused text fault) ∧
    ∀ (path : String) (id : LibraryId), path ≠ "" → ∀ numeral ∈ id.numerals,
      parse (path ++ ":" ++ String.ofList numeral) = .ok ⟨path, id⟩ := by
  refine ⟨fun text source => parse_eq_ok_iff, fun text fault => parse_eq_error_iff, ?_⟩
  intro path id hpath numeral hnumeral
  exact parse_append hpath (LibraryId.written_of_mem_numerals hnumeral)

/-- The path holds a colon and a blank of its own. -/
theorem parse_exact_colons :
    "/opt/fw:v2/a b.elf" ≠ "" ∧
      "0xA".toList ∈ LibraryId.numerals 10 ∧
      parse "/opt/fw:v2/a b.elf:0xA" = .ok ⟨"/opt/fw:v2/a b.elf", 10⟩ :=
  have hnumeral : "0xA".toList ∈ LibraryId.numerals 10 := by decide
  have hpath : "/opt/fw:v2/a b.elf" ≠ "" := by decide
  ⟨hpath, hnumeral, parse_exact.2.2 "/opt/fw:v2/a b.elf" 10 hpath _ hnumeral⟩

end Source
end FirmwareTrace
