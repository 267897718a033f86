import FirmwareTrace.Json.Printer
import FirmwareTrace.Json.Reader
import FirmwareTrace.Proofs.Text.Joining
import Mathlib.Data.List.TakeWhile

/-! # Compact JSON

The compact text of an array or an object is the texts of its parts between two marks, with a
comma between one part and the next.  A string ends at the first quote that is not escaped, a
number at the first character that is no digit, and every other value by itself; so the compact
text of a value whose numbers are runs of digits is the text of no other,
`print_compact_inj`.
-/
namespace FirmwareTrace.Json

/-! ## Strings -/

/-- The unit that an escaped character is read as. -/
def unitOf (c : Char) : StringUnit :=
  if c < ' ' ∧ c ∉ ['\x08', '\t', '\n', '\x0c', '\r'] then .code c.toNat else .char c

theorem ofDigits?_padLeft_hex : ∀ n < 32,
    Numeral.ofDigits? 16 (Numeral.padLeft '0' 4 (Numeral.hex n)) = some n := by
  decide

theorem units_code {n : Nat} (hn : n < 32) (rest : List Char) :
    units ('\\' :: 'u' :: (Numeral.padLeft '0' 4 (Numeral.hex n) ++ rest))
      = (units rest).map fun r => (.code n :: r.1, r.2) := by
  have hvalue := ofDigits?_padLeft_hex n hn
  have hlength : (Numeral.padLeft '0' 4 (Numeral.hex n)).length = 4 := by
    revert n
    decide
  match hdigits : Numeral.padLeft '0' 4 (Numeral.hex n), hlength with
  | [a, b, c, d], _ =>
    rw [hdigits] at hvalue
    cases h : units rest <;> simp [units, hvalue, h]

theorem units_escaped (c : Char) (rest : List Char) :
    units (escaped c ++ rest) = (units rest).map fun r => (unitOf c :: r.1, r.2) := by
  unfold escaped
  split
  case h_8 hquote hslash hb hf hn hr ht =>
    have hmem : c ∉ ['\x08', '\t', '\n', '\x0c', '\r'] := by
      simp only [List.mem_cons, List.not_mem_nil, or_false, not_or]
      exact ⟨hb, ht, hn, hf, hr⟩
    split
    · next hc =>
      rw [unitOf, if_pos ⟨hc, hmem⟩]
      exact units_code (Char.lt_def.1 hc) rest
    · next hc =>
      have hunit : unitOf c = .char c := if_neg fun h => hc h.1
      rw [hunit, List.singleton_append, units, if_neg hc]
      · exact hquote
      · exact fun _ _ _ _ _ h _ => hslash h
      · exact fun _ _ h _ => hslash h
  all_goals cases h : units rest <;> simp [units, unitOf, escape?, h]

theorem units_flatMap_escaped (cs rest : List Char) :
    units (cs.flatMap escaped ++ '"' :: rest) = some (cs.map unitOf, rest) := by
  induction cs with
  | nil => rfl
  | cons c cs ih =>
    rw [List.flatMap_cons, List.append_assoc, units_escaped, ih]
    rfl

theorem unitOf_injective : Function.Injective unitOf := by
  intro a b h
  unfold unitOf at h
  split at h <;> split at h
  · exact Char.toNat_inj.1 (StringUnit.code.inj h)
  · cases h
  · cases h
  · exact StringUnit.char.inj h

/-- A string ends at its closing quote, and its text is known from it. -/
theorem stringChars_append_inj {a b : String} {x y : List Char}
    (h : stringChars a ++ x = stringChars b ++ y) : a = b ∧ x = y := by
  simp only [stringChars, List.cons_append, List.append_assoc, List.nil_append,
    List.cons.injEq, true_and] at h
  have hunits := congrArg units h
  rw [units_flatMap_escaped, units_flatMap_escaped] at hunits
  obtain ⟨hmap, hrest⟩ := Prod.mk.inj (Option.some.inj hunits)
  exact ⟨String.toList_inj.1 (List.map_injective_iff.mpr unitOf_injective hmap), hrest⟩

/-! ## Compact values -/

mutual

/-- The compact layout knows no levels. -/
theorem chars_compact (k : Nat) : ∀ value, chars .compact k value = chars .compact 0 value
  | .null | .bool _ | .number _ | .string _ | .array [] | .object [] => by simp only [chars]
  | .array (item :: rest) => by
    rw [chars, chars, chars_compact (k + 1) item, chars_compact (0 + 1) item,
      itemChars_compact (k + 1) rest, itemChars_compact (0 + 1) rest]
    rfl
  | .object ((name, value) :: rest) => by
    rw [chars, chars, chars_compact (k + 1) value, chars_compact (0 + 1) value,
      memberChars_compact (k + 1) rest, memberChars_compact (0 + 1) rest]
    rfl

theorem itemChars_compact (k : Nat) : ∀ items,
    itemChars .compact k items = items.flatMap fun item => ',' :: chars .compact 0 item
  | [] => by rw [itemChars, List.flatMap_nil]
  | item :: rest => by
    rw [itemChars, chars_compact k item, itemChars_compact k rest]
    rfl

theorem memberChars_compact (k : Nat) : ∀ members,
    memberChars .compact k members = members.flatMap fun member =>
      ',' :: stringChars member.1 ++ ':' :: chars .compact 0 member.2
  | [] => by rw [memberChars, List.flatMap_nil]
  | (name, value) :: rest => by
    rw [memberChars, chars_compact k value, memberChars_compact k rest, List.flatMap_cons]
    simp only [Layout.compact, List.cons_append, List.append_assoc, List.nil_append]

end

/-- The compact text of a value. -/
def compact (value : Json String) : List Char := chars .compact 0 value

/-- Parts between two marks, with a comma between one part and the next. -/
def enclosed (first last : Char) (parts : List (List Char)) : List Char :=
  first :: [','].intercalate parts ++ [last]

/-- The text of an object whose members have the given names and texts. -/
def objectChars (members : List (String × List Char)) : List Char :=
  enclosed '\x7b' '\x7d' (members.map fun m => stringChars m.1 ++ ':' :: m.2)

/-- The compact text of a member. -/
def compactMember (m : String × Json String) : List Char := stringChars m.1 ++ ':' :: compact m.2

theorem compact_array (items : List (Json String)) :
    compact (.array items) = enclosed '[' ']' (items.map compact) := by
  cases items with
  | nil => simp [compact, enclosed, chars]
  | cons item rest =>
    rw [compact, chars, chars_compact, itemChars_compact, enclosed, List.map_cons,
      intercalate_cons, List.flatMap_map]
    simp [Layout.compact, compact]

theorem compact_object (members : List (String × Json String)) :
    compact (.object members) = enclosed '\x7b' '\x7d' (members.map compactMember) := by
  cases members with
  | nil => simp [compact, enclosed, chars]
  | cons m rest =>
    rw [compact, chars, chars_compact, memberChars_compact, enclosed, List.map_cons,
      intercalate_cons, List.flatMap_map]
    simp [Layout.compact, compact, compactMember]

theorem compact_object_eq_objectChars (members : List (String × Json String)) :
    compact (.object members) = objectChars (members.map fun m => (m.1, compact m.2)) := by
  rw [compact_object, objectChars, List.map_map]
  rfl

/-! ## Telling values apart -/

/-- Values whose numbers are written in digits. -/
inductive Printable : Json String → Prop
  | null : Printable .null
  | bool (value : Bool) : Printable (.bool value)
  | number {digits : List Char} (ne_nil : digits ≠ []) (digit : ∀ c ∈ digits, c.isDigit) :
    Printable (.number digits)
  | string (text : String) : Printable (.string text)
  | array {items : List (Json String)} (printable : ∀ item ∈ items, Printable item) :
    Printable (.array items)
  | object {members : List (String × Json String)} (printable : ∀ m ∈ members, Printable m.2) :
    Printable (.object members)

/-- What follows a number and is no part of it. -/
def Ends (rest : List Char) : Prop := ∀ c ∈ rest.head?, c.isDigit = false

theorem ends_nil : Ends [] := by simp [Ends]

section

variable {α : Type} {f : α → List Char}

/-- The texts tell the two apart, whatever follows them, unless it goes on with a digit. -/
def Told (f : α → List Char) (a b : α) : Prop :=
  ∀ ⦃x y : List Char⦄, Ends x → Ends y → f a ++ x = f b ++ y → a = b ∧ x = y

/-- The text starts with a character other than the mark. -/
def Opens (f : α → List Char) (mark : Char) (a : α) : Prop :=
  ∃ c rest, f a = c :: rest ∧ c ≠ mark

variable {as bs : List α} {first last : Char} {x y : List Char}

/-- Texts that follow each other after commas are told apart if each is. -/
theorem flatMap_append_inj (hlast : last ≠ ',') (hends : last.isDigit = false)
    (hinj : ∀ a ∈ as, ∀ b ∈ bs, Told f a b)
    (h : as.flatMap (',' :: f ·) ++ last :: x = bs.flatMap (',' :: f ·) ++ last :: y) :
    as = bs ∧ x = y := by
  induction as generalizing bs with
  | nil =>
    cases bs with
    | nil => simpa using h
    | cons b bs => simp [hlast] at h
  | cons a as ih =>
    cases bs with
    | nil => simp [hlast.symm] at h
    | cons b bs =>
      have hnext (cs : List α) (z : List Char) : Ends (cs.flatMap (',' :: f ·) ++ last :: z) := by
        cases cs <;> simp [Ends, hends]
      simp only [List.flatMap_cons, List.cons_append, List.append_assoc, List.cons.injEq,
        true_and] at h
      obtain ⟨rfl, hrest⟩ :=
        hinj a List.mem_cons_self b List.mem_cons_self (hnext as x) (hnext bs y) h
      obtain ⟨rfl, rfl⟩ := ih (fun a ha b hb => hinj a (List.mem_cons_of_mem _ ha) b
        (List.mem_cons_of_mem _ hb)) hrest
      exact ⟨rfl, rfl⟩

theorem enclosed_append_inj (hlast : last ≠ ',') (hends : last.isDigit = false)
    (has : ∀ a ∈ as, Opens f last a) (hbs : ∀ b ∈ bs, Opens f last b)
    (hinj : ∀ a ∈ as, ∀ b ∈ bs, Told f a b)
    (h : enclosed first last (as.map f) ++ x = enclosed first last (bs.map f) ++ y) :
    as = bs ∧ x = y := by
  cases as with
  | nil =>
    cases bs with
    | nil => simpa [enclosed] using h
    | cons b bs =>
      obtain ⟨c, rest, hc, hne⟩ := hbs b List.mem_cons_self
      simp [enclosed, intercalate_cons, hc, hne.symm] at h
  | cons a as =>
    cases bs with
    | nil =>
      obtain ⟨c, rest, hc, hne⟩ := has a List.mem_cons_self
      simp [enclosed, intercalate_cons, hc, hne] at h
    | cons b bs =>
      -- a comma in front makes the first part one of the later ones
      apply flatMap_append_inj hlast hends hinj
      simpa [enclosed, intercalate_cons, List.flatMap_map] using h

end

inductive Kind
  | null
  | bool
  | number
  | string
  | array
  | object

def kind : Json String → Kind
  | .null => .null
  | .bool _ => .bool
  | .number _ => .number
  | .string _ => .string
  | .array _ => .array
  | .object _ => .object

/-- The kind of the values whose text starts with a character. -/
def kindOf? (c : Char) : Option Kind :=
  if c.isDigit then some .number
  else match c with
    | 'n' => some .null
    | 't' | 'f' => some .bool
    | '"' => some .string
    | '[' => some .array
    | '\x7b' => some .object
    | _ => none

section

variable {a b : Json String}

theorem exists_kind (h : Printable a) :
    ∃ c rest, compact a = c :: rest ∧ kindOf? c = some a.kind := by
  cases h with
  | null => exact ⟨_, _, rfl, rfl⟩
  | bool value => cases value <;> exact ⟨_, _, rfl, rfl⟩
  | number hne hdigit =>
    obtain ⟨c, rest, rfl⟩ := List.exists_cons_of_ne_nil hne
    exact ⟨c, rest, rfl, if_pos (hdigit c List.mem_cons_self)⟩
  | string text => exact ⟨_, _, rfl, rfl⟩
  | array _ => exact ⟨_, _, compact_array _, rfl⟩
  | object _ => exact ⟨_, _, compact_object _, rfl⟩

/-- Values of two kinds are told apart by their first characters. -/
theorem told_of_kind (ha : Printable a) (hb : Printable b)
    (h : a.kind = b.kind → Told compact a b) : Told compact a b := by
  intro x y hx hy heq
  obtain ⟨c, s, hs, hc⟩ := exists_kind ha
  obtain ⟨d, t, ht, hd⟩ := exists_kind hb
  have hfirst := heq
  rw [hs, ht] at hfirst
  obtain rfl := (List.cons.inj hfirst).1
  exact h (Option.some.inj (hc.symm.trans hd)) hx hy heq

theorem opens_compact (h : Printable a) : Opens compact ']' a := by
  obtain ⟨c, rest, hc, hkind⟩ := exists_kind h
  refine ⟨c, rest, hc, ?_⟩
  rintro rfl
  cases hkind

theorem opens_member (m : String × Json String) : Opens compactMember '\x7d' m :=
  ⟨'"', _, rfl, by decide⟩

theorem told_member {m o : String × Json String} (h : Told compact m.2 o.2) :
    Told compactMember m o := by
  intro x y hx hy heq
  simp only [compactMember, List.append_assoc, List.cons_append] at heq
  obtain ⟨hname, hrest⟩ := stringChars_append_inj heq
  obtain ⟨hvalue, rfl⟩ := h hx hy (List.tail_eq_of_cons_eq hrest)
  exact ⟨Prod.ext hname hvalue, rfl⟩

theorem told_number {digits others : List Char} (hdigits : ∀ c ∈ digits, c.isDigit)
    (hothers : ∀ c ∈ others, c.isDigit) : Told compact (.number digits) (.number others) := by
  intro x y hx hy h
  have hspan {run rest : List Char} (hrun : ∀ c ∈ run, c.isDigit) (hrest : Ends rest) :
      (run ++ rest).takeWhile Char.isDigit = run := by
    rw [List.takeWhile_append_of_pos hrun]
    cases rest with
    | nil => simp
    | cons c rest => simp [hrest c rfl]
  simp only [compact, chars] at h
  have hsame := congrArg (List.takeWhile Char.isDigit) h
  rw [hspan hdigits hx, hspan hothers hy] at hsame
  subst hsame
  exact ⟨rfl, List.append_cancel_left h⟩

/-- The compact texts of printable values tell them apart. -/
theorem told_compact (ha : Printable a) (hb : Printable b) : Told compact a b := by
  apply told_of_kind ha hb
  intro hkind
  induction ha generalizing b with
  | null =>
    cases hb with
    | null => exact fun _ _ _ _ h => ⟨rfl, List.append_cancel_left h⟩
    | _ => cases hkind
  | bool value =>
    cases hb with
    | bool other =>
      intro x y hx hy h
      cases value <;> cases other <;> simp_all [compact, chars]
    | _ => cases hkind
  | number _ hdigits =>
    cases hb with
    | number _ hothers => exact told_number hdigits hothers
    | _ => cases hkind
  | string text =>
    cases hb with
    | string other =>
      intro x y hx hy h
      obtain ⟨rfl, rfl⟩ := stringChars_append_inj h
      exact ⟨rfl, rfl⟩
    | _ => cases hkind
  | array printable ih =>
    cases hb with
    | array printable' =>
      intro x y hx hy h
      rw [compact_array, compact_array] at h
      obtain ⟨rfl, rfl⟩ := enclosed_append_inj (by decide) (by decide)
        (fun a ha => opens_compact (printable a ha))
        (fun b hb => opens_compact (printable' b hb))
        (fun a ha b hb => told_of_kind (printable a ha) (printable' b hb)
          (ih a ha (printable' b hb))) h
      exact ⟨rfl, rfl⟩
    | _ => cases hkind
  | object printable ih =>
    cases hb with
    | object printable' =>
      intro x y hx hy h
      rw [compact_object, compact_object] at h
      obtain ⟨rfl, rfl⟩ := enclosed_append_inj (by decide) (by decide)
        (fun m _ => opens_member m) (fun m _ => opens_member m)
        (fun m hm o ho => told_member (told_of_kind (printable m hm) (printable' o ho)
          (ih m hm (printable' o ho)))) h
      exact ⟨rfl, rfl⟩
    | _ => cases hkind

/-- The compact text of a value whose numbers are digits is the text of no other. -/
theorem print_compact_inj (ha : Printable a) (hb : Printable b) :
    print .compact a = print .compact b ↔ a = b := by
  constructor
  · intro h
    have hchars : compact a ++ [] = compact b ++ [] := by
      rw [List.append_nil, List.append_nil]
      exact String.ofList_injective h
    exact (told_compact ha hb ends_nil ends_nil hchars).1
  · exact congrArg _

end

end FirmwareTrace.Json
