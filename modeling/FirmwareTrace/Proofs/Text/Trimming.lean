import FirmwareTrace.Text.Blank
import Mathlib.Data.List.TakeWhile

/-! # Trimming

Blanks at either end of a text are of no account, `trim_pad`, and a text that has none
there is left as it is, `trim_eq_self`; so trimming finds the one text that `Trims` describes,
`trim_eq_iff`.
-/
namespace FirmwareTrace.Text

/-- A run of blanks. -/
def Blanks (cs : List Char) : Prop := ∀ c ∈ cs, isBlank c = true

theorem dropWhile_eq_self {p : Char → Bool} {cs : List Char}
    (h : ∀ c, cs.head? = some c → p c = false) : cs.dropWhile p = cs := by
  cases cs with
  | nil => rfl
  | cons c rest => rw [List.dropWhile_cons, if_neg (Bool.not_eq_true _ ▸ h c rfl)]

theorem trimRight_append {right : List Char} (h : Blanks right) (cs : List Char) :
    trimRight (cs ++ right) = trimRight cs := by
  unfold trimRight
  rw [List.reverse_append, List.dropWhile_append_of_pos]
  intro c hc
  exact h c (List.mem_reverse.1 hc)

theorem trim_append_left {left : List Char} (h : Blanks left) (cs : List Char) :
    trim (left ++ cs) = trim cs := by
  rw [trim, List.dropWhile_append_of_pos h, ← trim]

theorem trim_append_right {right : List Char} (h : Blanks right) (cs : List Char) :
    trim (cs ++ right) = trim cs := by
  unfold trim
  rw [List.dropWhile_append]
  by_cases hempty : (cs.dropWhile isBlank).isEmpty = true
  · have hright : right.dropWhile isBlank = [] :=
      List.dropWhile_eq_nil_iff.2 h
    rw [if_pos hempty, hright, List.isEmpty_iff.1 hempty]
  · rw [if_neg hempty, trimRight_append h]

theorem trim_pad {left right : List Char} (hleft : Blanks left) (hright : Blanks right)
    (cs : List Char) : trim (left ++ cs ++ right) = trim cs := by
  rw [trim_append_right hright, trim_append_left hleft]

theorem trim_eq_self {cs : List Char} (hhead : ∀ c, cs.head? = some c → isBlank c = false)
    (hlast : ∀ c, cs.getLast? = some c → isBlank c = false) : trim cs = cs := by
  have hreverse : ∀ c, cs.reverse.head? = some c → isBlank c = false := fun c hc =>
    hlast c (List.head?_reverse ▸ hc)
  rw [trim, dropWhile_eq_self hhead, trimRight, dropWhile_eq_self hreverse, List.reverse_reverse]

/-- Only blanks are taken off. -/
theorem exists_pad (cs : List Char) :
    ∃ left right, Blanks left ∧ Blanks right ∧ cs = left ++ trim cs ++ right := by
  refine ⟨cs.takeWhile isBlank, ((cs.dropWhile isBlank).reverse.takeWhile isBlank).reverse,
    fun c hc => List.mem_takeWhile_imp hc,
    fun c hc => List.mem_takeWhile_imp (List.mem_reverse.1 hc), ?_⟩
  have hright : trim cs ++ ((cs.dropWhile isBlank).reverse.takeWhile isBlank).reverse
      = cs.dropWhile isBlank := by
    rw [trim, trimRight, ← List.reverse_append, List.takeWhile_append_dropWhile,
      List.reverse_reverse]
  rw [List.append_assoc, hright, List.takeWhile_append_dropWhile]

/-- Nothing is left of a run of blanks only. -/
theorem trim_eq_nil_iff {cs : List Char} : trim cs = [] ↔ Blanks cs := by
  constructor
  · intro htrim
    obtain ⟨left, right, hleft, hright, hcs⟩ := exists_pad cs
    rw [htrim, List.append_nil] at hcs
    rw [hcs]
    exact List.forall_mem_append.2 ⟨hleft, hright⟩
  · intro h
    rw [← List.append_nil cs, trim_append_left h]
    rfl

theorem trim_ne_nil {cs : List Char} {c : Char} (hc : c ∈ cs) (h : isBlank c = false) :
    trim cs ≠ [] := by
  intro htrim
  have hblank : isBlank c = true := trim_eq_nil_iff.1 htrim c hc
  exact Bool.false_ne_true (h.symm.trans hblank)

/-- The text without the blanks around it. -/
structure Trims (cs core : List Char) : Prop where
  pad : ∃ left right, Blanks left ∧ Blanks right ∧ cs = left ++ core ++ right
  head : ∀ c, core.head? = some c → isBlank c = false
  last : ∀ c, core.getLast? = some c → isBlank c = false

theorem getLast?_trimRight (cs : List Char) {c : Char} (h : (trimRight cs).getLast? = some c) :
    isBlank c = false := by
  rw [trimRight, List.getLast?_reverse] at h
  simpa [h] using List.head?_dropWhile_not isBlank cs.reverse

/-- Only the end of the text is taken off. -/
theorem trimRight_prefix (cs : List Char) : trimRight cs <+: cs := by
  rw [trimRight, ← List.reverse_suffix, List.reverse_reverse]
  exact List.dropWhile_suffix isBlank

theorem trims_trim (cs : List Char) : Trims cs (trim cs) where
  pad := exists_pad cs
  head := by
    intro c hc
    obtain ⟨rest, hrest⟩ := trimRight_prefix (cs.dropWhile isBlank)
    have hhead : (cs.dropWhile isBlank).head? = some c := by
      rw [← hrest, List.head?_append, ← trim, hc, Option.some_or]
    simpa [hhead] using List.head?_dropWhile_not isBlank cs
  last := fun c hc => getLast?_trimRight _ hc

theorem trim_eq_iff {cs core : List Char} : trim cs = core ↔ Trims cs core := by
  constructor
  · rintro rfl
    exact trims_trim cs
  · rintro ⟨⟨left, right, hleft, hright, rfl⟩, hhead, hlast⟩
    rw [trim_pad hleft hright, trim_eq_self hhead hlast]

end FirmwareTrace.Text
