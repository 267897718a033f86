import FirmwareTrace.Proofs.Text.Trimming
import FirmwareTrace.Proofs.Text.Utf8
import FirmwareTrace.SymbolCache.Basic
import Mathlib.Data.List.Basic
import Mathlib.Logic.Function.Iterate

/-! # Lines of a text

Octets are cut into lines after their line feeds, in one way only, `Cut.lines_eq`.  The record on a
line is its text up to carriage returns at the end, `record?_eq_some_iff`.
-/
namespace FirmwareTrace.SymbolCache

/-- The octets of a text. -/
def octets (text : List Char) : List UInt8 := Utf8.encode (String.ofList text)

theorem octets_append (front back : List Char) :
    octets (front ++ back) = octets front ++ octets back :=
  Utf8.encode_ofList_append front back

theorem lines_of_dropWhile {all rest : List UInt8} {octet : UInt8}
    (h : all.dropWhile (· != lineFeed) = octet :: rest) :
    lines all = ⟨all.takeWhile (· != lineFeed), true⟩ :: lines rest := by
  cases all with
  | nil => exact absurd h (List.cons_ne_nil _ _).symm
  | cons first more =>
    rw [lines]
    dsimp only
    split
    · rename_i hdrop
      exact absurd (hdrop.symm.trans h) (List.cons_ne_nil _ _).symm
    · rename_i hdrop
      rw [(List.cons.inj (hdrop.symm.trans h)).2]

theorem forall_ne_lineFeed {body : List UInt8} (h : lineFeed ∉ body) :
    ∀ octet ∈ body, (octet != lineFeed) = true := by
  intro octet hmem
  exact bne_iff_ne.2 fun heq => h (heq ▸ hmem)

theorem lines_append {body : List UInt8} (h : lineFeed ∉ body) (rest : List UInt8) :
    lines (body ++ lineFeed :: rest) = ⟨body, true⟩ :: lines rest := by
  have hbody := forall_ne_lineFeed h
  have hstop : ¬(lineFeed != lineFeed) = true := by decide
  have hdrop : (body ++ lineFeed :: rest).dropWhile (· != lineFeed) = lineFeed :: rest := by
    rw [List.dropWhile_append_of_pos hbody, List.dropWhile_cons, if_neg hstop]
  rw [lines_of_dropWhile hdrop, List.takeWhile_append_of_pos hbody, List.takeWhile_cons,
    if_neg hstop, List.append_nil]

theorem lineFeed_not_mem_octets {text : List Char} (h : '\n' ∉ text) : lineFeed ∉ octets text := by
  intro hmem
  have hchar : Char.ofNat lineFeed.toNat ∈ text := Utf8.mem_encode_ofList (by decide) hmem
  exact h hchar

/-- A text without line feeds is the line in front of the next one. -/
theorem lines_text_append {body : List Char} (h : '\n' ∉ body) (rest : List Char) :
    lines (octets (body ++ '\n' :: rest)) = ⟨octets body, true⟩ :: lines (octets rest) := by
  have hcons : octets ('\n' :: rest) = lineFeed :: octets rest := by
    rw [← List.singleton_append, octets_append]
    rfl
  rw [octets_append, hcons, lines_append (lineFeed_not_mem_octets h)]

/-! ## Lines as they are cut -/

/-- Octets and their lines: each has its line feed, but for a last one that may have none. -/
inductive Cut : List UInt8 → List Line → Prop
  | nil : Cut [] []
  | last {body : List UInt8} (hbody : lineFeed ∉ body) (hne : body ≠ []) : Cut body [⟨body, false⟩]
  | line {body rest : List UInt8} {more : List Line} (hbody : lineFeed ∉ body)
      (hrest : Cut rest more) : Cut (body ++ lineFeed :: rest) (⟨body, true⟩ :: more)

/-- The octets are nothing or end with a line feed. -/
def Terminated (octets : List UInt8) : Prop := octets = [] ∨ octets.getLast? = some lineFeed

instance : DecidablePred Terminated := fun octets =>
  inferInstanceAs (Decidable (octets = [] ∨ octets.getLast? = some lineFeed))

theorem not_mem_takeWhile (octets : List UInt8) : lineFeed ∉ octets.takeWhile (· != lineFeed) := by
  intro hmem
  exact absurd (List.mem_takeWhile_imp hmem) (by decide)

theorem cut_lines (octets : List UInt8) : Cut octets (lines octets) := by
  fun_induction lines octets with
  | case1 => exact .nil
  | case2 first more body hdrop =>
    have hall : body = first :: more := by
      have happend := List.takeWhile_append_dropWhile (p := (· != lineFeed)) (l := first :: more)
      rwa [hdrop, List.append_nil] at happend
    have hbody : lineFeed ∉ body := not_mem_takeWhile _
    rw [hall] at hbody ⊢
    exact .last hbody (List.cons_ne_nil _ _)
  | case3 first more body octet rest hdrop _ ih =>
    have hoctet : octet = lineFeed := by
      have hhead := List.head?_dropWhile_not (· != lineFeed) (first :: more)
      rw [hdrop] at hhead
      simpa using hhead
    have hall : body ++ lineFeed :: rest = first :: more := by
      rw [← hoctet, ← hdrop]
      exact List.takeWhile_append_dropWhile
    rw [← hall]
    exact .line (not_mem_takeWhile _) ih

theorem lines_nil : lines [] = [] := by rw [lines]

theorem lines_of_not_mem {body : List UInt8} (h : lineFeed ∉ body) (hne : body ≠ []) :
    lines body = [⟨body, false⟩] := by
  have hbody := forall_ne_lineFeed h
  obtain ⟨first, more, rfl⟩ := List.exists_cons_of_ne_nil hne
  rw [lines]
  split
  · rw [List.takeWhile_eq_self_iff.2 hbody]
  · rename_i hdrop
    rw [List.dropWhile_eq_nil_iff.2 hbody] at hdrop
    cases hdrop

/-- Octets are cut into lines in one way only. -/
theorem Cut.lines_eq {octets : List UInt8} {found : List Line} (h : Cut octets found) :
    lines octets = found := by
  induction h with
  | nil => exact lines_nil
  | last hbody hne => exact lines_of_not_mem hbody hne
  | line hbody _ ih => rw [lines_append hbody, ih]

theorem Terminated.of_append {body rest : List UInt8} (h : Terminated (body ++ lineFeed :: rest)) :
    Terminated rest := by
  by_cases hrest : rest = []
  · exact .inl hrest
  · have hlast := h.resolve_left (by simp)
    rw [List.getLast?_append_of_ne_nil _ (List.cons_ne_nil _ _),
      List.getLast?_cons_of_ne_nil hrest] at hlast
    exact .inr hlast

section
variable {front back : List UInt8} {earlier later : List Line}

theorem Cut.append (h : Cut front earlier) (hfront : Terminated front) (hback : Cut back later) :
    Cut (front ++ back) (earlier ++ later) := by
  induction h with
  | nil => exact hback
  | last hbody hne => exact absurd (List.mem_of_getLast? (hfront.resolve_left hne)) hbody
  | line hbody _ ih =>
    rw [List.append_assoc, List.cons_append]
    exact .line hbody (ih hfront.of_append)

theorem Cut.length_eq (h : Cut front earlier) (hfront : Terminated front) :
    earlier.length = front.count lineFeed := by
  induction h with
  | nil => rfl
  | last hbody hne => exact absurd (List.mem_of_getLast? (hfront.resolve_left hne)) hbody
  | line hbody _ ih =>
    rw [List.length_cons, ih hfront.of_append, List.count_append, List.count_cons_self,
      List.count_eq_zero.2 hbody, Nat.zero_add]

theorem lines_append_of_terminated (h : Terminated front) (back : List UInt8) :
    lines (front ++ back) = lines front ++ lines back :=
  ((cut_lines front).append h (cut_lines back)).lines_eq

theorem length_lines (h : Terminated front) : (lines front).length = front.count lineFeed :=
  (cut_lines front).length_eq h

end

/-! ## Carriage returns -/

def carriageReturn : UInt8 := 13

inductive LineEnding
  | feed
  | returnFeed

/-- The characters in front of the line feed. -/
def LineEnding.returns : LineEnding → List Char
  | feed => []
  | returnFeed => ['\r']

theorem dropReturn_concat (cs : List Char) : dropReturn (cs ++ ['\r']) = cs := by
  rw [dropReturn, if_pos List.getLast?_concat, List.dropLast_concat]

theorem dropReturn_of_getLast?_ne {cs : List Char} (h : cs.getLast? ≠ some '\r') :
    dropReturn cs = cs := if_neg h

/-- A carriage return is dropped or nothing is. -/
theorem eq_dropReturn_append (cs : List Char) :
    cs = dropReturn cs ∨ cs = dropReturn cs ++ ['\r'] := by
  by_cases h : cs.getLast? = some '\r'
  · rw [dropReturn, if_pos h]
    obtain ⟨init, rfl⟩ := List.getLast?_eq_some_iff.1 h
    rw [List.dropLast_concat]
    exact .inr rfl
  · exact .inl (dropReturn_of_getLast?_ne h).symm

theorem trim_dropReturn (cs : List Char) : Text.trim (dropReturn cs) = Text.trim cs := by
  rcases eq_dropReturn_append cs with h | h
  · rw [← h]
  · have hblank : Text.Blanks ['\r'] := by simp [Text.Blanks, Text.isBlank]
    rw [h, dropReturn_concat, Text.trim_append_right hblank]

theorem mem_of_mem_dropReturn {cs : List Char} {c : Char} (h : c ∈ dropReturn cs) : c ∈ cs := by
  rcases eq_dropReturn_append cs with heq | heq
  · exact heq ▸ h
  · rw [heq]
    exact List.mem_append_left _ h

/-- Only what follows another character is looked at. -/
theorem dropReturn_append_cons {c : Char} (h : c ≠ '\r') (front last : List Char) :
    dropReturn (front ++ c :: last) = front ++ c :: dropReturn last := by
  cases last with
  | nil =>
    have hlast : (front ++ [c]).getLast? ≠ some '\r' := by
      rw [List.getLast?_concat]
      exact fun heq => h (Option.some.inj heq)
    rw [dropReturn_of_getLast?_ne hlast, dropReturn_of_getLast?_ne (by simp)]
  | cons d rest =>
    have hlast : (front ++ c :: d :: rest).getLast? = (d :: rest).getLast? := by
      rw [List.getLast?_append, List.getLast?_cons_cons, List.getLast?_cons, Option.some_or]
    have hinit : (front ++ c :: d :: rest).dropLast = front ++ c :: (d :: rest).dropLast := by
      rw [List.dropLast_append_of_ne_nil (List.cons_ne_nil _ _), List.dropLast_cons_cons]
    rw [dropReturn, dropReturn, hlast, hinit]
    split <;> rfl

/-- Carriage returns are dropped from the end until there are none or the limit is reached. -/
theorem iterate_dropReturn_eq_iff {limit : Nat} {cs record : List Char} :
    dropReturn^[limit] cs = record ↔ ∃ returns ≤ limit,
      cs = record ++ List.replicate returns '\r' ∧
        (returns < limit → record.getLast? ≠ some '\r') := by
  induction limit generalizing cs with
  | zero => simp
  | succ limit ih =>
    rw [Function.iterate_succ_apply]
    by_cases hreturn : cs.getLast? = some '\r'
    · obtain ⟨front, rfl⟩ := List.getLast?_eq_some_iff.1 hreturn
      rw [dropReturn_concat, ih]
      constructor
      · rintro ⟨returns, hle, rfl, hlast⟩
        refine ⟨returns + 1, Nat.succ_le_succ hle, ?_, fun hlt => hlast (by omega)⟩
        rw [List.append_assoc, ← List.replicate_succ']
      · rintro ⟨returns, hle, hcs, hlast⟩
        cases returns with
        | zero =>
          rw [List.replicate_zero, List.append_nil] at hcs
          exact absurd (hcs ▸ hreturn) (hlast (Nat.succ_pos _))
        | succ returns =>
          rw [List.replicate_succ', ← List.append_assoc] at hcs
          exact ⟨returns, Nat.le_of_succ_le_succ hle, List.append_cancel_right hcs,
            fun hlt => hlast (by omega)⟩
    · rw [dropReturn_of_getLast?_ne hreturn, ih]
      have hnone : ∀ returns, cs = record ++ List.replicate returns '\r' → cs = record := by
        rintro (_ | returns) hcs
        · rwa [List.replicate_zero, List.append_nil] at hcs
        · rw [List.replicate_succ', ← List.append_assoc] at hcs
          exact absurd (hcs ▸ List.getLast?_concat) hreturn
      have hkept : ∀ limit, cs = record → ∃ returns ≤ limit,
          cs = record ++ List.replicate returns '\r' ∧
            (returns < limit → record.getLast? ≠ some '\r') := by
        rintro limit rfl
        exact ⟨0, Nat.zero_le _, (List.append_nil cs).symm, fun _ => hreturn⟩
      exact ⟨fun ⟨returns, _, hcs, _⟩ => hkept _ (hnone returns hcs),
        fun ⟨returns, _, hcs, _⟩ => hkept _ (hnone returns hcs)⟩

/-- The record on a line: its text up to one carriage return, which belongs to the line feed, and
one more. -/
def Line.Holds (line : Line) (record : List Char) : Prop :=
  let limit := if line.terminated then 2 else 1
  ∃ returns ≤ limit, line.body = octets (record ++ List.replicate returns '\r') ∧
    (returns < limit → record.getLast? ≠ some '\r')

theorem record?_eq_some_iff {line : Line} {record : List Char} :
    line.record? = some record ↔ line.Holds record := by
  have hiterate : ∀ cs, dropReturn (if line.terminated then dropReturn cs else cs) =
      dropReturn^[if line.terminated then 2 else 1] cs := by
    intro cs
    cases line.terminated <;> rfl
  simp only [Line.record?, Option.map_eq_some_iff, hiterate, iterate_dropReturn_eq_iff,
    Utf8.decode?_eq_some_iff]
  constructor
  · rintro ⟨cs, hbody, returns, hle, rfl, hlast⟩
    exact ⟨returns, hle, hbody, hlast⟩
  · rintro ⟨returns, hle, hbody, hlast⟩
    exact ⟨_, hbody, returns, hle, rfl, hlast⟩

theorem record?_eq_none_iff {line : Line} :
    line.record? = none ↔ ∀ text, line.body ≠ octets text := by
  rw [Line.record?, Option.map_eq_none_iff, Option.eq_none_iff_forall_ne_some]
  exact forall_congr' fun text => not_congr Utf8.decode?_eq_some_iff

theorem record?_octets (cs : List Char) :
    Line.record? ⟨octets cs, true⟩ = some (dropReturn (dropReturn cs)) := by
  rw [Line.record?, octets, Utf8.decode?_encode]
  rfl

end FirmwareTrace.SymbolCache
