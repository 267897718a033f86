import FirmwareTrace.Proofs.SymbolCache.Contents
import FirmwareTrace.Proofs.SymbolCache.Quoting
import Mathlib.Algebra.Ring.Nat

/-! # Layout of a symbol cache

A line feed may have a carriage return, and blank lines may stand between the others.  Neither is
of account, but for the numbers of the lines, `build_edited`.
-/
namespace FirmwareTrace.SymbolCache

/-- A source, another layout of it, and how many blank lines were put in front of each line and at
the end. -/
inductive Edited : List UInt8 → List Nat → List UInt8 → Prop
  | nil : Edited [] [0] []
  | last {body : List UInt8} (hbody : lineFeed ∉ body) (hne : body ≠ []) : Edited body [0] body
  | line {body source edited : List UInt8} {inserted : List Nat} (ending : LineEnding)
      (hbody : lineFeed ∉ body) (hrest : Edited source inserted edited) :
      Edited (body ++ lineFeed :: source) (0 :: inserted)
        (body ++ octets ending.returns ++ lineFeed :: edited)
  | blank {margin : List Char} {source edited : List UInt8} {count : Nat} {inserted : List Nat}
      (hmargin : Margin margin) (hrest : Edited source (count :: inserted) edited) :
      Edited source ((count + 1) :: inserted) (octets margin ++ lineFeed :: edited)

/-! ## Contents of lines -/

theorem contents_nil : contents [] = [] := by rw [contents, lines_nil, List.map_nil]

theorem contents_of_not_mem {body : List UInt8} (h : lineFeed ∉ body) (hne : body ≠ []) :
    contents body = [Line.content ⟨body, false⟩] := by
  rw [contents, lines_of_not_mem h hne, List.map_singleton]

theorem contents_line {body : List UInt8} (h : lineFeed ∉ body) (rest : List UInt8) :
    contents (body ++ lineFeed :: rest) = Line.content ⟨body, true⟩ :: contents rest := by
  rw [contents, lines_append h, List.map_cons, contents]

/-- A text ends with a carriage return only if its octets do. -/
theorem getLast?_ne_return {body : List UInt8} {cs : List Char}
    (h : body.getLast? ≠ some carriageReturn) (hdecode : Utf8.decode? body = some cs) :
    cs.getLast? ≠ some '\r' := by
  intro hlast
  obtain ⟨front, rfl⟩ := List.getLast?_eq_some_iff.1 hlast
  rw [Utf8.decode?_eq_some_iff.1 hdecode, Utf8.encode_ofList_append] at h
  have hreturn : Utf8.encode (String.ofList ['\r']) = [carriageReturn] := by decide
  rw [hreturn, List.getLast?_concat] at h
  exact h rfl

/-- A carriage return in front of the line feed does not belong to the record. -/
theorem record?_returnFeed {body : List UInt8} (h : body.getLast? ≠ some carriageReturn) :
    Line.record? ⟨body ++ [carriageReturn], true⟩ = Line.record? ⟨body, true⟩ := by
  have hconcat : Utf8.decode? (body ++ [carriageReturn]) = (Utf8.decode? body).map (· ++ ['\r']) :=
    Utf8.decode?_concat (by decide) body
  unfold Line.record?
  dsimp only
  rw [hconcat]
  cases hdecode : Utf8.decode? body with
  | none => rfl
  | some cs =>
    have hkept : dropReturn cs = cs := dropReturn_of_getLast?_ne (getLast?_ne_return h hdecode)
    simp only [Option.map_some, if_true, dropReturn_concat, hkept]

theorem content_ending {body : List UInt8} (h : body.getLast? ≠ some carriageReturn)
    (ending : LineEnding) :
    Line.content ⟨body ++ octets ending.returns, true⟩ = Line.content ⟨body, true⟩ := by
  cases ending with
  | feed =>
    have hnone : octets LineEnding.feed.returns = [] := by decide
    rw [hnone, List.append_nil]
  | returnFeed =>
    have hreturn : octets LineEnding.returnFeed.returns = [carriageReturn] := by decide
    rw [hreturn, Line.content, Line.content, record?_returnFeed h]

theorem content_margin {margin : List Char} (h : Margin margin) :
    Line.content ⟨octets margin, true⟩ = .blank := by
  have htrim : Text.trim (dropReturn (dropReturn margin)) = [] := by
    rw [trim_dropReturn, trim_dropReturn, Text.trim_eq_nil_iff.2 h.blank]
  rw [Line.content, record?_octets]
  exact if_pos htrim

theorem contents_ending {body : List UInt8} (ending : LineEnding) (hbody : lineFeed ∉ body)
    (hreturn : body.getLast? ≠ some carriageReturn) (rest : List UInt8) :
    contents (body ++ octets ending.returns ++ lineFeed :: rest)
      = Line.content ⟨body, true⟩ :: contents rest := by
  have hfeed : lineFeed ∉ body ++ octets ending.returns := by
    have hreturns : lineFeed ∉ octets ending.returns := by cases ending <;> decide
    exact fun hmem => (List.mem_append.1 hmem).elim hbody hreturns
  rw [contents_line hfeed, content_ending hreturn]

theorem contents_margin {margin : List Char} (h : Margin margin) (rest : List UInt8) :
    contents (octets margin ++ lineFeed :: rest) = .blank :: contents rest := by
  rw [contents_line (lineFeed_not_mem_octets h.oneLine), content_margin h]

/-! ## Edited sources -/

section

variable {source edited : List UInt8} {inserted : List Nat}

theorem definitions_edited (h : Edited source inserted edited)
    (hreturns : ∀ line ∈ lines source, line.body.getLast? ≠ some carriageReturn) :
    definitions (contents edited) = definitions (contents source) := by
  unfold definitions
  induction h with
  | nil => rfl
  | last => rfl
  | line ending hbody _ ih =>
    rw [lines_append hbody] at hreturns
    obtain ⟨hreturn, hrest⟩ := List.forall_mem_cons.1 hreturns
    rw [contents_ending ending hbody hreturn, contents_line hbody, List.filterMap_cons,
      List.filterMap_cons, ih hrest]
  | blank hmargin _ ih => rw [contents_margin hmargin, List.filterMap_cons_none rfl, ih hreturns]

/-- From a line on, a line is reported by its number and that of the blank lines put in front of
it. -/
theorem firstFault_edited (h : Edited source inserted edited)
    (hreturns : ∀ line ∈ lines source, line.body.getLast? ≠ some carriageReturn) (f : Nat → Nat)
    (number shift : Nat)
    (hf : ∀ i, f (number + i) = number + i + shift + (inserted.take (i + 1)).sum) :
    firstFault (number + shift) (contents edited)
      = (firstFault number (contents source)).map (renumber f) := by
  induction h generalizing number shift with
  | nil => rw [contents_nil]; rfl
  | last hbody hne =>
    have hnumber : f number = number + shift := by simpa using hf 0
    rw [contents_of_not_mem hbody hne, firstFault, firstFault, firstFault, firstFault,
      Option.or_none, Option.or_none, ← hnumber, Content.fault?_renumber]
  | line ending hbody _ ih =>
    rw [lines_append hbody] at hreturns
    obtain ⟨hreturn, hrest⟩ := List.forall_mem_cons.1 hreturns
    have hnumber : f number = number + shift := by simpa using hf 0
    have hlater := ih hrest (number + 1) shift fun i => by
      have hnext := hf (i + 1)
      rw [List.take_succ_cons, List.sum_cons, Nat.zero_add] at hnext
      rw [Nat.add_assoc, Nat.add_comm 1, hnext]
    rw [contents_ending ending hbody hreturn, contents_line hbody, firstFault, firstFault,
      Option.map_or, ← hlater, ← Content.fault?_renumber, hnumber, Nat.add_right_comm]
  | blank hmargin _ ih =>
    -- the blank line counts as a shift of all lines behind it
    have hlater := ih hreturns number (shift + 1) fun i => by
      rw [hf, List.take_succ_cons, List.take_succ_cons, List.sum_cons, List.sum_cons]
      omega
    rw [contents_margin hmargin, firstFault, ← hlater]
    rfl

end

/-- Carriage returns before line feeds and blank lines between the others change nothing but the
number of the line that is reported. -/
theorem build_edited {source edited : List UInt8} {inserted : List Nat}
    (hreturns : ∀ line ∈ lines source, line.body.getLast? ≠ some carriageReturn)
    (h : Edited source inserted edited) :
    build edited
      = (build source).mapError (renumber fun number => number + (inserted.take number).sum) := by
  have hfault := firstFault_edited h hreturns (fun number => number + (inserted.take number).sum)
    1 0 fun i => by rw [Nat.add_comm 1, Nat.add_zero]
  rw [build_eq, build_eq, outcome, outcome, hfault, definitions_edited h hreturns]
  cases firstFault 1 (contents source) <;> rfl

def malformedText : List UInt8 := octets "1,3,idle.c,core,,,,,,\nbad\n1,3".toList

/-- The same with a line in front and two more before the malformed one. -/
def spacedText : List UInt8 :=
  octets "\u3000\r\n1,3,idle.c,core,,,,,,\r\n\n \nbad\r\n1,3".toList

theorem edited_spacedText : Edited malformedText [1, 2, 0] spacedText := by
  have hsource : malformedText = octets "1,3,idle.c,core,,,,,,".toList
      ++ lineFeed :: (octets "bad".toList ++ lineFeed :: octets "1,3".toList) := by decide
  have hedited : spacedText = octets "\u3000\r".toList
      ++ lineFeed :: (octets "1,3,idle.c,core,,,,,,".toList ++ octets LineEnding.returnFeed.returns
      ++ lineFeed :: (octets [] ++ lineFeed :: (octets [' ']
      ++ lineFeed :: (octets "bad".toList ++ octets LineEnding.returnFeed.returns
      ++ lineFeed :: octets "1,3".toList)))) := by decide
  rw [hsource, hedited]
  have hlast : Edited (octets "1,3".toList) [0] (octets "1,3".toList) :=
    .last (by decide) (by decide)
  exact .blank (by decide) (.line .returnFeed (by decide)
    (.blank (by decide) (.blank (by decide) (.line .returnFeed (by decide) hlast))))

theorem build_edited_spacedText :
    (∀ line ∈ lines malformedText, line.body.getLast? ≠ some carriageReturn) ∧
    Edited malformedText [1, 2, 0] spacedText ∧
    build malformedText = .error (.badRecord 2 "bad") ∧
    build spacedText = .error (.badRecord 5 "bad") := by
  have hreturns : ∀ line ∈ lines malformedText, line.body.getLast? ≠ some carriageReturn := by
    decide +kernel
  have hbuild : build malformedText = .error (.badRecord 2 "bad") :=
    build_eq_error_iff.2 (by decide +kernel)
  refine ⟨hreturns, edited_spacedText, hbuild, ?_⟩
  rw [build_edited hreturns edited_spacedText, hbuild]
  rfl

end FirmwareTrace.SymbolCache
