import FirmwareTrace.Proofs.Template.Octets

/-! # Rendering by octet positions

A scanner walks over the octets of a template, looks for percent signs, and copies slices of the
template in between.  It may stop inside a character, but every slice it takes lies between
characters, and it writes what rendering the pieces of the template writes, `slices_sound`.
-/
namespace FirmwareTrace.Template
open String (utf8Len)

/-- Two octet positions in a template. -/
structure Slice where
  start : Nat
  stop : Nat
  deriving DecidableEq, Repr

/-- The positions are in order and between characters of the template. -/
structure Slice.Sound (template : String) (slice : Slice) : Prop where
  le : slice.start ≤ slice.stop
  start : (String.Pos.Raw.mk slice.start).IsValid template
  stop : (String.Pos.Raw.mk slice.stop).IsValid template

/-- The characters between the positions. -/
def Slice.text (template : String) (slice : Slice) : List Char :=
  (String.Pos.Raw.extract template ⟨slice.start⟩ ⟨slice.stop⟩).toList

/-- What the scanner holds between two steps. -/
structure Scanner where
  /-- The position from which the template is not copied yet. -/
  literal : Nat
  index : Nat
  text : List Char
  args : Arguments
  /-- The slices taken so far. -/
  slices : List Slice

namespace Scanner

variable (template : String)

def copy (scanner : Scanner) (slice : Slice) : Scanner :=
  { scanner with
    text := scanner.text ++ slice.text template
    slices := scanner.slices ++ [slice] }

def write (scanner : Scanner) (written : List Char × Arguments) : Scanner :=
  { scanner with text := scanner.text ++ written.1, args := written.2 }

def moveTo (scanner : Scanner) (index : Nat) : Scanner := { scanner with literal := index, index }

/-- One octet, or all of what starts at a percent sign. -/
def step (scanner : Scanner) : Scanner :=
  if at? (Utf8.encode template) scanner.index = some '%' then
    let copied := scanner.copy template ⟨scanner.literal, scanner.index⟩
    match parse (Utf8.encode template) (scanner.index + 1) with
    | .directive spec stop =>
      match spec.conversion? with
      | none => (copied.copy template ⟨scanner.index, stop⟩).moveTo stop
      | some _ => (copied.write (spec.write copied.args)).moveTo stop
    | .percent stop => (copied.write (['%'], copied.args)).moveTo stop
    | .incomplete => (copied.write (['%'], copied.args)).moveTo (scanner.index + 1)
  else { scanner with index := scanner.index + 1 }

theorem index_lt_step (scanner : Scanner) : scanner.index < (scanner.step template).index := by
  unfold step
  split
  · have hbeyond := beyond_parse (Utf8.encode template) (scanner.index + 1)
    dsimp only
    split <;> rename_i hparse <;> rw [hparse] at hbeyond
    · split <;> exact Nat.lt_of_succ_lt hbeyond
    · exact Nat.lt_of_succ_lt hbeyond
    · exact Nat.lt_succ_self _
  · exact Nat.lt_succ_self _

/-- Takes steps up to the end of the template. -/
def run (scanner : Scanner) : Scanner :=
  if scanner.index < template.utf8ByteSize then run (scanner.step template) else scanner
termination_by template.utf8ByteSize - scanner.index
decreasing_by
  have := scanner.index_lt_step template
  omega

/-- The positions at which steps are taken. -/
def visited (scanner : Scanner) : List Nat :=
  if scanner.index < template.utf8ByteSize then
    scanner.index :: visited (scanner.step template)
  else []
termination_by template.utf8ByteSize - scanner.index
decreasing_by
  have := scanner.index_lt_step template
  omega

def ofWords (words : List UInt32) : Scanner := ⟨0, 0, [], { words }, []⟩

/-- Copies what is left after the last step. -/
def finish (scanner : Scanner) : Scanner :=
  (scanner.run template).copy template
    ⟨(scanner.run template).literal, template.utf8ByteSize⟩

/-! ## Steps -/

theorem visited_bounds (scanner : Scanner) :
    ∀ index ∈ scanner.visited template,
      scanner.index ≤ index ∧ index < template.utf8ByteSize := by
  fun_induction visited template scanner with
  | case1 scanner hlt ih =>
    have hstep := scanner.index_lt_step template
    refine List.forall_mem_cons.2 ⟨⟨Nat.le_refl _, hlt⟩, fun index hindex => ?_⟩
    have hbounds := ih index hindex
    omega
  | case2 scanner hlt => exact List.forall_mem_nil _

theorem pairwise_visited (scanner : Scanner) :
    (scanner.visited template).Pairwise (· < ·) := by
  fun_induction visited template scanner with
  | case1 scanner hlt ih =>
    refine List.pairwise_cons.2 ⟨fun index hindex => ?_, ih⟩
    exact Nat.lt_of_lt_of_le (scanner.index_lt_step template)
      (visited_bounds template _ index hindex).1
  | case2 scanner hlt => exact List.Pairwise.nil

theorem length_visited_le (scanner : Scanner) :
    (scanner.visited template).length ≤ template.utf8ByteSize - scanner.index := by
  fun_induction visited template scanner with
  | case1 scanner hlt ih =>
    have hstep := scanner.index_lt_step template
    rw [List.length_cons]
    omega
  | case2 scanner hlt => exact Nat.zero_le _

end Scanner

/-! ## Slices -/

variable {template : String} {done pending rest more : List Char}

/-- Characters of a template have their positions between characters. -/
theorem sound_of_split (h : template.toList = done ++ pending ++ rest) :
    (Slice.mk (utf8Len done) (utf8Len (done ++ pending))).Sound template ∧
      (Slice.mk (utf8Len done) (utf8Len (done ++ pending))).text template = pending := by
  have hvalid (front back : List Char) (hsplit : template.toList = front ++ back) :
      (String.Pos.Raw.mk (utf8Len front)).IsValid template := by
    refine String.Pos.Raw.isValid_iff_exists_append.2
      ⟨String.ofList front, String.ofList back, ?_, ?_⟩
    · rw [← String.ofList_append, ← hsplit, String.ofList_toList]
    · rw [← String.utf8ByteSize_ofList]
      rfl
  have htext : template = String.ofList (done ++ pending ++ rest) := by
    rw [← h, String.ofList_toList]
  refine ⟨⟨?_, ?_, hvalid _ _ h⟩, ?_⟩
  · simp only [String.utf8Len_append]
    exact Nat.le_add_right _ _
  · exact hvalid done (pending ++ rest) (by rw [h, List.append_assoc])
  · rw [Slice.text, String.utf8Len_append, htext]
    simp only [String.extract_of_valid, String.toList_ofList]

/-! ## In step with the pieces -/

/-- A specification holds ASCII characters only. -/
theorem Spec.Scanned.ascii {spec : Spec} (h : spec.Scanned) : ∀ c ∈ spec.tail, c.toNat < 128 := by
  have hcount {run : List Char} (hrun : CountRun run) : ∀ c ∈ run, c.toNat < 128 := by
    rcases hrun with rfl | hdigits
    · exact List.forall_mem_singleton.2 (by decide)
    · exact fun c hc => asciiOnly_isDigit c (hdigits c hc)
  have hprecision : ∀ c ∈ spec.precision.elim [] fun p => '.' :: p, c.toNat < 128 := by
    cases hrun : spec.precision with
    | none => exact List.forall_mem_nil _
    | some run => exact List.forall_mem_cons.2 ⟨by decide, hcount (h.precision run hrun)⟩
  simp only [Spec.tail, List.forall_mem_append, List.forall_mem_singleton]
  exact ⟨⟨⟨⟨fun c hc => asciiOnly_isFlag c (h.flags c hc), hcount h.width⟩, hprecision⟩,
    fun c hc => asciiOnly_isModifier c (h.modifiers c hc)⟩, h.letter⟩

namespace Scanner

/-- The scanner stands between characters: those before `pending` are copied, those from `rest` on
are still to be read. -/
structure Stands (template : String) (scanner : Scanner) (done pending rest : List Char) :
    Prop where
  split : template.toList = done ++ pending ++ rest
  literal : scanner.literal = utf8Len done
  index : scanner.index = utf8Len (done ++ pending)

/-- The scanner comes to another, having written a text and taken sound slices only. -/
structure Leads (template : String) (scanner next : Scanner) (text : List Char) : Prop where
  run : scanner.run template = next.run template
  text : next.text = scanner.text ++ text
  slices : ∃ slices, next.slices = scanner.slices ++ slices ∧
    ∀ slice ∈ slices, slice.Sound template

/-- What the scanner comes to in the end: a text, the arguments left, and sound slices only. -/
structure Comes (template : String) (scanner : Scanner) (written : List Char × Arguments) :
    Prop where
  text : (scanner.finish template).text = scanner.text ++ written.1
  args : (scanner.finish template).args = written.2
  slices : ∃ slices, (scanner.finish template).slices = scanner.slices ++ slices ∧
    ∀ slice ∈ slices, slice.Sound template

variable {scanner next : Scanner} {text : List Char} {spec : Spec}

theorem Leads.comes {written : List Char × Arguments} (h : scanner.Leads template next text)
    (hnext : next.Comes template written) :
    scanner.Comes template (text ++ written.1, written.2) := by
  have hfinish : scanner.finish template = next.finish template := by
    rw [finish, finish, h.run]
  obtain ⟨front, hfront, hsound⟩ := h.slices
  obtain ⟨back, hback, hsound'⟩ := hnext.slices
  refine ⟨?_, ?_, front ++ back, ?_, List.forall_mem_append.2 ⟨hsound, hsound'⟩⟩
  · rw [hfinish, hnext.text, h.text, List.append_assoc]
  · rw [hfinish, hnext.args]
  · rw [hfinish, hback, hfront, List.append_assoc]

namespace Stands

variable (h : scanner.Stands template done pending rest)
include h

theorem suffix : Suffix (Utf8.encode template) scanner.index rest := by
  have hwhole : Suffix (Utf8.encode template) 0 (done ++ pending ++ rest) := by
    rw [Suffix, List.drop_zero, ← octetsOf_toList, h.split]
  rw [h.index, ← Nat.zero_add (utf8Len _)]
  exact hwhole.append

theorem size_eq : template.utf8ByteSize = scanner.index + utf8Len rest := by
  rw [h.index, ← String.utf8Len_append, ← h.split, ← String.utf8ByteSize_ofList,
    String.ofList_toList]

theorem copy_sound :
    (Slice.mk scanner.literal scanner.index).Sound template ∧
      (Slice.mk scanner.literal scanner.index).text template = pending := by
  rw [h.literal, h.index]
  exact sound_of_split h.split

/-- At the end of the template what is pending is copied. -/
theorem comes_of_nil (hrest : rest = []) : scanner.Comes template (pending, scanner.args) := by
  have hsize : template.utf8ByteSize = scanner.index := by
    rw [h.size_eq, hrest]
    rfl
  have hrun : scanner.run template = scanner := by
    rw [run, if_neg (Nat.not_lt.2 (Nat.le_of_eq hsize))]
  obtain ⟨hsound, htext⟩ := h.copy_sound
  rw [← hsize] at hsound htext
  refine ⟨?_, ?_, [_], ?_, List.forall_mem_singleton.2 hsound⟩
  · rw [finish, hrun, copy, htext]
  · rw [finish, hrun, copy]
  · rw [finish, hrun, copy]

end Stands

/-- Octets that are no percent signs are passed one by one. -/
theorem run_skip {n : Nat}
    (hplain : ∀ k < n, at? (Utf8.encode template) (scanner.index + k) ≠ some '%')
    (hsize : scanner.index + n ≤ template.utf8ByteSize) :
    scanner.run template = run template { scanner with index := scanner.index + n } := by
  induction n generalizing scanner with
  | zero => rfl
  | succ n ih =>
    have hhere : at? (Utf8.encode template) scanner.index ≠ some '%' := hplain 0 (Nat.succ_pos n)
    have hstep : scanner.step template = { scanner with index := scanner.index + 1 } := by
      rw [step, if_neg hhere]
    rw [run, if_pos (by omega), hstep, ih]
    · simp only [Nat.add_assoc, Nat.add_comm 1]
    · intro k hk
      have := hplain (k + 1) (by omega)
      rwa [Nat.add_comm k 1, ← Nat.add_assoc] at this
    · simp only
      omega

/-- No octet of plain text stands for a percent sign. -/
theorem at?_ne_percent {octets : List UInt8} {index k : Nat} {plain : List Char}
    (h : Suffix octets index (plain ++ rest)) (hplain : ∀ c ∈ plain, c ≠ '%')
    (hk : k < utf8Len plain) : at? octets (index + k) ≠ some '%' := by
  intro hpercent
  rw [← length_octetsOf] at hk
  rw [at?, ← List.getElem?_drop, h, octetsOf_append, List.getElem?_append_left hk,
    List.getElem?_eq_getElem hk, Option.map_some, Option.some.injEq] at hpercent
  obtain ⟨c, hc, hmem⟩ := List.mem_flatMap.1 (List.getElem_mem hk)
  have hascii : ((octetsOf plain)[k]).toNat < 0x80 := by
    rw [← toNat_ofOctet, hpercent]
    decide
  exact hplain c hc ((Utf8.mem_utf8EncodeChar hascii hmem).trans hpercent)

/-- Plain text becomes pending. -/
theorem Stands.leads_plain {plain : List Char}
    (h : scanner.Stands template done pending (plain ++ rest)) (hplain : ∀ c ∈ plain, c ≠ '%') :
    ∃ next, scanner.Leads template next [] ∧ next.args = scanner.args ∧
      next.Stands template done (pending ++ plain) rest := by
  have hsize := h.size_eq
  rw [String.utf8Len_append] at hsize
  refine ⟨{ scanner with index := scanner.index + utf8Len plain }, ⟨?_, ?_, [], ?_, ?_⟩, rfl,
    ⟨?_, h.literal, ?_⟩⟩
  · exact run_skip (fun k hk => at?_ne_percent h.suffix hplain hk) (by omega)
  · exact (List.append_nil _).symm
  · exact (List.append_nil _).symm
  · exact List.forall_mem_nil _
  · rw [h.split]
    simp only [List.append_assoc]
  · simp only [h.index, String.utf8Len_append]
    omega

/-- The scanner writes what is pending and then a piece, and comes to stand behind the piece. -/
def Takes (template : String) (scanner : Scanner) (done pending : List Char) (piece : Piece)
    (rest : List Char) : Prop :=
  ∃ next, scanner.Leads template next (pending ++ (piece.write scanner.args).1) ∧
    next.args = (piece.write scanner.args).2 ∧
    next.Stands template (done ++ pending ++ piece.source) [] rest

theorem Takes.comes {piece : Piece} (h : scanner.Takes template done pending piece rest)
    (hrest : ∀ {scanner : Scanner} {done pending : List Char},
      scanner.Stands template done pending rest →
        scanner.Comes template (pending ++ (writeAll (pieces rest) scanner.args).1,
          (writeAll (pieces rest) scanner.args).2)) :
    scanner.Comes template (pending ++ (writeAll (piece :: pieces rest) scanner.args).1,
      (writeAll (piece :: pieces rest) scanner.args).2) := by
  obtain ⟨next, hleads, hargs, hstands⟩ := h
  have hcomes := hleads.comes (hrest hstands)
  rwa [hargs, List.nil_append, List.append_assoc] at hcomes

section
variable {cs back : List Char} (h : scanner.Stands template done pending ('%' :: cs))
include h

/-- At a percent sign the scanner copies what is pending and goes on behind what it parses. -/
theorem Stands.run_percent :
    scanner.run template = (scanner.step template).run template ∧
      scanner.step template =
        let copied := scanner.copy template ⟨scanner.literal, scanner.index⟩
        match parsedOf (scanner.index + 1) cs with
        | .directive spec stop =>
          match spec.conversion? with
          | none => (copied.copy template ⟨scanner.index, stop⟩).moveTo stop
          | some _ => (copied.write (spec.write copied.args)).moveTo stop
        | .percent stop => (copied.write (['%'], copied.args)).moveTo stop
        | .incomplete => (copied.write (['%'], copied.args)).moveTo (scanner.index + 1) := by
  have hpercent : Passes (Utf8.encode template) scanner.index (scanner.index + 1) ['%'] cs :=
    h.suffix.passes_head (by decide)
  have hsize := h.size_eq
  rw [String.utf8Len_cons] at hsize
  have hpos : 0 < '%'.utf8Size := by decide
  constructor
  · rw [run, if_pos (by omega)]
  · rw [step, if_pos ((at?_eq_some_iff h.suffix (by decide)).2 rfl),
      parse_of_suffix hpercent.suffix]

theorem Stands.index_behind (source : List Char) :
    scanner.index + utf8Len source = utf8Len (done ++ pending ++ source) := by
  rw [h.index, String.utf8Len_append _ source]

/-- Moved behind what it read, a scanner stands there with nothing pending. -/
theorem Stands.moved {source : List Char} (hcs : '%' :: cs = source ++ back) (other : Scanner) :
    (other.moveTo (scanner.index + utf8Len source)).Stands template (done ++ pending ++ source) []
      back where
  split := by
    rw [h.split, hcs]
    simp only [List.append_assoc, List.nil_append]
  literal := h.index_behind source
  index := by
    rw [List.append_nil]
    exact h.index_behind source

theorem Stands.takes_of_write {piece : Piece} (hcs : '%' :: cs = piece.source ++ back)
    (hstep : scanner.step template = ((scanner.copy template ⟨scanner.literal, scanner.index⟩).write
      (piece.write scanner.args)).moveTo (scanner.index + utf8Len piece.source)) :
    scanner.Takes template done pending piece back := by
  obtain ⟨hsound, htext⟩ := h.copy_sound
  refine ⟨_, ⟨h.run_percent.1.trans (congrArg (run template) hstep), ?_, [_], rfl,
    List.forall_mem_singleton.2 hsound⟩, rfl, h.moved hcs _⟩
  simp only [moveTo, write, copy, htext, List.append_assoc]

/-- A piece that is copied is one more slice of the template. -/
theorem Stands.takes_of_copy {piece : Piece} (hcs : '%' :: cs = piece.source ++ back)
    (hpiece : piece.write scanner.args = (piece.source, scanner.args))
    (hstep : scanner.step template = ((scanner.copy template ⟨scanner.literal, scanner.index⟩).copy
      template ⟨scanner.index, scanner.index + utf8Len piece.source⟩).moveTo
        (scanner.index + utf8Len piece.source)) :
    scanner.Takes template done pending piece back := by
  obtain ⟨hsound, htext⟩ := h.copy_sound
  have hsplit : template.toList = done ++ pending ++ piece.source ++ back := by
    rw [h.split, hcs, List.append_assoc _ piece.source]
  obtain ⟨hsound', htext'⟩ := sound_of_split hsplit
  rw [← h.index_behind piece.source, ← h.index] at hsound' htext'
  rw [Takes, hpiece]
  refine ⟨_, ⟨h.run_percent.1.trans (congrArg (run template) hstep), ?_, [_, _], ?_,
    List.forall_mem_cons.2 ⟨hsound, List.forall_mem_singleton.2 hsound'⟩⟩, rfl, h.moved hcs _⟩
  · simp only [moveTo, copy, htext, htext', List.append_assoc]
  · simp only [moveTo, copy, List.append_assoc, List.cons_append, List.nil_append]

theorem Stands.takes_percent (hcs : cs = '%' :: back) :
    scanner.Takes template done pending .percent back := by
  subst hcs
  exact h.takes_of_write rfl h.run_percent.2

theorem Stands.takes_stray {why : Stray} (hdouble : cs.head? ≠ some '%')
    (hscan : scanSpec cs = .error why) : scanner.Takes template done pending (.stray why) cs := by
  have hstep := h.run_percent.2
  rw [parsedOf, if_neg hdouble, hscan] at hstep
  exact h.takes_of_write rfl hstep

theorem Stands.takes_directive {spec : Spec} (hdouble : cs.head? ≠ some '%')
    (hscan : scanSpec cs = .ok (spec, back)) :
    scanner.Takes template done pending (.directive spec) back := by
  have hcs : '%' :: cs = (Piece.directive spec).source ++ back := by
    rw [Piece.source, List.cons_append, tail_append_of_scanSpec hscan]
  have hascii : ∀ c ∈ '%' :: spec.tail, c.toNat < 128 :=
    List.forall_mem_cons.2 ⟨by decide, (Spec.scanned_of_scanSpec hscan).ascii⟩
  have hstop : scanner.index + 1 + spec.tail.length
      = scanner.index + utf8Len (Piece.directive spec).source := by
    rw [Piece.source, utf8Len_of_ascii hascii, List.length_cons]
    omega
  have hstep := h.run_percent.2
  rw [parsedOf, if_neg hdouble, hscan] at hstep
  dsimp only at hstep
  rw [hstop] at hstep
  cases hconversion : spec.conversion? with
  | none =>
    rw [hconversion] at hstep
    exact h.takes_of_copy hcs (Spec.write_of_none hconversion scanner.args) hstep
  | some conversion =>
    rw [hconversion] at hstep
    exact h.takes_of_write hcs hstep

end

/-- The scanner writes what is pending, and then the pieces of what is still to be read. -/
theorem Stands.comes (h : scanner.Stands template done pending rest) :
    scanner.Comes template (pending ++ (writeAll (pieces rest) scanner.args).1,
      (writeAll (pieces rest) scanner.args).2) := by
  have hhead {cs : List Char} (hdouble : ∀ more, cs = '%' :: more → False) :
      cs.head? ≠ some '%' := fun hpercent =>
    (List.head?_eq_some_iff.1 hpercent).elim hdouble
  fun_induction pieces rest generalizing scanner done pending with
  | case1 =>
    have hcomes := h.comes_of_nil rfl
    rwa [← List.append_nil pending] at hcomes
  | case2 back ih => exact (h.takes_percent rfl).comes ih
  | case3 cs hdouble spec back hscan _ ih =>
    exact (h.takes_directive (hhead hdouble) hscan).comes ih
  | case4 cs hdouble why hscan ih => exact (h.takes_stray (hhead hdouble) hscan).comes ih
  | case5 c cs hdouble hne ih =>
    -- the text up to the next percent sign, or up to the end
    have hplain : ∀ d ∈ c :: cs.takeWhile (· != '%'), d ≠ '%' := by
      refine List.forall_mem_cons.2 ⟨hne, fun d hd => ?_⟩
      simpa using List.all_eq_true.1 List.all_takeWhile d hd
    have hsplit : c :: cs
        = (c :: cs.takeWhile (· != '%')) ++ cs.dropWhile (· != '%') := by
      rw [List.cons_append, List.takeWhile_append_dropWhile]
    rw [hsplit] at h
    obtain ⟨next, hleads, hargs, hstands⟩ := h.leads_plain hplain
    have hcomes := hleads.comes (ih hstands)
    rw [hargs, List.nil_append, List.append_assoc] at hcomes
    exact hcomes

end Scanner

/-! ## Characters outside ASCII -/

def outsideAscii (cs : List Char) : List Char := cs.filter fun c => 128 ≤ c.toNat

theorem outsideAscii_eq_nil {cs : List Char} (h : ∀ c ∈ cs, c.toNat < 128) :
    outsideAscii cs = [] := by
  refine List.filter_eq_nil_iff.2 fun c hc => ?_
  have := h c hc
  simpa using this

theorem outsideAscii_append (front back : List Char) :
    outsideAscii (front ++ back) = outsideAscii front ++ outsideAscii back :=
  List.filter_append front back

theorem Parts.ascii_place {parts : Parts} (h : ∀ c ∈ parts.mark ++ parts.body, c.toNat < 128)
    (layout : Layout) (zeroFills : Bool) :
    ∀ c ∈ parts.place layout zeroFills, c.toNat < 128 := by
  have hfill (fill : Char) (hfill : fill.toNat < 128) (n : Nat) :
      ∀ c ∈ List.replicate n fill, c.toNat < 128 := by
    intro c hc
    rwa [List.eq_of_mem_replicate hc]
  have hspaces := hfill ' ' (by decide)
  have hzeros := hfill '0' (by decide)
  obtain ⟨hmark, hbody⟩ := List.forall_mem_append.1 h
  unfold place
  dsimp only
  split
  · exact List.forall_mem_append.2 ⟨h, hspaces _⟩
  · split
    · exact List.forall_mem_append.2 ⟨List.forall_mem_append.2 ⟨hmark, hzeros _⟩, hbody⟩
    · exact List.forall_mem_append.2 ⟨hspaces _, h⟩

/-- The piece is a specification that prints a word as a character. -/
def Piece.PrintsCharacter : Piece → Prop
  | .directive spec => spec.conversion? = some .character
  | _ => False

instance : DecidablePred Piece.PrintsCharacter
  | .directive spec => inferInstanceAs (Decidable (spec.conversion? = some .character))
  | .text _ => .isFalse id
  | .percent => .isFalse id
  | .stray _ => .isFalse id

/-- Only a character conversion writes what is outside ASCII and not in the template. -/
theorem Piece.outsideAscii_write {piece : Piece} (hscanned : piece.Scanned)
    (hpiece : ¬piece.PrintsCharacter) (args : Arguments) :
    outsideAscii (piece.write args).1 = outsideAscii piece.source := by
  cases piece with
  | text run => rfl
  | percent => rfl
  | stray why => rfl
  | directive spec =>
    cases hconversion : spec.conversion? with
    | none => rw [Piece.write, Spec.write_of_none hconversion, Piece.source]
    | some conversion =>
      have hcharacter : conversion ≠ .character := fun heq =>
        hpiece (hconversion.trans (congrArg some heq))
      have hsource : ∀ c ∈ (Piece.directive spec).source, c.toNat < 128 :=
        List.forall_mem_cons.2 ⟨by decide, Spec.Scanned.ascii hscanned⟩
      have hparts := conversion.fits_parts (spec.clamped_resolve args) (args.word spec.stars)
        hcharacter
      rw [outsideAscii_eq_nil hsource, Piece.write, Spec.write_of_some hconversion]
      exact outsideAscii_eq_nil
        (Parts.ascii_place (fun c hc => utf8Size_eq_one_iff.1 (hparts.narrow c hc)) _ _)

theorem outsideAscii_writeAll {pieces : List Piece} (hscanned : ∀ piece ∈ pieces, piece.Scanned)
    (hpieces : ∀ piece ∈ pieces, ¬piece.PrintsCharacter) (args : Arguments) :
    outsideAscii (writeAll pieces args).1 = outsideAscii (pieces.flatMap Piece.source) := by
  induction pieces generalizing args with
  | nil => rfl
  | cons piece rest ih =>
    obtain ⟨hscanned, hrest⟩ := List.forall_mem_cons.1 hscanned
    obtain ⟨hpiece, hpieces⟩ := List.forall_mem_cons.1 hpieces
    rw [writeAll, outsideAscii_append, Piece.outsideAscii_write hscanned hpiece,
      ih hrest hpieces, List.flatMap_cons, outsideAscii_append]

/-- Rendering a template octet by octet, on any template and words.  Every slice that is taken
lies in the template between two characters, every step moves the index forward, so that there is
at most one step an octet, and what is written is the rendered template.  Without a character
conversion the characters outside ASCII are those of the template. -/
theorem slices_sound (template : String) (words : List UInt32) :
    let start := Scanner.ofWords words
    let last := start.finish template
    (∀ slice ∈ last.slices, slice.Sound template) ∧
      (∀ scanner : Scanner, scanner.index < (scanner.step template).index) ∧
      (start.visited template).Pairwise (· < ·) ∧
      (start.visited template).length ≤ template.utf8ByteSize ∧
      format template words = ⟨String.ofList last.text, last.args.consumed, last.args.missing⟩ ∧
      ((∀ piece ∈ pieces template.toList, ¬piece.PrintsCharacter) →
        outsideAscii (format template words).text.toList = outsideAscii template.toList) := by
  intro start last
  have hstands : start.Stands template [] [] template.toList := ⟨rfl, rfl, rfl⟩
  obtain ⟨htext, hargs, slices, hslices, hsound⟩ := hstands.comes
  refine ⟨?_, fun scanner => scanner.index_lt_step template, start.pairwise_visited template,
    start.length_visited_le template, ?_, fun hpieces => ?_⟩
  · rwa [hslices]
  · rw [format, htext, hargs]
    rfl
  · rw [format, String.toList_ofList, outsideAscii_writeAll (scanned_pieces _) hpieces,
      flatMap_source_pieces]

/-- Specifications that break off inside a character, and slices on both sides of it. -/
theorem slices_sound_broken_off :
    let template := "é%-5é%.*yß%5u"
    let start := Scanner.ofWords [7]
    let last := start.finish template
    (∀ piece ∈ pieces template.toList, ¬piece.PrintsCharacter) ∧
      last.slices = [⟨0, 2⟩, ⟨3, 7⟩, ⟨7, 11⟩, ⟨11, 13⟩, ⟨16, 16⟩] ∧
      (∀ slice ∈ last.slices, slice.Sound template) ∧
      start.visited template = [0, 1, 2, 3, 4, 5, 6, 7, 11, 12, 13] ∧
      format template [7] = ⟨String.ofList last.text, last.args.consumed, last.args.missing⟩ ∧
      outsideAscii (format template [7]).text.toList = outsideAscii template.toList := by
  intro template start last
  have hpieces : ∀ piece ∈ pieces template.toList, ¬piece.PrintsCharacter := by
    decide +kernel
  obtain ⟨hslices, -, -, -, hformat, houtside⟩ := slices_sound template [7]
  exact ⟨hpieces, by decide +kernel, hslices, by decide +kernel, hformat, houtside hpieces⟩

end FirmwareTrace.Template
