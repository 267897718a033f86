import FirmwareTrace.Proofs.Template.Scanning

/-! # The words that a template asks for

A template asks for a number of words that is its own, `demand`: one for each supported
conversion and one for each `*` in it.  It takes the words that are there and counts the others
as missing, `writeAll_snd`, and what it prints depends on no word that it does not ask for,
`writeAll_congr`.
-/
namespace FirmwareTrace.Template

/-! ## Requests -/

namespace Arguments

/-- The word that is got after `index` requests: zero when none is left. -/
def word (args : Arguments) (index : Nat) : UInt32 := args.words.getD index 0

/-- What a number of requests leaves, and how they went. -/
def after (args : Arguments) (count : Nat) : Arguments where
  words := args.words.drop count
  consumed := args.consumed + min args.words.length count
  missing := args.missing + (count - min args.words.length count)

theorem next_eq (args : Arguments) : args.next = (args.word 0, args.after 1) := by
  obtain ⟨words, consumed, missing⟩ := args
  cases words <;> simp [next, word, after]

@[simp] theorem after_zero (args : Arguments) : args.after 0 = args := by
  simp [after]

@[simp] theorem after_after (args : Arguments) (count more : Nat) :
    (args.after count).after more = args.after (count + more) := by
  simp only [after, List.drop_drop, List.length_drop, mk.injEq, true_and]
  omega

@[simp] theorem word_after (args : Arguments) (count index : Nat) :
    (args.after count).word index = args.word (count + index) := by
  simp [word, after]

/-- The first `count` requests get the same words. -/
def Agree (count : Nat) (args others : Arguments) : Prop :=
  ∀ index < count, args.word index = others.word index

variable {args others : Arguments} {count more : Nat}

theorem Agree.mono (h : Agree more args others) (hle : count ≤ more) : Agree count args others :=
  fun index hlt => h index (Nat.lt_of_lt_of_le hlt hle)

theorem Agree.after (h : Agree (count + more) args others) :
    Agree more (args.after count) (others.after count) := by
  intro index hlt
  simp only [word_after]
  exact h _ (by omega)

end Arguments

/-! ## One specification -/

/-- A width or a precision asks for a word if it is a `*`. -/
def Count.asks : Count → Nat
  | .argument => 1
  | _ => 0

/-- The words for the width and the precision. -/
def Spec.stars (spec : Spec) : Nat := spec.widthCount.asks + spec.precisionCount.asks

section
variable {args others : Arguments}
open Arguments

theorem Count.resolveWidth_snd (count : Count) (args : Arguments) :
    (count.resolveWidth args).2 = args.after count.asks := by
  cases count <;> simp [resolveWidth, asks, next_eq]

theorem Count.resolvePrecision_snd (count : Count) (args : Arguments) :
    (count.resolvePrecision args).2 = args.after count.asks := by
  cases count <;> simp [resolvePrecision, asks, next_eq]

theorem Count.resolveWidth_congr {count : Count} (h : Agree count.asks args others) :
    (count.resolveWidth args).1 = (count.resolveWidth others).1 := by
  cases count with
  | absent => rfl
  | fixed n => rfl
  | argument => simp only [resolveWidth, next_eq, h 0 Nat.one_pos]

theorem Count.resolvePrecision_congr {count : Count} (h : Agree count.asks args others) :
    (count.resolvePrecision args).1 = (count.resolvePrecision others).1 := by
  cases count with
  | absent => rfl
  | fixed n => rfl
  | argument => simp only [resolvePrecision, next_eq, h 0 Nat.one_pos]

theorem Spec.resolve_snd (spec : Spec) (args : Arguments) :
    (spec.resolve args).2 = args.after spec.stars := by
  simp [resolve, stars, Count.resolveWidth_snd, Count.resolvePrecision_snd]

theorem Spec.resolve_congr {spec : Spec} (h : Agree spec.stars args others) :
    (spec.resolve args).1 = (spec.resolve others).1 := by
  have hwidth := Count.resolveWidth_congr (h.mono (Nat.le_add_right _ spec.precisionCount.asks))
  have hprecision := Count.resolvePrecision_congr h.after
  simp only [resolve, hwidth, Count.resolveWidth_snd, hprecision]

theorem Spec.write_of_some {spec : Spec} {conversion : Conversion}
    (h : spec.conversion? = some conversion) (args : Arguments) :
    spec.write args =
      ((conversion.parts (spec.resolve args).1 (args.word spec.stars)).place
        (spec.resolve args).1 conversion.zeroFills, args.after (spec.stars + 1)) := by
  simp [write, h, next_eq, resolve_snd]

theorem Spec.write_of_none {spec : Spec} (h : spec.conversion? = none) (args : Arguments) :
    spec.write args = ('%' :: spec.tail, args) := by
  simp [write, h]

end

/-! ## Stars in a specification -/

theorem count_star_countRun {run : List Char} (h : CountRun run) :
    run.count '*' = (Count.ofRun run).asks := by
  rcases h with rfl | hdigits
  · rfl
  · have hstar : '*' ∉ run := fun hmem => absurd (hdigits _ hmem) (by decide)
    rw [List.count_eq_zero.2 hstar]
    fun_cases Count.ofRun run with
    | case1 => rfl
    | case2 => simp at hstar
    | case3 => rfl

namespace Spec

theorem count_star_width {spec : Spec} (h : spec.Scanned) :
    spec.width.count '*' = spec.widthCount.asks :=
  count_star_countRun h.width

theorem count_star_precision {spec : Spec} (h : spec.Scanned) :
    (spec.precision.elim [] fun run => '.' :: run).count '*' = spec.precisionCount.asks := by
  unfold precisionCount
  split
  · rename_i hnone
    simp [hnone, Count.asks]
  · rename_i hempty
    simp [hempty, Count.asks]
  · rename_i run hnonempty hrun
    simp [hrun, count_star_countRun (h.precision run hrun)]

/-- The stars of a specification stand for its width and its precision. -/
theorem count_star_tail {spec : Spec} (h : spec.Scanned) (hletter : spec.letter ≠ '*') :
    spec.tail.count '*' = spec.stars := by
  have hflags : '*' ∉ spec.flags := fun hmem => absurd (h.flags _ hmem) (by decide)
  have hmodifiers : '*' ∉ spec.modifiers := fun hmem => absurd (h.modifiers _ hmem) (by decide)
  simp [tail, List.count_append, List.count_eq_zero.2 hflags, List.count_eq_zero.2 hmodifiers,
    hletter, count_star_width h, count_star_precision h, stars]

end Spec

/-! ## All pieces -/

/-- The words that a piece asks for: one for each `*` in it and one for the conversion, if it is
supported. -/
def Piece.demand : Piece → Nat
  | .directive spec => if spec.conversion?.isSome then spec.tail.count '*' + 1 else 0
  | _ => 0

/-- The words that pieces ask for, one after the other. -/
def demandOf : List Piece → Nat
  | [] => 0
  | piece :: rest => piece.demand + demandOf rest

/-- The words that a template asks for. -/
def demand (template : String) : Nat := demandOf (pieces template.toList)

theorem Spec.demand_of_some {spec : Spec} {conversion : Conversion} (h : spec.Scanned)
    (hconversion : spec.conversion? = some conversion) :
    (Piece.directive spec).demand = spec.stars + 1 := by
  have hletter : spec.letter ≠ '*' := by
    intro hstar
    rw [conversion?, hstar] at hconversion
    cases hconversion
  rw [Piece.demand, hconversion, count_star_tail h hletter]
  rfl

section
variable {args others : Arguments} {piece : Piece} {pieces : List Piece}

theorem Piece.write_snd (h : piece.Scanned) (args : Arguments) :
    (piece.write args).2 = args.after piece.demand := by
  cases piece with
  | text run => exact args.after_zero.symm
  | percent => exact args.after_zero.symm
  | stray why => exact args.after_zero.symm
  | directive spec =>
    cases hconversion : spec.conversion? with
    | none => simp [write, Spec.write_of_none hconversion, demand, hconversion]
    | some conversion =>
      rw [write, Spec.write_of_some hconversion, Spec.demand_of_some h hconversion]

theorem Piece.write_congr (h : piece.Scanned)
    (hagree : Arguments.Agree piece.demand args others) :
    (piece.write args).1 = (piece.write others).1 := by
  cases piece with
  | text run => rfl
  | percent => rfl
  | stray why => rfl
  | directive spec =>
    cases hconversion : spec.conversion? with
    | none => simp [write, Spec.write_of_none hconversion]
    | some conversion =>
      rw [Spec.demand_of_some h hconversion] at hagree
      simp only [write, Spec.write_of_some hconversion, hagree spec.stars (Nat.lt_succ_self _),
        Spec.resolve_congr (hagree.mono (Nat.le_succ _))]

/-- The run, along its pieces: the words that all of them ask for are taken. -/
theorem writeAll_snd (h : ∀ piece ∈ pieces, piece.Scanned) (args : Arguments) :
    (writeAll pieces args).2 = args.after (demandOf pieces) := by
  induction pieces generalizing args with
  | nil => exact args.after_zero.symm
  | cons piece rest ih =>
    obtain ⟨hpiece, hrest⟩ := List.forall_mem_cons.1 h
    simp only [writeAll, Piece.write_snd hpiece, ih hrest, Arguments.after_after, demandOf]

/-- No other word has a part in the text. -/
theorem writeAll_congr (h : ∀ piece ∈ pieces, piece.Scanned)
    (hagree : Arguments.Agree (demandOf pieces) args others) :
    (writeAll pieces args).1 = (writeAll pieces others).1 := by
  induction pieces generalizing args others with
  | nil => rfl
  | cons piece rest ih =>
    obtain ⟨hpiece, hrest⟩ := List.forall_mem_cons.1 h
    have hfirst := Piece.write_congr hpiece (hagree.mono (Nat.le_add_right _ (demandOf rest)))
    simp only [writeAll, hfirst, Piece.write_snd hpiece, ih hrest hagree.after]

/-- The requests before it have no part in a text but for the words that they took. -/
theorem writeAll_pieces_after (cs : List Char) (words : List UInt32) (count : Nat) :
    (writeAll (Template.pieces cs) (Arguments.after { words } count)).1 =
      (writeAll (Template.pieces cs) { words := words.drop count }).1 := by
  apply writeAll_congr (scanned_pieces cs)
  intro index _
  rfl

end

/-! ## Whole templates -/

variable (template : String) {words others : List UInt32}

theorem consumed_format (words : List UInt32) :
    (format template words).consumed = min words.length (demand template) := by
  simp [format, writeAll_snd (scanned_pieces _), Arguments.after, demand]

theorem missing_format (words : List UInt32) :
    (format template words).missing = demand template - min words.length (demand template) := by
  simp [format, writeAll_snd (scanned_pieces _), Arguments.after, demand]

theorem text_format_congr
    (h : ∀ index < demand template, words.getD index 0 = others.getD index 0) :
    (format template words).text = (format template others).text :=
  congrArg String.ofList (writeAll_congr (scanned_pieces _) h)

end FirmwareTrace.Template
