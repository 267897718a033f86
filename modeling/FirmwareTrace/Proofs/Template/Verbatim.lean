import FirmwareTrace.Proofs.Template.Composition

/-! # Text that is kept

Rendering undoes the doubling of percent signs, `writeAll_doubled`, and copies every piece that
is neither a doubled percent sign nor a supported conversion, `writeAll_verbatim`.
-/
namespace FirmwareTrace.Template

/-- Characters with every percent sign doubled. -/
def doubled (cs : List Char) : List Char := cs.flatMap fun c => if c = '%' then ['%', '%'] else [c]

/-- A template that stands for a text. -/
def escape (text : String) : String := String.ofList (doubled text.toList)

/-- The piece is copied: plain text, or a specification that is not supported or not complete. -/
def Piece.Verbatim : Piece → Prop
  | .percent => False
  | .directive spec => spec.conversion? = none
  | _ => True

instance : DecidablePred Piece.Verbatim
  | .text _ => .isTrue trivial
  | .percent => .isFalse id
  | .directive spec => inferInstanceAs (Decidable (spec.conversion? = none))
  | .stray _ => .isTrue trivial

theorem writeAll_doubled (cs : List Char) (args : Arguments) :
    writeAll (pieces (doubled cs)) args = (cs, args) := by
  induction cs with
  | nil => simp [doubled, pieces, writeAll]
  | cons c rest ih =>
    by_cases h : c = '%'
    · subst h
      have hpieces : pieces (doubled ('%' :: rest)) = .percent :: pieces (doubled rest) :=
        pieces_percent _
      simp [hpieces, writeAll, Piece.write, ih]
    · have hsplit : doubled (c :: rest) = [c] ++ doubled rest := by simp [doubled, h]
      have hrun : ∀ d ∈ [c], d != '%' := by simpa using h
      rw [hsplit, writeAll_pieces_text args hrun, ih]
      rfl

theorem Piece.write_of_verbatim {piece : Piece} (h : piece.Verbatim) (args : Arguments) :
    piece.write args = (piece.source, args) := by
  cases piece with
  | text run => rfl
  | percent => cases h
  | directive spec => exact Spec.write_of_none h args
  | stray why => rfl

theorem writeAll_verbatim {pieces : List Piece} (h : ∀ piece ∈ pieces, piece.Verbatim)
    (args : Arguments) : writeAll pieces args = (pieces.flatMap Piece.source, args) := by
  induction pieces with
  | nil => rfl
  | cons piece rest ih =>
    obtain ⟨hpiece, hrest⟩ := List.forall_mem_cons.1 h
    simp [writeAll, Piece.write_of_verbatim hpiece, ih hrest]

/-- A text with its percent signs doubled is rendered as it was, and a template without doubled
percent signs and supported conversions as it is.  Neither asks for a word. -/
theorem text_preserved :
    (∀ (text : String) (words : List UInt32), format (escape text) words = ⟨text, 0, 0⟩) ∧
    ∀ (template : String) (words : List UInt32),
      (∀ piece ∈ pieces template.toList, piece.Verbatim) →
        format template words = ⟨template, 0, 0⟩ := by
  constructor
  · intro text words
    simp [format, escape, writeAll_doubled]
  · intro template words h
    simp [format, writeAll_verbatim h, flatMap_source_pieces]

theorem text_preserved_stars :
    (∀ piece ∈ pieces "%f %*.*y %-+5é 50%".toList, piece.Verbatim) ∧
      format "%f %*.*y %-+5é 50%" [1, 2] = ⟨"%f %*.*y %-+5é 50%", 0, 0⟩ := by
  have hverbatim : ∀ piece ∈ pieces "%f %*.*y %-+5é 50%".toList, piece.Verbatim := by
    decide +kernel
  exact ⟨hverbatim, text_preserved.2 _ _ hverbatim⟩

end FirmwareTrace.Template
