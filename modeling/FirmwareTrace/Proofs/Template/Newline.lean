import FirmwareTrace.Template.Render

/-! # Templates that end with a newline

A newline at the end of a template is always printed: it is plain text, or the letter of a
specification that stands for no conversion and is copied, `endsLine_format`.
-/
namespace FirmwareTrace

/-- The text ends with a newline. -/
def Text.EndsLine (text : String) : Prop := ∃ line, text = line ++ "\n"

namespace Text

theorem endsLine_iff {text : String} : EndsLine text ↔ text.toList.getLast? = some '\n' := by
  rw [List.getLast?_eq_some_iff]
  constructor
  · rintro ⟨line, rfl⟩
    exact ⟨line.toList, by simp⟩
  · rintro ⟨front, hfront⟩
    refine ⟨String.ofList front, String.toList_inj.1 ?_⟩
    simpa using hfront

theorem EndsLine.append {text : String} (h : EndsLine text) (front : String) :
    EndsLine (front ++ text) := by
  obtain ⟨line, rfl⟩ := h
  exact ⟨front ++ line, String.append_assoc.symm⟩

end Text

namespace Template

theorem getLast?_tail (spec : Spec) : ('%' :: spec.tail).getLast? = some spec.letter := by
  rw [Spec.tail, ← List.cons_append, List.getLast?_concat]

/-- A newline is no conversion letter, so it ends no piece but one that is copied. -/
theorem Piece.write_of_newline {piece : Piece} (h : piece.source.getLast? = some '\n')
    (args : Arguments) : piece.write args = (piece.source, args) := by
  cases piece with
  | text run => rfl
  | percent => cases h
  | directive spec =>
    have hletter : spec.letter = '\n' := Option.some.inj ((getLast?_tail spec).symm.trans h)
    have hnone : spec.conversion? = none := by
      rw [Spec.conversion?, hletter]
      rfl
    rw [Piece.write, Spec.write, hnone]
    rfl
  | stray why => cases h

theorem Piece.write_of_source_eq_nil {piece : Piece} (h : piece.source = []) (args : Arguments) :
    piece.write args = ([], args) := by
  cases piece with
  | text run => exact congrArg (·, args) h
  | percent => cases h
  | directive spec => cases h
  | stray why => cases h

theorem writeAll_of_source_eq_nil {pieces : List Piece} (h : pieces.flatMap Piece.source = [])
    (args : Arguments) : writeAll pieces args = ([], args) := by
  induction pieces with
  | nil => rfl
  | cons piece rest ih =>
    obtain ⟨hpiece, hrest⟩ := List.append_eq_nil_iff.1 h
    rw [writeAll, Piece.write_of_source_eq_nil hpiece]
    dsimp only
    rw [ih hrest]
    rfl

/-- The newline at the end is that of the last piece with any characters. -/
theorem getLast?_writeAll {pieces : List Piece}
    (h : (pieces.flatMap Piece.source).getLast? = some '\n') (args : Arguments) :
    (writeAll pieces args).1.getLast? = some '\n' := by
  induction pieces generalizing args with
  | nil => cases h
  | cons piece rest ih =>
    rw [List.flatMap_cons, List.getLast?_append] at h
    rw [writeAll]
    dsimp only
    rw [List.getLast?_append]
    cases hrest : (rest.flatMap Piece.source).getLast? with
    | some last =>
      rw [hrest] at h
      rw [ih (hrest.trans h)]
      rfl
    | none =>
      rw [hrest] at h
      rw [Piece.write_of_newline h, writeAll_of_source_eq_nil (List.getLast?_eq_none_iff.1 hrest)]
      exact h

/-- A newline that ends a template ends what is printed, whatever stands in front of it. -/
theorem endsLine_format {template : String} (h : Text.EndsLine template) (words : List UInt32) :
    Text.EndsLine (format template words).text := by
  rw [Text.endsLine_iff] at h
  rw [Text.endsLine_iff, format, String.toList_ofList]
  apply getLast?_writeAll
  rw [flatMap_source_pieces, h]

/-- The newline that a number without a conversion letter runs into. -/
example : (format "50%\n" []).text = "50%\n" := by decide +kernel

end Template
end FirmwareTrace
