import FirmwareTrace.Failure
import FirmwareTrace.Record.Spt
import FirmwareTrace.Text.Blank

/-! # Records of a symbol cache

One line describes one literal: file id, line, file name, provider, level, the
message and four parameters, separated by commas.  The message may hold commas
of its own, so it is whatever stands between the first five fields and the last
four.  A field may be wrapped in any number of quote layers.
-/
namespace FirmwareTrace.SymbolCache

def quote : Char := '"'

/-- Trims a field and takes off its quote layers, one after the other. -/
def unquote (field : List Char) : List Char :=
  match h : Text.trim field with
  | c :: rest =>
    if c = quote ∧ rest.getLast? = some quote then
      have : rest.length < field.length := by
        have := Text.length_trim_le field
        rw [h, List.length_cons] at this
        omega
      unquote rest.dropLast
    else c :: rest
  | [] => []
termination_by field.length
decreasing_by
  have : rest.dropLast.length = rest.length - 1 := List.length_dropLast
  omega

/-- The fields of a record. -/
structure Fields where
  fileId : List Char
  line : List Char
  filename : List Char
  provider : List Char
  level : List Char
  message : List Char
  params : Vector (List Char) 4

/-- Cuts a record at its commas and joins the inner ones back into the message. -/
def Fields.ofRecord? (record : List Char) : Option Fields :=
  match record.splitOn ',' with
  | fileId :: line :: filename :: provider :: level :: rest =>
    match rest.take (rest.length - 4), rest.drop (rest.length - 4) with
    | m :: more, [p₀, p₁, p₂, p₃] =>
      some ⟨fileId, line, filename, provider, level, [','].intercalate (m :: more),
        #v[p₀, p₁, p₂, p₃]⟩
    | _, _ => none
  | _ => none

/-- The literal that the fields describe, if the first two are numerals. -/
def Fields.literal? (fields : Fields) : Option Spt.Literal :=
  match Numeral.word? 10 (unquote fields.fileId), Numeral.word? 10 (unquote fields.line) with
  | some fileId, some line =>
    some
      { key := .ofLocation fileId line
        filename := String.ofList (unquote fields.filename)
        provider := String.ofList (unquote fields.provider)
        level := String.ofList (unquote fields.level)
        message := String.ofList (unquote fields.message ++ ['\n'])
        params := fields.params.map fun p => String.ofList (unquote p) }
  | _, _ => none

/-- Reads a record; the line number is only used to report it. -/
def readRecord (line : Nat) (record : List Char) : Except Failure Spt.Literal :=
  match (Fields.ofRecord? record).bind Fields.literal? with
  | some literal => .ok literal
  | none => .error (.badRecord line (String.ofList record))

end FirmwareTrace.SymbolCache
