import FirmwareTrace.Proofs.Decode.OwnLocation
import FirmwareTrace.Proofs.Template.Arguments
import Mathlib.Data.List.Forall2
import Mathlib.Data.List.GetD

/-! # Records that are too short for their templates

What a template takes and misses of a payload is told by the number of words that it asks for,
`Template.accounts`.  A rendered record is counted as an overflow if its payload is shorter than
that, `isOverflow_item`, and in a run these are all that is counted, `words_accounted`.
-/
namespace FirmwareTrace
open Channel Decode

/-! ## The account of a template -/

namespace Template

/-- A template asks for a number of words, whatever the payload. -/
structure Accounts (template : String) (asked : Nat) : Prop where
  consumed : ∀ words, (format template words).consumed = min words.length asked
  missing : ∀ words, (format template words).missing = asked - min words.length asked
  /-- A payload that is too short is as good as one that goes on with zeros. -/
  text : ∀ words, (format template words).text =
    (format template ((words ++ List.replicate asked 0).take asked)).text
  extra : ∀ words more, asked ≤ words.length →
    (format template (words ++ more)).text = (format template words).text
  zeros : ∀ words count,
    (format template (words ++ List.replicate count 0)).text = (format template words).text

theorem getD_append_zeros (words : List UInt32) (count index : Nat) :
    (words ++ List.replicate count 0).getD index 0 = words.getD index 0 := by
  by_cases h : index < words.length
  · rw [List.getD_append _ _ _ _ h]
  · have hle := Nat.le_of_not_lt h
    rw [List.getD_append_right _ _ _ _ hle, List.getD_eq_default _ _ hle,
      List.getD_eq_getElem?_getD, List.getElem?_getD_replicate_default_eq]

theorem getD_take (words : List UInt32) {count index : Nat} (h : index < count) :
    (words.take count).getD index 0 = words.getD index 0 := by
  simp [List.getD_eq_getElem?_getD, h]

theorem accounts (template : String) : Accounts template (demand template) where
  consumed := consumed_format template
  missing := missing_format template
  text words := text_format_congr template fun index h => by
    rw [getD_take _ h, getD_append_zeros]
  extra words more hle := text_format_congr template fun index h =>
    List.getD_append _ _ _ _ (Nat.lt_of_lt_of_le h hle)
  zeros words count := text_format_congr template fun index _ => getD_append_zeros words count index

end Template

/-! ## The overflow of a record -/

namespace SourceFormat

/-- The template of a literal. -/
def template : (format : SourceFormat) → format.Literal → String
  | .csv => Spt.Literal.message
  | .elf => Icl.Literal.text

theorem missing_render (format : SourceFormat) (header : format.Header) (literal : format.Literal)
    (payload : List UInt32) : (format.records.render header literal payload).missing =
      (Template.format (format.template literal) payload).missing := by
  cases format <;> rfl

theorem overflowed_render (format : SourceFormat) (header : format.Header)
    (literal : format.Literal) (payload : List UInt32) :
    (format.records.render header literal payload).overflowed =
      decide (payload.length < Template.demand (format.template literal)) := by
  rw [Rendered.overflowed, missing_render, Template.missing_format]
  apply decide_eq_decide.2
  omega

variable (format : SourceFormat) (libraries : Libraries format.Literal)

/-- The header of the record selects a literal whose template asks for more words than the record
has for a payload. -/
def overruns (record : List UInt8) : Bool :=
  let header := format.records.parse (record.take format.records.headerSize)
  let payload := Bytes.words (record.drop format.records.headerSize)
  match Decoder.literalFor ⟨format.records, libraries⟩ header with
  | .ok literal => decide (payload.length < Template.demand (format.template literal))
  | .error _ => false

theorem isOverflow_item (offset : Nat) (record : List UInt8) :
    (Decoder.item ⟨format.records, libraries⟩ offset record).isOverflow =
      format.overruns libraries record := by
  unfold Decoder.item overruns
  dsimp only
  split <;> rename_i heq <;> rw [heq]
  · exact overflowed_render format _ _ _
  · rfl

end SourceFormat

/-! ## The overflows of a run -/

theorem exists_forall₂ {α β : Type} {R : α → β → Prop} {xs : List α} (h : ∀ x ∈ xs, ∃ y, R x y) :
    ∃ ys, List.Forall₂ R xs ys := by
  induction xs with
  | nil => exact ⟨[], .nil⟩
  | cons x xs ih =>
    obtain ⟨⟨y, hy⟩, hrest⟩ := List.forall_mem_cons.1 h
    obtain ⟨ys, hys⟩ := ih hrest
    exact ⟨y :: ys, .cons hy hys⟩

theorem countP_eq_of_forall₂ {α β : Type} {R : α → β → Prop} {p : α → Bool} {q : β → Bool}
    {xs : List α} {ys : List β} (h : List.Forall₂ R xs ys) (hpq : ∀ x y, R x y → p x = q y) :
    xs.countP p = ys.countP q := by
  induction h with
  | nil => rfl
  | cons hxy _ ih => rw [List.countP_cons, List.countP_cons, ih, hpq _ _ hxy]

namespace Decoder

variable {Header Literal : Type} {decoder : Decoder Header Literal} {input : Input} {sink : Sink}
  {stats : Stats}

theorem overflows_decode (h : (decoder.decode input sink).outcome = .ok stats) :
    stats.overflows = (decoder.decode input sink).items.countP Item.isOverflow := by
  unfold decode at h ⊢
  dsimp only at h ⊢
  split at h
  · cases h
  · obtain rfl := Except.ok.inj h
    rfl

theorem overflows_follow {refusal : Option WatchFault} {signals : List Signal}
    (h : (decoder.follow input sink refusal signals).outcome = .ok stats) :
    stats.overflows = (decoder.follow input sink refusal signals).items.countP Item.isOverflow := by
  cases refusal with
  | some fault => cases h
  | none =>
    obtain ⟨rounds, rest, last, lastSink, finish, -, -, -, hfollow⟩ :=
      decoder.exists_rounds_follow signals input sink
    rw [hfollow] at h ⊢
    obtain ⟨visit, offset, -, rfl⟩ := Finish.outcome_eq_ok.1 h
    rfl

end Decoder

namespace SourceFormat

/-- The items come from records, one each, that satisfy a property of both.  The statistics count
those of the records that are too short for their templates. -/
def CountsOverruns (format : SourceFormat) (libraries : Libraries format.Literal)
    (found : Item → List UInt8 → Prop) (items : List Item) (stats : Stats) : Prop :=
  ∃ records, List.Forall₂ (fun item record => found item record ∧
      item = Decoder.item ⟨format.records, libraries⟩ item.offset record) items records ∧
    stats.overflows = records.countP (format.overruns libraries)

variable {format : SourceFormat} {libraries : Libraries format.Literal}

theorem countsOverruns_of_items {found : Item → List UInt8 → Prop} {items : List Item}
    {stats : Stats} (hcounted : stats.overflows = items.countP Item.isOverflow)
    (hfound : ∀ item ∈ items, ∃ record, found item record ∧
      item = Decoder.item ⟨format.records, libraries⟩ item.offset record) :
    format.CountsOverruns libraries found items stats := by
  obtain ⟨records, hrecords⟩ := exists_forall₂ hfound
  refine ⟨records, hrecords, ?_⟩
  rw [hcounted]
  apply countP_eq_of_forall₂ hrecords
  rintro item record ⟨-, hitem⟩
  rw [hitem]
  exact format.isOverflow_item libraries _ record

end SourceFormat

/-- Every template has a number of words that it asks for, and the words of a payload beyond it,
or zeros behind a payload, change nothing.  So the overflows that decoding counts, once or along a
follow run, are the rendered records whose payload is shorter than their template asks. -/
theorem words_accounted :
    (∀ template, Template.Accounts template (Template.demand template)) ∧
    ∀ (format : SourceFormat) (libraries : Libraries format.Literal),
      let decoder : Decoder format.Header format.Literal := ⟨format.records, libraries⟩
      (∀ input : Input, input.Coherent → ∃ part ending last, Drains input part ending last ∧
        ∀ sink stats, (decoder.decode input sink).outcome = .ok stats →
          format.CountsOverruns libraries (fun item record =>
              format.records.record? (part.drop (item.offset - input.position)) = some record)
            (decoder.decode input sink).items stats) ∧
      ∀ input sink refusal signals stats,
        (decoder.follow input sink refusal signals).outcome = .ok stats →
          format.CountsOverruns libraries
            (fun _ record => format.records.record? record = some record)
            (decoder.follow input sink refusal signals).items stats := by
  refine ⟨Template.accounts, fun format libraries => ?_⟩
  intro decoder
  constructor
  · intro input hinput
    obtain ⟨part, ending, last, drains, hpasses⟩ := decoder.exists_drains_pass hinput
    refine ⟨part, ending, last, drains, fun sink stats hstats => ?_⟩
    apply SourceFormat.countsOverruns_of_items (Decoder.overflows_decode hstats)
    intro item hmem
    rw [Decoder.items_decode] at hmem
    exact (Decoder.exists_record_of_mem_scan _ _ item ((hpasses sink).items.subset hmem)).2
  · intro input sink refusal signals stats hstats
    apply SourceFormat.countsOverruns_of_items (Decoder.overflows_follow hstats)
    intro item hmem
    exact (Decoder.contiguous_follow input sink refusal signals).exists_record hmem

/-- A literal at entry id 9 of library 2, with a width that comes from the payload. -/
def paddedLibraries : Libraries Icl.Literal :=
  (∅ : Libraries Icl.Literal).insert 2
    ((∅ : LiteralTable _).set (.ofEntry 9) { Decoder.gainLiteral with text := "gain %*d dB" })

/-- The record has one word, and the template asks for two. -/
theorem words_accounted_padded :
    let input : Input := .direct ⟨Decoder.gainTrace, 0, []⟩
    let decoder : Decoder Icl.Header Icl.Literal := ⟨Icl.format, paddedLibraries⟩
    Template.demand "gain %*d dB" = 2 ∧
      (Template.format "gain %*d dB" ([4, 9] ++ [7])).text = "gain    9 dB" ∧
      input.Coherent ∧ (decoder.decode input {}).outcome = .ok ⟨1, 1, 1, 20⟩ ∧
      ∃ records : List (List UInt8), records.length = (decoder.decode input {}).items.length ∧
        records.countP (SourceFormat.elf.overruns paddedLibraries) = 1 := by
  intro input decoder
  have hdemand : Template.demand "gain %*d dB" = 2 := by decide +kernel
  have hshort : (Template.format "gain %*d dB" [4, 9]).text = "gain    9 dB" := by decide +kernel
  have hoption : (decoder.decode input {}).outcome.toOption = some ⟨1, 1, 1, 20⟩ := by
    decide +kernel
  have houtcome : (decoder.decode input {}).outcome = .ok ⟨1, 1, 1, 20⟩ := by
    cases hdecode : (decoder.decode input {}).outcome with
    | error failure => simp [hdecode, Except.toOption] at hoption
    | ok stats => simpa [hdecode, Except.toOption] using hoption
  have hinput : input.Coherent := Input.coherent_direct _
  have haccounts := words_accounted.1 "gain %*d dB"
  obtain ⟨_, _, _, -, hcounts⟩ := (words_accounted.2 .elf paddedLibraries).1 input hinput
  obtain ⟨records, hrecords, hcount⟩ := hcounts {} _ houtcome
  have hextra := haccounts.extra [4, 9] [7] (Nat.le_of_eq hdemand)
  exact ⟨hdemand, hextra.trans hshort, hinput, houtcome, records, hrecords.length_eq.symm,
    hcount.symm⟩

end FirmwareTrace
