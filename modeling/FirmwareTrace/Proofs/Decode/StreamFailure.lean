import FirmwareTrace.Proofs.Decode.PlainScan

/-! # Decoding between failing streams

Reads may be cut to nothing or fail, and the output may run full.  The octets that
the reads deliver do not depend on the output, and their plain scan is what gets
written: all of it, or as much as there is room for.  A full output is reported
before a failed read, and only decoding that completes flushes.
-/
namespace FirmwareTrace
open Channel Decode

/-- Decoding to a sink that started as `sink`, of octets with the plain scan `plain`,
by reads that ended at `last`. -/
structure Decode.Decoding.Settles (done : Decoding) (sink : Sink) (plain : Scan)
    (ending : Option IoFault) (last : Input) : Prop where
  /-- The text is longer than the room, and what fits of it is written. -/
  overfull : ∀ room, sink.room = some room → room < plain.text.utf8ByteSize →
    done.outcome = .error (.io .shortWrite) ∧
      done.sink.written = sink.written ++ plain.text.toUTF8.extract 0 room ∧
      done.sink.flushes = sink.flushes
  /-- There is room for the text, and a read failed after it. -/
  failed : sink.Fits plain.text → ∀ fault, ending = some fault →
    done.outcome = .error (.io fault) ∧
      done.sink.written = sink.written ++ plain.text.toUTF8 ∧
      done.sink.flushes = sink.flushes ∧ done.input = last
  /-- There is room for the text, and no read failed. -/
  ended : sink.Fits plain.text → ending = none →
    done.outcome = .ok (Stats.ofItems plain.items plain.endOffset) ∧
      done.sink.written = sink.written ++ plain.text.toUTF8 ∧
      done.sink.flushes = sink.flushes + 1 ∧
      done.input = last.rewind plain.endOffset ∧ done.input.position = plain.endOffset

namespace Decoder

variable {Header Literal : Type} {decoder : Decoder Header Literal} {input last : Input}
  {sink : Sink} {plain : Scan} {ending : Option IoFault}

theorem settles_of_passesTo (h : decoder.PassesTo input sink plain ending last) :
    (decoder.decode input sink).Settles sink plain ending last where
  overfull room hroom hlt := by
    have hfits : ¬sink.Fits plain.text := fun hfits => Nat.not_le.2 hlt (hfits room hroom)
    obtain ⟨mid, found, -, hpass⟩ := h.overfull hfits
    have hshare : sink.share plain.text = plain.text.toUTF8.extract 0 room := by
      rw [Sink.share, hroom]
      rfl
    simp only [decode, hpass, Sink.written_offer, hshare, Sink.flushes_offer, and_self]
  failed hfits fault hending := by
    simp only [decode, h.failed hfits fault hending, Sink.written_offer_of_fits hfits,
      Sink.flushes_offer, and_self]
  ended hfits hending := by
    subst hending
    rw [decode_of_passesTo h hfits]
    exact ⟨rfl, Sink.written_offer_of_fits hfits, rfl, rfl, Input.position_rewind _ _⟩

/-- The text of the octets that were delivered is written as far as there is room, and
the first cause that stops decoding is the one reported. -/
theorem decode_of_failing_streams (decoder : Decoder Header Literal) (hinput : input.Coherent) :
    ∃ part ending last, Drains input part ending last ∧ ∀ sink,
      (decoder.decode input sink).Settles sink (decoder.scan input.position part) ending last := by
  obtain ⟨part, ending, last, drains, hpasses⟩ := decoder.exists_drains_pass hinput
  exact ⟨part, ending, last, drains, fun sink => settles_of_passesTo (hpasses sink)⟩

theorem decode_of_failing_streams_gain :
    let input : Input := .direct
      ⟨gainTrace, 0, [.upTo 18, .interrupted, .failure (.other "scripted failure")]⟩
    input.Coherent ∧ ∃ part ending last, Drains input part ending last ∧ ∀ sink,
      (gainDecoder.decode input sink).Settles sink (gainDecoder.scan 0 part) ending last :=
  ⟨Input.coherent_direct _, decode_of_failing_streams gainDecoder (Input.coherent_direct _)⟩

end Decoder
end FirmwareTrace
