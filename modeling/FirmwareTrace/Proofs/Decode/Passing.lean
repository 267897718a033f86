import FirmwareTrace.Decode.Pass
import FirmwareTrace.Proofs.Channel.Draining
import FirmwareTrace.Proofs.Channel.Writing
import FirmwareTrace.Proofs.Decode.Scanning

/-! # A pass is a scan of what its reads deliver

The window never matters to what a pass finds: pending octets and the octets still
to be read are always one list, and each turn takes the record in front of it.
`exists_drains_pass` relates a pass to the plain scan, for any reads and any room in
the output.  The octets it scans are the same for all outputs.
-/
namespace FirmwareTrace
open Channel

namespace Decode.Window

/-- The window gained octets behind the pending ones. -/
structure Gained (window : Window) (part : List UInt8) (window' : Window) : Prop where
  pending : window'.pending = window.pending ++ part
  offset : window'.offset = window.offset

theorem Gained.trans {a b c : Window} {front back : List UInt8} (h₁ : a.Gained front b)
    (h₂ : b.Gained back c) : a.Gained (front ++ back) c :=
  ⟨by rw [h₂.pending, h₁.pending, List.append_assoc], h₂.offset.trans h₁.offset⟩

theorem pending_consume (window : Window) (count : Nat) :
    (window.consume count).pending = window.pending.drop count := by
  simp only [consume, pending, ← List.drop_drop, List.length_drop]
  rcases Nat.le_total count (window.buffer.length - window.head) with h | h
  · rw [Nat.min_eq_left h]
  · rw [Nat.min_eq_right h, ← List.length_drop, List.drop_length, List.drop_of_length_le]
    rwa [List.length_drop]

theorem offset_consume {window : Window} {count : Nat} (h : count ≤ window.pending.length) :
    (window.consume count).offset = window.offset + count := by
  simp only [consume, Nat.min_eq_left h]

/-- The outcome of a fill that runs out of octets. -/
def shortfall : Option IoFault → Except IoFault Bool
  | none => .ok false
  | some fault => .error fault

theorem room_pos {window : Window} {needed : Nat} (h : ¬needed ≤ window.buffer.length) :
    0 < window.room needed := by
  unfold room
  omega

theorem Gained.refl (window : Window) : window.Gained [] window :=
  ⟨(List.append_nil _).symm, rfl⟩

theorem gained_buffer {window : Window} (h : window.head = 0) (part : List UInt8) :
    window.Gained part { window with buffer := window.buffer ++ part } :=
  ⟨by simp [pending, h], rfl⟩

/-- Refilling reads until enough octets are there, or drains the input. -/
theorem refill_cases (needed : Nat) (window : Window) (input : Input) (h : window.head = 0) :
    (∃ part mid window', Reads input part mid ∧ window.Gained part window' ∧
        needed ≤ window'.pending.length ∧
        window.refill needed input = ⟨window', mid, .ok true⟩) ∨
      (∃ part ending last window', Drains input part ending last ∧ window.Gained part window' ∧
        window'.pending.length < needed ∧
        window.refill needed input = ⟨window', last, shortfall ending⟩) := by
  fun_induction refill needed window input with
  | case1 window input hle =>
    exact .inl ⟨[], input, window, .refl input, .refl window, by simpa [pending, h] using hle, rfl⟩
  | case2 window input hlt last hread =>
    exact .inr ⟨[], none, last, window, ⟨.refl input, room_pos hlt, hread⟩, .refl window,
      by simpa [pending, h] using hlt, rfl⟩
  | case3 window input hlt octet more next hread ih =>
    have once : Reads input (octet :: more) next :=
      .once (room_pos hlt) hread (List.cons_ne_nil octet more)
    have hgained := gained_buffer h (octet :: more)
    obtain ⟨part, mid, window', reads, gained, hle, heq⟩ |
      ⟨part, ending, last, window', drains, gained, hlt, heq⟩ := ih h
    · exact .inl ⟨_, mid, window', once.trans reads, hgained.trans gained, hle, heq⟩
    · exact .inr ⟨_, ending, last, window', once.drains drains, hgained.trans gained, hlt, heq⟩
  | case4 window input hlt next hread ih =>
    have once : Reads input [] next := .once (room_pos hlt) hread trivial
    obtain ⟨part, mid, window', reads, gained, hle, heq⟩ |
      ⟨part, ending, last, window', drains, gained, hlt, heq⟩ := ih h
    · exact .inl ⟨part, mid, window', once.trans reads, gained, hle, heq⟩
    · exact .inr ⟨part, ending, last, window', once.drains drains, gained, hlt, heq⟩
  | case5 window input hlt fault last hread =>
    exact .inr ⟨[], some fault, last, window, ⟨.refl input, room_pos hlt, hread⟩, .refl window,
      by simpa [pending, h] using hlt, rfl⟩

theorem refill_of_octets {needed : Nat} {window : Window} {input next : Input} {octet : UInt8}
    {more : List UInt8} (hneeded : ¬needed ≤ window.buffer.length)
    (hread : input.read (window.room needed) = (.octets (octet :: more), next)) :
    window.refill needed input
      = refill needed { window with buffer := window.buffer ++ octet :: more } next := by
  rw [refill, if_neg hneeded]
  split <;> simp_all

theorem refill_of_end {needed : Nat} {window : Window} {input next : Input}
    (hneeded : ¬needed ≤ window.buffer.length)
    (hread : input.read (window.room needed) = (.octets [], next)) :
    window.refill needed input = ⟨window, next, .ok false⟩ := by
  rw [refill, if_neg hneeded]
  split <;> simp_all

theorem gained_drain {window window' : Window} {part : List UInt8}
    (h : window.drain.Gained part window') : window.Gained part window' :=
  ⟨h.pending, h.offset⟩

/-- Filling reads until enough octets are pending, or drains the input. -/
theorem fill_cases (window : Window) (input : Input) (needed : Nat) :
    (∃ part mid window', Reads input part mid ∧ window.Gained part window' ∧
        needed ≤ window'.pending.length ∧ window.fill input needed = ⟨window', mid, .ok true⟩) ∨
      (∃ part ending last window', Drains input part ending last ∧ window.Gained part window' ∧
        window'.pending.length < needed ∧
        window.fill input needed = ⟨window', last, shortfall ending⟩) := by
  unfold fill
  split
  · rename_i hle
    exact .inl ⟨[], input, window, .refl input, .refl window, hle, rfl⟩
  · obtain ⟨part, mid, window', reads, gained, hle, heq⟩ |
      ⟨part, ending, last, window', drains, gained, hlt, heq⟩ :=
        refill_cases needed window.drain input rfl
    · exact .inl ⟨part, mid, window', reads, gained_drain gained, hle, heq⟩
    · exact .inr ⟨part, ending, last, window', drains, gained_drain gained, hlt, heq⟩

end Decode.Window

/-- The turn that ends a pass when its input is drained. -/
def Decode.Turn.stop : Option IoFault → Decode.Progress → Decode.Turn
  | none, progress => .ended progress
  | some fault, progress => .failed progress fault

namespace Decoder

variable {Header Literal : Type} (decoder : Decoder Header Literal)
open Decode

/-- A turn either comes to a complete record and emits it, or drains the input with
no complete record left.  Neither depends on the sink. -/
theorem turn_cases (input : Input) (window : Window) :
    (∃ part mid window' record, Reads input part mid ∧ window.Gained part window' ∧
        decoder.format.record? window'.pending = some record ∧
        ∀ sink items, decoder.turn ⟨input, sink, window, items⟩
          = decoder.emit ⟨mid, sink, window', items⟩ record.length) ∨
      (∃ part ending last window', Drains input part ending last ∧
        window.Gained part window' ∧ decoder.format.record? window'.pending = none ∧
        ∀ sink items, decoder.turn ⟨input, sink, window, items⟩
          = .stop ending ⟨last, sink, window', items⟩) := by
  obtain ⟨part, mid, atHeader, reads, gained, hheader, heq⟩ |
    ⟨part, ending, last, atHeader, drains, gained, hlt, heq⟩ :=
      window.fill_cases input decoder.format.headerSize
  · have hpos : 0 < atHeader.pending.length :=
      Nat.lt_of_lt_of_le (Nat.lt_of_lt_of_le (by decide) decoder.format.wordSize_le_headerSize)
        hheader
    -- reading the rest of the record does not change the octet that its size was read from
    have hfirst {more : List UInt8} {atRecord : Window} (h : atHeader.Gained more atRecord) :
        atHeader.pending.headD 0 = atRecord.pending.headD 0 := by
      rw [h.pending, RecordFormat.headD_append hpos]
    obtain ⟨more, last, atRecord, reads', gained', hrecord, heq'⟩ |
      ⟨more, ending, last, atRecord, drains, gained', hlt, heq'⟩ :=
        atHeader.fill_cases mid (decoder.format.recordSize (atHeader.pending.headD 0))
    · have hsome := decoder.format.record?_of_le (hfirst gained' ▸ hrecord)
      refine .inl ⟨_, last, atRecord, _, reads.trans reads', gained.trans gained', hsome,
        fun sink items => ?_⟩
      have hsize : (atRecord.pending.take (decoder.format.recordSize
          (atRecord.pending.headD 0))).length
            = decoder.format.recordSize (atHeader.pending.headD 0) := by
        rw [← hfirst gained', List.length_take, Nat.min_eq_left hrecord]
      simp only [turn, heq, heq', Progress.after, hsize]
    · refine .inr ⟨_, ending, last, atRecord, reads.drains drains, gained.trans gained',
        decoder.format.record?_of_lt (hfirst gained' ▸ hlt), fun sink items => ?_⟩
      cases ending <;> simp only [turn, heq, heq', Progress.after, Window.shortfall, Turn.stop]
  · have hnone : atHeader.pending.length <
        decoder.format.recordSize (atHeader.pending.headD 0) :=
      Nat.lt_of_lt_of_le hlt (decoder.format.headerSize_le_recordSize _)
    refine .inr ⟨part, ending, last, atHeader, drains, gained,
      decoder.format.record?_of_lt hnone, fun sink items => ?_⟩
    cases ending <;> simp only [turn, heq, Progress.after, Window.shortfall, Turn.stop]

variable {decoder} {progress : Progress} {record : List UInt8}

theorem take_of_record? {octets : List UInt8}
    (h : decoder.format.record? octets = some record) : octets.take record.length = record := by
  obtain ⟨hle, rfl⟩ := decoder.format.record?_eq_some h
  rw [List.length_take, Nat.min_eq_left hle]

theorem emit_of_fits (h : decoder.format.record? progress.window.pending = some record)
    (hfits : progress.sink.Fits (decoder.item progress.window.offset record).text) :
    decoder.emit progress record.length =
      .again ⟨progress.input,
        progress.sink.offer (decoder.item progress.window.offset record).text,
        progress.window.consume (decoder.item progress.window.offset record).size,
        decoder.item progress.window.offset record :: progress.items⟩ := by
  simp only [emit, take_of_record? h, Sink.write_of_fits hfits, if_true]

theorem emit_of_not_fits (h : decoder.format.record? progress.window.pending = some record)
    (hfits : ¬progress.sink.Fits (decoder.item progress.window.offset record).text) :
    decoder.emit progress record.length =
      .failed ⟨progress.input,
        progress.sink.offer (decoder.item progress.window.offset record).text, progress.window,
        decoder.item progress.window.offset record :: progress.items⟩ .shortWrite := by
  simp only [emit, take_of_record? h, Sink.write_of_not_fits hfits, Bool.false_eq_true, if_false]

theorem run_of_again {next : Progress} (h : decoder.turn progress = .again next) :
    decoder.run progress = decoder.run next := by
  rw [run]
  split <;> simp_all

theorem run_of_stop {ending : Option IoFault} {last : Progress}
    (h : decoder.turn progress = .stop ending last) : decoder.run progress = (last, ending) := by
  rw [run]
  cases ending <;> split <;> simp_all [Turn.stop]

theorem run_of_failed {last : Progress} {fault : IoFault}
    (h : decoder.turn progress = .failed last fault) :
    decoder.run progress = (last, some fault) := by
  have hstop : decoder.turn progress = .stop (some fault) last := h
  exact run_of_stop hstop

variable (decoder)

/-- A run that comes to the items of a plain scan.  With room for their text it finds
all of them, with octets pending up to `reached`, and ends as its reads do; otherwise
the write that did not fit ends it. -/
structure RunsTo (progress : Progress) (plain : Scan) (reached : Nat)
    (ending : Option IoFault) (last : Input) : Prop where
  complete : progress.sink.Fits plain.text →
    ∃ window : Window, window.offset = plain.endOffset ∧
      window.offset + window.pending.length = reached ∧
      decoder.run progress = (⟨last, progress.sink.offer plain.text, window,
        plain.items.reverse ++ progress.items⟩, ending)
  overfull : ¬progress.sink.Fits plain.text →
    ∃ mid window found, found <+: plain.items ∧
      decoder.run progress = (⟨mid, progress.sink.offer plain.text, window,
        found.reverse ++ progress.items⟩, some .shortWrite)

variable {decoder} {mid last : Input} {window : Window} {ending : Option IoFault}

theorem RunsTo.stop (hturn : decoder.turn progress
    = .stop ending ⟨last, progress.sink, window, progress.items⟩) :
    decoder.RunsTo progress ⟨[], window.offset⟩ (window.offset + window.pending.length) ending
      last where
  complete _ := ⟨window, rfl, rfl, by
    rw [run_of_stop hturn, Scan.text_nil, Sink.offer_empty]
    rfl⟩
  overfull h := absurd (fun _ _ => Nat.zero_le _) h

/-- One item in front: it is written first, and the rest is written if it fits. -/
theorem RunsTo.emit {plain : Scan} {reached : Nat}
    (hrecord : decoder.format.record? window.pending = some record)
    (hturn : decoder.turn progress
      = decoder.emit ⟨mid, progress.sink, window, progress.items⟩ record.length)
    (h : decoder.RunsTo ⟨mid, progress.sink.offer (decoder.item window.offset record).text,
      window.consume (decoder.item window.offset record).size,
      decoder.item window.offset record :: progress.items⟩ plain reached ending last) :
    decoder.RunsTo progress (plain.prepend [decoder.item window.offset record]) reached ending
      last := by
  have htext : (plain.prepend [decoder.item window.offset record]).text
      = (decoder.item window.offset record).text ++ plain.text := by
    simp [Scan.text_prepend]
  refine ⟨fun hfits => ?_, fun hfits => ?_⟩ <;> rw [htext, Sink.fits_append] at hfits
  · obtain ⟨window', hoffset, hreached, hrun⟩ := h.complete hfits.2
    refine ⟨window', hoffset, hreached, ?_⟩
    rw [run_of_again (hturn.trans (emit_of_fits hrecord hfits.1)), hrun, htext, Sink.offer_append]
    simp
  · by_cases hitem : progress.sink.Fits (decoder.item window.offset record).text
    · obtain ⟨mid', window', found, hfound, hrun⟩ := h.overfull fun hrest => hfits ⟨hitem, hrest⟩
      refine ⟨mid', window', decoder.item window.offset record :: found,
        (List.prefix_append_right_inj [_]).2 hfound, ?_⟩
      rw [run_of_again (hturn.trans (emit_of_fits hrecord hitem)), hrun, htext, Sink.offer_append]
      simp
    · refine ⟨mid, window, [decoder.item window.offset record], List.prefix_append _ _, ?_⟩
      rw [run_of_failed (hturn.trans (emit_of_not_fits hrecord hitem)), htext,
        Sink.offer_append_of_not_fits hitem]
      rfl

variable (decoder)

/-- A run comes to the plain scan of the octets that are pending and those its reads
deliver, whatever the sink. -/
theorem exists_drains_run (input : Input) (window : Window) :
    ∃ part ending last, Drains input part ending last ∧ ∀ sink items,
      decoder.RunsTo ⟨input, sink, window, items⟩
        (decoder.scan window.offset (window.pending ++ part))
        (window.offset + (window.pending ++ part).length) ending last := by
  induction hleft : window.pending.length + input.unread using Nat.strongRecOn
    generalizing input window with
  | _ left ih =>
    obtain ⟨part, mid, window', record, reads, gained, hrecord, hturn⟩ |
      ⟨part, ending, last, window', drains, gained, hrecord, hturn⟩ :=
        decoder.turn_cases input window
    · -- the octets left do not depend on the sink, so one with room shows that they get fewer
      have hagain := (hturn {} []).trans (emit_of_fits hrecord (Sink.fits_of_room_eq_none rfl _))
      have hlt := decoder.left_turn_lt hagain
      obtain ⟨more, ending, last, drains, hruns⟩ := ih _ (Nat.lt_of_lt_of_eq hlt hleft) mid _ rfl
      refine ⟨part ++ more, ending, last, reads.drains drains, fun sink items => ?_⟩
      have hsize := decoder.item_size_le window'.offset hrecord
      rw [← List.append_assoc, ← gained.pending, ← gained.offset,
        decoder.scan_of_some _ (decoder.format.record?_append hrecord more),
        List.drop_append_of_le_length hsize]
      have hnext := hruns (sink.offer (decoder.item window'.offset record).text)
        (decoder.item window'.offset record :: items)
      rw [Window.pending_consume, Window.offset_consume hsize] at hnext
      have hreached : window'.offset + (window'.pending ++ more).length
          = window'.offset + (decoder.item window'.offset record).size
            + (window'.pending.drop (decoder.item window'.offset record).size ++ more).length := by
        rw [List.length_append, List.length_append, List.length_drop]
        omega
      rw [hreached]
      exact .emit hrecord (hturn sink items) hnext
    · refine ⟨part, ending, last, drains, fun sink items => ?_⟩
      rw [← gained.pending, ← gained.offset, decoder.scan_of_none _ hrecord]
      exact .stop (hturn sink items)

/-- Handing back the pending octets is moving to the first of them. -/
theorem handBack_eq {window : Window} {last : Input} {offset : Nat}
    (h : offset + window.pending.length = last.position) :
    (if window.pending.isEmpty then last else last.seek offset) = last.rewind offset := by
  unfold Input.rewind
  cases hpending : window.pending with
  | nil =>
    rw [hpending, List.length_nil, Nat.add_zero] at h
    rw [if_pos h.symm]
    rfl
  | cons octet more =>
    rw [hpending, List.length_cons] at h
    have hne : last.position ≠ offset := by omega
    rw [if_neg hne]
    rfl

/-- A pass that comes to a plain scan, over reads that end at `last`. -/
structure PassesTo (input : Input) (sink : Sink) (plain : Scan) (ending : Option IoFault)
    (last : Input) : Prop where
  ended : sink.Fits plain.text → ending = none →
    decoder.pass input sink = ⟨last.rewind plain.endOffset, sink.offer plain.text, plain.items,
      last.position, .ok plain.endOffset⟩
  failed : sink.Fits plain.text → ∀ fault, ending = some fault →
    decoder.pass input sink = ⟨last, sink.offer plain.text, plain.items, last.position,
      .error fault⟩
  overfull : ¬sink.Fits plain.text → ∃ mid found, found <+: plain.items ∧
    decoder.pass input sink = ⟨mid, sink.offer plain.text, found, mid.position,
      .error .shortWrite⟩

/-- A pass comes to the plain scan of what its reads deliver, whatever the sink. -/
theorem exists_drains_pass {input : Input} (hinput : input.Coherent) :
    ∃ part ending last, Drains input part ending last ∧ ∀ sink,
      decoder.PassesTo input sink (decoder.scan input.position part) ending last := by
  obtain ⟨part, ending, last, drains, hruns⟩ := decoder.exists_drains_run input
    (.ofOffset input.position decoder.format.maxRecordSize)
  have hlast := (drains.moved hinput).position
  refine ⟨part, ending, last, drains, fun sink => ?_⟩
  obtain ⟨hcomplete, hoverfull⟩ := hruns sink []
  refine ⟨fun hfits hending => ?_, fun hfits fault hending => ?_, fun hfits => ?_⟩
  · obtain ⟨window, hoffset, hreached, hrun⟩ := hcomplete hfits
    have hback := handBack_eq (hreached.trans hlast.symm)
    rw [hoffset] at hback
    simp only [pass, hrun, hending, hoffset, hback, List.append_nil, List.reverse_reverse]
    rfl
  · obtain ⟨window, -, -, hrun⟩ := hcomplete hfits
    simp only [pass, hrun, hending, List.append_nil, List.reverse_reverse]
    rfl
  · obtain ⟨mid, window, found, hfound, hrun⟩ := hoverfull hfits
    refine ⟨mid, found, hfound, ?_⟩
    simp only [pass, hrun, List.append_nil, List.reverse_reverse]
    rfl

/-- A pass that completed read up to an end of the data, found what a scan of what it read finds,
and moved back to where the scan stopped. -/
theorem exists_drains_of_completed {input : Input} {sink : Sink} {offset : Nat}
    (hinput : input.Coherent) (completed : (decoder.pass input sink).ending = .ok offset) :
    ∃ part last, Drains input part none last ∧
      (decoder.pass input sink).input = last.rewind offset ∧
      (decoder.pass input sink).seen = last.position ∧
      decoder.scan input.position part = ⟨(decoder.pass input sink).items, offset⟩ := by
  obtain ⟨part, ending, last, drains, hpasses⟩ := decoder.exists_drains_pass hinput
  by_cases hfits : sink.Fits (decoder.scan input.position part).text
  · cases hending : ending with
    | none =>
      obtain rfl := hending
      have hpass := (hpasses sink).ended hfits rfl
      rw [hpass] at completed ⊢
      obtain rfl := Except.ok.inj completed
      exact ⟨part, last, drains, rfl, rfl, rfl⟩
    | some fault =>
      rw [(hpasses sink).failed hfits fault hending] at completed
      cases completed
  · obtain ⟨mid, found, -, hpass⟩ := (hpasses sink).overfull hfits
    rw [hpass] at completed
    cases completed

/-- A pass finds nothing if there is less than a header. -/
theorem pass_of_fill {input : Input} {fill : Fill}
    (hfill : (Window.ofOffset input.position decoder.format.maxRecordSize).fill input
      decoder.format.headerSize = fill) (hshort : fill.outcome = .ok false) (sink : Sink) :
    decoder.pass input sink =
      ⟨if fill.window.pending.isEmpty then fill.input else fill.input.seek fill.window.offset,
        sink, [], fill.input.position, .ok fill.window.offset⟩ := by
  have hturn : decoder.turn ⟨input, sink, .ofOffset input.position decoder.format.maxRecordSize,
      []⟩ = .stop none ⟨fill.input, sink, fill.window, []⟩ := by
    subst hfill
    simp only [turn, hshort]
    rfl
  simp only [pass, run_of_stop hturn]
  rfl

end Decoder
end FirmwareTrace
