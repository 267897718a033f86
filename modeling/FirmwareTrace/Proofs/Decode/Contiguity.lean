import FirmwareTrace.Proofs.Decode.Bracketing
import FirmwareTrace.Session.Basic

/-! # Offsets of a follow run

The items of a run follow each other without a gap, whatever becomes of the data between
its passes: each starts where the one before it ended, in the same pass or in an earlier
one, `follow_contiguous`.  So no offset is found twice, and the offset that a pass ends
at never goes back.
-/
namespace FirmwareTrace
open Channel Decode

namespace RecordFormat

variable {Header Literal : Type} {format : RecordFormat Header Literal}

/-- A record that was found is complete by itself. -/
theorem record?_of_record? {octets record : List UInt8}
    (h : format.record? octets = some record) : format.record? record = some record := by
  obtain ⟨hle, rfl⟩ := format.record?_eq_some h
  have hfirst : (octets.take (format.recordSize (octets.headD 0))).headD 0 = octets.headD 0 := by
    cases octets with
    | nil => rw [List.take_nil]
    | cons first more =>
      obtain ⟨count, hcount⟩ := Nat.exists_eq_add_of_lt (format.recordSize_pos first)
      rw [List.headD_cons, hcount, Nat.zero_add, List.take_succ_cons, List.headD_cons]
  rw [format.record?_of_le]
  · rw [hfirst, List.take_take, Nat.min_self]
  · rw [hfirst, List.length_take, Nat.min_eq_left hle]

theorem length_record {record : List UInt8} (h : format.record? record = some record) :
    record.length = format.recordSize (record.headD 0) := by
  obtain ⟨hle, hrecord⟩ := format.record?_eq_some h
  have hlength := congrArg List.length hrecord
  rwa [List.length_take, Nat.min_eq_left hle] at hlength

end RecordFormat

namespace Decode

/-- The octets that items take together. -/
def extent : List Item → Nat
  | [] => 0
  | item :: items => item.size + extent items

@[simp] theorem extent_append (front back : List Item) :
    extent (front ++ back) = extent front + extent back := by
  induction front with
  | nil => simp [extent]
  | cons item front ih => simp [extent, ih, Nat.add_assoc]

/-- The offset of a pass that completed. -/
def Call.endOffset? : Call → Option Nat
  | .pass _ _ _ (.ok offset) => some offset
  | _ => none

end Decode

namespace Decoder

variable {Header Literal : Type} (decoder : Decoder Header Literal)

/-- Items of complete records, the first at the given offset and each of the others
where the one before it ends. -/
def Contiguous : Nat → List Item → Prop
  | _, [] => True
  | offset, item :: items =>
    (∃ record, decoder.format.record? record = some record ∧ item = decoder.item offset record) ∧
      Contiguous (offset + item.size) items

/-- Passes that each go on where the one before it ended. -/
def Resumes : Nat → List Call → Prop
  | _, [] => True
  | start, .pass items _ _ ending :: calls =>
    decoder.Contiguous start items ∧
      (∀ offset, ending = .ok offset → offset = start + extent items) ∧
      Resumes (start + extent items) calls
  | start, .subscribe :: calls => Resumes start calls
  | start, .flush :: calls => Resumes start calls
  | start, .wait :: calls => Resumes start calls
  | start, .unsubscribe :: calls => Resumes start calls

variable {decoder}

theorem item_offset (offset : Nat) (record : List UInt8) :
    (decoder.item offset record).offset = offset := by
  unfold item
  dsimp only
  split <;> rfl

/-- A rendered record takes as many octets as its first one says, a marker one word. -/
theorem item_size {record : List UInt8} (offset : Nat)
    (h : decoder.format.record? record = some record) :
    (decoder.item offset record).size =
      if (decoder.item offset record).isRendered then
        decoder.format.recordSize (record.headD 0) else wordSize := by
  rw [← RecordFormat.length_record h]
  cases hliteral : decoder.literalFor
      (decoder.format.parse (record.take decoder.format.headerSize)) with
  | ok literal => simp [item, hliteral, Item.isRendered]
  | error why => simp [item, hliteral, Item.isRendered]

theorem contiguous_append {front back : List Item} {offset : Nat} :
    decoder.Contiguous offset (front ++ back) ↔
      decoder.Contiguous offset front ∧ decoder.Contiguous (offset + extent front) back := by
  induction front generalizing offset with
  | nil => simp [Contiguous, extent]
  | cons item front ih => simp [Contiguous, extent, ih, and_assoc, Nat.add_assoc]

theorem Contiguous.mono {front items : List Item} {offset : Nat} (hfront : front <+: items)
    (h : decoder.Contiguous offset items) : decoder.Contiguous offset front := by
  obtain ⟨back, rfl⟩ := hfront
  exact (contiguous_append.1 h).1

/-- The items of a plain scan are contiguous up to its end. -/
theorem contiguous_scan (offset : Nat) (octets : List UInt8) :
    decoder.Contiguous offset (decoder.scan offset octets).items ∧
      (decoder.scan offset octets).endOffset
        = offset + extent (decoder.scan offset octets).items := by
  induction offset, octets using decoder.scan_induction with
  | none offset octets h =>
    rw [decoder.scan_of_none offset h]
    exact ⟨trivial, rfl⟩
  | some offset octets record h ih =>
    rw [decoder.scan_of_some offset h, Scan.items_prepend, Scan.endOffset_prepend]
    refine ⟨⟨⟨record, RecordFormat.record?_of_record? h, rfl⟩, ih.1⟩, ?_⟩
    rw [ih.2, List.singleton_append, extent, Nat.add_assoc]

variable {items : List Item} {start : Nat}

theorem Contiguous.offset_eq {before after : List Item} {item : Item}
    (h : decoder.Contiguous start (before ++ item :: after)) :
    item.offset = start + extent before := by
  obtain ⟨-, ⟨record, -, rfl⟩, -⟩ := contiguous_append.1 h
  exact item_offset _ _

theorem Contiguous.exists_record (h : decoder.Contiguous start items) {item : Item}
    (hitem : item ∈ items) : ∃ record, decoder.format.record? record = some record ∧
      item = decoder.item item.offset record := by
  obtain ⟨before, after, rfl⟩ := List.append_of_mem hitem
  have hoffset := h.offset_eq
  obtain ⟨-, hrecord, -⟩ := contiguous_append.1 h
  rwa [← hoffset] at hrecord

theorem Contiguous.le_offset (h : decoder.Contiguous start items) {item : Item}
    (hitem : item ∈ items) : start ≤ item.offset := by
  obtain ⟨before, after, rfl⟩ := List.append_of_mem hitem
  rw [h.offset_eq]
  exact Nat.le_add_right _ _

/-- Later items have larger offsets. -/
theorem Contiguous.pairwise_lt (h : decoder.Contiguous start items) :
    items.Pairwise fun a b => a.offset < b.offset := by
  induction items generalizing start with
  | nil => exact .nil
  | cons item items ih =>
    obtain ⟨⟨record, hrecord, rfl⟩, hrest⟩ := h
    refine List.pairwise_cons.2 ⟨fun other hother => ?_, ih hrest⟩
    have hpos : 0 < record.length := by
      rw [RecordFormat.length_record hrecord]
      exact decoder.format.recordSize_pos _
    have hsize : 0 < (decoder.item start record).size := decoder.item_size_pos hpos
    have hle := hrest.le_offset hother
    rw [item_offset]
    omega

/-- Where headers are whole words, so is all that items take. -/
theorem Contiguous.dvd_extent (hheader : wordSize ∣ decoder.format.headerSize)
    (h : decoder.Contiguous start items) : wordSize ∣ extent items := by
  induction items generalizing start with
  | nil => exact Nat.dvd_zero _
  | cons item items ih =>
    obtain ⟨⟨record, hrecord, rfl⟩, hrest⟩ := h
    refine Nat.dvd_add ?_ (ih hrest)
    rw [item_size start hrecord]
    split
    · exact Nat.dvd_add hheader (Nat.dvd_mul_left _ _)
    · exact Nat.dvd_refl _

theorem Resumes.contiguous {calls : List Call} (h : decoder.Resumes start calls) :
    decoder.Contiguous start (calls.flatMap Call.items) := by
  induction calls generalizing start with
  | nil => trivial
  | cons call calls ih =>
    cases call with
    | pass items written seen ending =>
      obtain ⟨hitems, -, hrest⟩ := h
      exact contiguous_append.2 ⟨hitems, ih hrest⟩
    | subscribe => exact ih h
    | flush => exact ih h
    | wait => exact ih h
    | unsubscribe => exact ih h

/-- A pass ends where all items up to then end. -/
theorem Resumes.offset_eq {before after : List Call} {written : ByteArray} {seen offset : Nat}
    (h : decoder.Resumes start (before ++ .pass items written seen (.ok offset) :: after)) :
    offset = start + extent (before.flatMap Call.items ++ items) := by
  induction before generalizing start with
  | nil => exact h.2.1 offset rfl
  | cons call before ih =>
    cases call with
    | pass found written seen ending =>
      rw [ih h.2.2, List.flatMap_cons, Call.items, List.append_assoc,
        extent_append found, Nat.add_assoc]
    | subscribe => exact ih h
    | flush => exact ih h
    | wait => exact ih h
    | unsubscribe => exact ih h

/-- No pass ends before one in front of it. -/
theorem Resumes.pairwise_le {calls : List Call} (h : decoder.Resumes start calls) :
    (∀ offset ∈ calls.filterMap Call.endOffset?, start ≤ offset) ∧
      (calls.filterMap Call.endOffset?).Pairwise (· ≤ ·) := by
  induction calls generalizing start with
  | nil => exact ⟨fun offset hoffset => absurd hoffset List.not_mem_nil, .nil⟩
  | cons call calls ih =>
    cases call with
    | pass items written seen ending =>
      obtain ⟨-, hending, hrest⟩ := h
      obtain ⟨hstart, hpairwise⟩ := ih hrest
      cases ending with
      | error fault =>
        refine ⟨fun offset hoffset => ?_, hpairwise⟩
        exact Nat.le_of_add_right_le (hstart offset hoffset)
      | ok offset =>
        obtain rfl := hending offset rfl
        refine ⟨?_, List.pairwise_cons.2 ⟨hstart, hpairwise⟩⟩
        intro other hother
        rcases List.mem_cons.1 hother with rfl | hother
        · exact Nat.le_add_right _ _
        · exact Nat.le_of_add_right_le (hstart other hother)
    | subscribe => exact ih h
    | flush => exact ih h
    | wait => exact ih h
    | unsubscribe => exact ih h

variable {input last : Input} {sink lastSink : Sink} {rounds : List Round} {finish : Finish}

theorem contiguous_pass (input : Input) (sink : Sink) :
    decoder.Contiguous input.position (decoder.pass input sink).items := by
  obtain ⟨part, hcovers⟩ := decoder.exists_covers_pass input sink
  exact (decoder.contiguous_scan input.position part).1.mono hcovers.items

theorem offset_pass {offset : Nat} (completed : (decoder.pass input sink).ending = .ok offset) :
    offset = input.position + extent (decoder.pass input sink).items := by
  obtain ⟨part, hcovers⟩ := decoder.exists_covers_pass input sink
  obtain ⟨-, hitems, rfl⟩ := hcovers.completed offset completed
  rw [hitems]
  exact (decoder.contiguous_scan input.position part).2

/-- A round leaves its input where its items end, whatever the data is by then. -/
theorem Reaches.resumes {rest : List Call} (h : decoder.Reaches input sink rounds last lastSink)
    (hrest : decoder.Resumes last.position rest) :
    decoder.Resumes input.position (rounds.flatMap Round.calls ++ rest) := by
  induction h with
  | start input sink => exact hrest
  | @round input last sink lastSink offset rounds change completed reaches ih =>
    have hnext := ih hrest
    rw [Input.position_seek, offset_pass completed] at hnext
    refine ⟨contiguous_pass input sink, ?_, hnext⟩
    rintro _ ⟨⟩
    exact offset_pass completed

theorem Ends.resumes {signals : List Signal} (h : decoder.Ends input sink signals finish) :
    decoder.Resumes input.position (finish.calls ++ [.unsubscribe]) := by
  cases h with
  | failed hfailed => exact ⟨contiguous_pass input sink, nofun, trivial⟩
  | waited completed answered =>
    refine ⟨contiguous_pass input sink, ?_, trivial⟩
    rintro _ ⟨⟩
    exact offset_pass completed

end Decoder

/-- A run whose items follow each other from an offset on. -/
structure Decode.Following.Advances {Header Literal : Type} (run : Following)
    (decoder : Decoder Header Literal) (start : Nat) : Prop where
  items : run.items = run.journal.flatMap Call.items
  /-- The first item is at the start, and each of the others where the one before it ends. -/
  offsets : ∀ before item after, run.items = before ++ item :: after →
    item.offset = start + extent before
  /-- An item takes its whole record if it is rendered, and one word if it is not. -/
  sizes : ∀ item ∈ run.items, ∃ record, decoder.format.record? record = some record ∧
    item = decoder.item item.offset record ∧
    item.size = if item.isRendered then decoder.format.recordSize (record.headD 0) else wordSize
  increasing : run.items.Pairwise fun a b => a.offset < b.offset
  /-- A pass ends where the items found up to then end. -/
  endings : ∀ before items written seen offset after,
    run.journal = before ++ .pass items written seen (.ok offset) :: after →
    offset = start + extent (before.flatMap Call.items ++ items) ∧
      offset % wordSize = start % wordSize
  monotone : (run.journal.filterMap Call.endOffset?).Pairwise (· ≤ ·)
  result : ∀ stats, run.outcome = .ok stats → stats.endOffset = start + extent run.items ∧
    stats.endOffset % wordSize = start % wordSize

namespace Decoder

variable {Header Literal : Type} {decoder : Decoder Header Literal} {run : Following}
  {start offset : Nat}

theorem add_extent_mod {items : List Item} (hheader : wordSize ∣ decoder.format.headerSize)
    (h : decoder.Contiguous start items) :
    (start + extent items) % wordSize = start % wordSize := by
  obtain ⟨count, hcount⟩ := h.dvd_extent hheader
  rw [hcount, Nat.add_mul_mod_self_left]

/-- A journal of passes that go on from each other, with the items and the statistics of
the run taken from it, is all that matters. -/
theorem advances_of_resumes (hheader : wordSize ∣ decoder.format.headerSize)
    (hitems : run.items = run.journal.flatMap Call.items)
    (hresumes : decoder.Resumes start run.journal)
    (hresult : ∀ stats, run.outcome = .ok stats → stats.endOffset = start + extent run.items) :
    run.Advances decoder start := by
  have hcontiguous := hresumes.contiguous
  rw [← hitems] at hcontiguous
  refine ⟨hitems, fun before item after h => ?_, fun item hitem => ?_, hcontiguous.pairwise_lt,
    fun before items written seen offset after h => ?_, hresumes.pairwise_le.2,
    fun stats h => ⟨hresult stats h, ?_⟩⟩
  · rw [h] at hcontiguous
    exact hcontiguous.offset_eq
  · obtain ⟨record, hrecord, heq⟩ := hcontiguous.exists_record hitem
    refine ⟨record, hrecord, heq, ?_⟩
    rw [heq]
    exact item_size _ hrecord
  · rw [h] at hresumes
    have hoffset := hresumes.offset_eq
    have hfound : (before ++ .pass items written seen (.ok offset) :: after).flatMap Call.items
        = before.flatMap Call.items ++ items ++ after.flatMap Call.items := by
      rw [List.flatMap_append, List.flatMap_cons, ← List.append_assoc]
      rfl
    have hbefore := hresumes.contiguous
    rw [hfound] at hbefore
    refine ⟨hoffset, ?_⟩
    rw [hoffset]
    exact add_extent_mod hheader (contiguous_append.1 hbefore).1
  · rw [hresult stats h]
    exact add_extent_mod hheader hcontiguous

end Decoder

namespace SourceFormat

theorem wordSize_dvd_headerSize (format : SourceFormat) :
    wordSize ∣ format.records.headerSize := by
  cases format <;> decide

/-- Whatever becomes of the data while a run waits, the run goes on from the offset that
it came to, and its offsets only ever increase. -/
theorem follow_contiguous (format : SourceFormat) (libraries : Libraries format.Literal)
    (input : Input) (sink : Sink) (refusal : Option WatchFault) (signals : List Signal) :
    (Decoder.follow ⟨format.records, libraries⟩ input sink refusal signals).Advances
      ⟨format.records, libraries⟩ input.position := by
  cases refusal with
  | some fault =>
    exact Decoder.advances_of_resumes format.wordSize_dvd_headerSize rfl trivial nofun
  | none =>
    obtain ⟨rounds, rest, last, lastSink, finish, -, hreaches, hends, hfollow⟩ :=
      Decoder.exists_rounds_follow ⟨format.records, libraries⟩ signals input sink
    have hresumes := hreaches.resumes hends.resumes
    rw [← List.append_assoc] at hresumes
    rw [hfollow]
    refine Decoder.advances_of_resumes format.wordSize_dvd_headerSize
      (flatMap_items_journal rounds finish).symm hresumes fun stats hstats => ?_
    obtain ⟨visit, offset, rfl, rfl⟩ := Finish.outcome_eq_ok.1 hstats
    have hlast := List.append_assoc (rounds.flatMap Round.calls)
      (Finish.calls (.waited visit offset .closed)) [.unsubscribe]
    rw [hlast] at hresumes
    have hoffset := hresumes.offset_eq
    rw [flatMap_items_calls] at hoffset
    exact hoffset

end SourceFormat
end FirmwareTrace
