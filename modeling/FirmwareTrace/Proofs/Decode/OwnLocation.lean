import FirmwareTrace.Proofs.Decode.Contiguity
import FirmwareTrace.Proofs.Decode.LineStructure
import FirmwareTrace.Proofs.Decode.PlainScan
import FirmwareTrace.Proofs.Decode.Reachability
import FirmwareTrace.Proofs.Session.History

/-! # The location of a rendered record

A literal of a symbol cache has its key twice: it is filed under it, and shows the line of it
when it is rendered.  The two are the same however tables are built and merged,
`Supplied.ownKeyed`, so a record is rendered with the line of its own header,
`shows_own_location`.
-/
namespace FirmwareTrace
open Channel Decode

/-! ## Literals under their own keys -/

namespace Libraries

/-- Libraries that hold nothing but symbol caches, in whatever way they came to be filed. -/
inductive Supplied : Libraries Spt.Literal → Prop
  | empty : Supplied ∅
  /-- A symbol cache is built, and its table is filed. -/
  | table {libraries : Libraries Spt.Literal} {octets : List UInt8}
      {table : LiteralTable Spt.Literal} (h : Supplied libraries) (library : LibraryId)
      (hbuild : SymbolCache.build octets = .ok table) : Supplied (libraries.insert library table)
  /-- A source is added, whether or not it can be loaded. -/
  | source {libraries added : Libraries Spt.Literal} (h : Supplied libraries)
      (workspace : Workspace) (source : Source)
      (hadd : ((⟨.csv, libraries⟩ : Session).answer workspace (.add source)).2 = ⟨.csv, added⟩) :
      Supplied added

/-- Every literal is filed under the key that it has itself. -/
def OwnKeyed (libraries : Libraries Spt.Literal) : Prop :=
  ∀ library key literal, libraries.literal? library key = some literal → literal.key = key

theorem ownKeyed_empty : (∅ : Libraries Spt.Literal).OwnKeyed := nofun

variable {libraries : Libraries Spt.Literal}

/-- The step: one more table of a symbol cache. -/
theorem OwnKeyed.insert (h : libraries.OwnKeyed) (library : LibraryId) {octets : List UInt8}
    {table : LiteralTable Spt.Literal} (hbuild : SymbolCache.build octets = .ok table) :
    (libraries.insert library table).OwnKeyed := by
  intro other key literal hliteral
  rw [literal?_insert libraries (library, table)] at hliteral
  rcases Option.or_eq_some_iff.1 hliteral with hknown | ⟨-, hoffered⟩
  · exact h other key literal hknown
  · obtain ⟨-, hget⟩ := offered_eq_some_iff.1 hoffered
    obtain ⟨-, -, -, hkey⟩ := SymbolCache.exists_line_of_build hbuild hget
    exact hkey

/-- The run, along the additions. -/
theorem Supplied.ownKeyed (h : libraries.Supplied) : libraries.OwnKeyed := by
  induction h with
  | empty => exact ownKeyed_empty
  | table _ library hbuild ih => exact ih.insert library hbuild
  | @source libraries added _ workspace source hadd ih =>
    have hfiled : (⟨.csv, libraries.insertAll
        (Session.Call.filing? .csv ⟨workspace, .add source⟩).toList⟩ : Session) = ⟨.csv, added⟩ :=
      (Session.snd_answered .csv libraries ⟨workspace, .add source⟩).symm.trans hadd
    obtain rfl := eq_of_heq (Session.mk.inj hfiled).2
    cases hfiling : Session.Call.filing? .csv ⟨workspace, .add source⟩ with
    | none => exact ih
    | some filing =>
      obtain ⟨_, -, -, hload⟩ := Session.Call.filing?_eq_some_iff.1 hfiling
      obtain ⟨content, -, hbuild⟩ := SourceFormat.load_eq_ok_iff.1 hload
      exact ih.insert filing.1 hbuild

end Libraries

/-! ## The line that is shown -/

/-- A record is rendered with the literal that its header selects. -/
theorem Decoder.exists_literal_of_item {Header Literal : Type} {decoder : Decoder Header Literal}
    {offset : Nat} {record : List UInt8} {rendered : Rendered}
    (h : (decoder.item offset record).outcome = .ok rendered) :
    let header := decoder.format.parse (record.take decoder.format.headerSize)
    ∃ literal, decoder.libraries.literal? (decoder.format.libraryId header)
        (decoder.format.key header) = some literal ∧
      decoder.format.render header literal
        (Bytes.words (record.drop decoder.format.headerSize)) = rendered := by
  intro header
  cases hliteral : decoder.literalFor header with
  | error why =>
    simp only [item, hliteral, header] at h
    cases h
  | ok literal =>
    simp only [item, hliteral, header] at h
    refine ⟨literal, ?_, Except.ok.inj h⟩
    unfold literalFor at hliteral
    split at hliteral
    · exact Libraries.resolve_eq_ok_iff.1 hliteral
    · cases hliteral

namespace Spt

/-- A rendered record with a given number in the place of the source line. -/
def lineText (header : Header) (literal : Literal) (line : Nat) (message : String) : String :=
  let number (n : Nat) : String := String.ofList (Numeral.decimal n)
  number header.timestamp.toNat ++ ": " ++ number header.core.toNat ++ " "
    ++ number header.moduleId.toNat ++ "," ++ number header.instanceId.toNat ++ " "
    ++ literal.filename ++ "(" ++ number line ++ "): " ++ literal.level ++ " " ++ message

/-- The rendering of a record shows the line of its header, and its literal is that of the
header's location. -/
def ShowsOwnLine (libraries : Libraries Literal) (record : List UInt8) (rendered : Rendered) :
    Prop :=
  let header := Header.parse (record.take format.headerSize)
  let payload := Bytes.words (record.drop format.headerSize)
  ∃ literal, libraries.literal? header.libraryId header.key = some literal ∧
    literal.key.fileId.toNat = header.fileId.toNat ∧
    literal.key.line.toNat = header.line.toNat ∧
    rendered.text = lineText header literal header.line.toNat
      (Template.format literal.message payload).text

section
variable {header : Header} {literal : Literal}

theorem fileId_of_key (h : literal.key = header.key) :
    literal.key.fileId.toNat = header.fileId.toNat := by
  rw [h]
  exact toNat_field (by decide)

theorem line_of_key (h : literal.key = header.key) :
    literal.key.line.toNat = header.line.toNat := by
  rw [h]
  exact toNat_field (by decide)

theorem text_render_of_key (h : literal.key = header.key) (payload : List UInt32) :
    (render header literal payload).text =
      lineText header literal header.line.toNat (Template.format literal.message payload).text := by
  rw [← line_of_key h]
  rfl

end

theorem showsOwnLine_of_item {libraries : Libraries Literal} (hkeyed : libraries.OwnKeyed)
    {offset : Nat} {record : List UInt8} {rendered : Rendered}
    (h : (Decoder.item ⟨format, libraries⟩ offset record).outcome = .ok rendered) :
    ShowsOwnLine libraries record rendered := by
  obtain ⟨literal, hliteral, rfl⟩ := Decoder.exists_literal_of_item h
  have hkey : literal.key = Header.key (Header.parse (record.take format.headerSize)) :=
    hkeyed _ _ _ hliteral
  exact ⟨literal, hliteral, fileId_of_key hkey, line_of_key hkey, text_render_of_key hkey _⟩

end Spt

/-! ## The records of a run -/

namespace Decoder

variable {Header Literal : Type} {decoder : Decoder Header Literal}

/-- The items of a scan come from records that stand at their offsets. -/
theorem exists_record_of_mem_scan (offset : Nat) (octets : List UInt8) :
    ∀ item ∈ (decoder.scan offset octets).items, offset ≤ item.offset ∧ ∃ record,
      decoder.format.record? (octets.drop (item.offset - offset)) = some record ∧
        item = decoder.item item.offset record := by
  induction offset, octets using decoder.scan_induction with
  | none offset octets h =>
    rw [decoder.scan_of_none offset h]
    nofun
  | some offset octets record h ih =>
    rw [decoder.scan_of_some offset h, Scan.items_prepend]
    refine List.forall_mem_cons.2 ⟨?_, fun item hmem => ?_⟩
    · rw [item_offset]
      refine ⟨Nat.le_refl _, record, ?_, rfl⟩
      rwa [Nat.sub_self, List.drop_zero]
    · obtain ⟨hle, found, hfound, hitem⟩ := ih item hmem
      refine ⟨Nat.le_of_add_right_le hle, found, ?_, hitem⟩
      rw [List.drop_drop] at hfound
      rwa [show item.offset - offset = (decoder.item offset record).size +
        (item.offset - (offset + (decoder.item offset record).size)) by omega]

theorem PassesTo.items {input last : Input} {sink : Sink} {plain : Scan}
    {ending : Option IoFault} (h : decoder.PassesTo input sink plain ending last) :
    (decoder.pass input sink).items <+: plain.items := by
  by_cases hfits : sink.Fits plain.text
  · cases hending : ending with
    | none => rw [h.ended hfits hending]
    | some fault => rw [h.failed hfits fault hending]
  · obtain ⟨mid, found, hfound, hpass⟩ := h.overfull hfits
    rwa [hpass]

theorem items_decode (input : Input) (sink : Sink) :
    (decoder.decode input sink).items = (decoder.pass input sink).items := by
  unfold decode
  dsimp only
  split <;> rfl

/-- The items of a follow run are contiguous over all its passes. -/
theorem contiguous_follow (input : Input) (sink : Sink) (refusal : Option WatchFault)
    (signals : List Signal) :
    decoder.Contiguous input.position (decoder.follow input sink refusal signals).items := by
  cases refusal with
  | some fault => trivial
  | none =>
    obtain ⟨rounds, rest, last, lastSink, finish, -, hreaches, hends, hfollow⟩ :=
      decoder.exists_rounds_follow signals input sink
    have hresumes := hreaches.resumes hends.resumes
    rw [← List.append_assoc] at hresumes
    have hjournal : decoder.Resumes input.position
        (.subscribe :: (rounds.flatMap Round.calls ++ finish.calls) ++ [.unsubscribe]) := hresumes
    rw [hfollow, ← flatMap_items_journal]
    exact hjournal.contiguous

end Decoder

/-- Whatever symbol caches a decoder was given, a literal is filed under the key that it has
itself.  So a rendered record shows the line of its own header, and its literal has the file
of that header; this holds of one decoding and of every pass of a follow run. -/
theorem Libraries.Supplied.shows_own_location {libraries : Libraries Spt.Literal}
    (hsupplied : libraries.Supplied) :
    let decoder : Decoder Spt.Header Spt.Literal := ⟨Spt.format, libraries⟩
    (∀ library key literal, libraries.literal? library key = some literal → literal.key = key) ∧
    (∀ input : Input, input.Coherent → ∃ part ending last, Drains input part ending last ∧
      ∀ sink, ∀ item ∈ (decoder.decode input sink).items, ∀ rendered,
        item.outcome = .ok rendered → input.position ≤ item.offset ∧ ∃ record,
          Spt.format.record? (part.drop (item.offset - input.position)) = some record ∧
            Spt.ShowsOwnLine libraries record rendered) ∧
    ∀ input sink refusal signals,
      ∀ item ∈ (decoder.follow input sink refusal signals).items, ∀ rendered,
        item.outcome = .ok rendered → ∃ record, Spt.format.record? record = some record ∧
          item = decoder.item item.offset record ∧
            Spt.ShowsOwnLine libraries record rendered := by
  intro decoder
  have hkeyed := hsupplied.ownKeyed
  refine ⟨hkeyed, fun input hinput => ?_, ?_⟩
  · obtain ⟨part, ending, last, drains, hpasses⟩ := decoder.exists_drains_pass hinput
    refine ⟨part, ending, last, drains, fun sink item hmem rendered hrendered => ?_⟩
    rw [Decoder.items_decode] at hmem
    obtain ⟨hle, record, hrecord, hitem⟩ := Decoder.exists_record_of_mem_scan _ _ item
      ((hpasses sink).items.subset hmem)
    rw [hitem] at hrendered
    exact ⟨hle, record, hrecord, Spt.showsOwnLine_of_item hkeyed hrendered⟩
  · intro input sink refusal signals item hmem rendered hrendered
    obtain ⟨record, hrecord, hitem⟩ :=
      (Decoder.contiguous_follow input sink refusal signals).exists_record hmem
    refine ⟨record, hrecord, hitem, ?_⟩
    rw [hitem] at hrendered
    exact Spt.showsOwnLine_of_item hkeyed hrendered

/-- A record of the literal at line 3 of file 1. -/
def idleRecord : List UInt8 :=
  SourceFormat.csv.records.encode (SourceFormat.csv.pack {} [0].length 2 (.ofLocation 1 3))
    ++ Bytes.ofWords [0]

/-- A source that cannot be loaded comes after one that can. -/
theorem Libraries.Supplied.shows_own_location_idle :
    let input : Input := .direct ⟨⟨idleRecord.toArray⟩, 0, []⟩
    ∃ libraries : Libraries Spt.Literal, libraries.Supplied ∧ input.Coherent ∧
      ∃ item ∈ (Decoder.decode ⟨Spt.format, libraries⟩ input {}).items, ∃ record rendered,
        item.outcome = .ok rendered ∧ Spt.ShowsOwnLine libraries record rendered ∧
        rendered.text = "0: 0 0,0 idle.c(3):  \n" := by
  intro input
  obtain ⟨table, hbuild, -, hidle⟩ := SymbolCache.build_written_gainText
  have hfiled := Supplied.empty.table 2 hbuild
  have hsupplied := hfiled.source Session.brokenWorkspace ⟨"broken.csv", 2⟩
    (congrArg Prod.snd (Session.answer_add_of_error Session.breaksOff_brokenText.load_eq))
  have hliteral : ((∅ : Libraries Spt.Literal).insert 2 table).literal? 2 (.ofLocation 1 3)
      = some (SymbolCache.stored (.ofLocation 1 3) SymbolCache.idleLiteral) := hidle
  have hreach : SourceFormat.csv.Reachable 2 (.ofLocation 1 3) := by decide
  obtain ⟨hitems, -, -⟩ := SourceFormat.selects_of_reachable hreach hliteral {} [0]
    ⟨by decide, by decide⟩ input {} (Input.coherent_direct _) nofun rfl rfl
  obtain ⟨-, hdecode, -⟩ := hsupplied.shows_own_location
  obtain ⟨_, _, _, -, hshows⟩ := hdecode input (Input.coherent_direct _)
  have hmem := hitems ▸ List.mem_singleton_self _
  obtain ⟨-, record, -, hshown⟩ := hshows {} _ hmem _ rfl
  have htext : (Spt.render (.pack 1 3 1 0 false 0 0 2 0)
      (SymbolCache.stored (.ofLocation 1 3) SymbolCache.idleLiteral) [0]).text
        = "0: 0 0,0 idle.c(3):  \n" := by decide +kernel
  exact ⟨_, hsupplied, Input.coherent_direct _, _, hmem, record, _, rfl, hshown, htext⟩

end FirmwareTrace
