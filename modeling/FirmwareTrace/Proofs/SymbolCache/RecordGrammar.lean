import FirmwareTrace.Proofs.SymbolCache.Fields

/-! # Grammar of a record

A record has nine commas at least, and numerals in its first two fields.  Any other text is
refused as it stands, and no field of a record loses more than the quotes and blanks around it,
`readRecord_exact`.
-/
namespace FirmwareTrace.SymbolCache

/-! ## Quotes taken off -/

/-- The value that is left when blanks and enclosing quotes are taken off in turn, until no quotes
enclose it. -/
inductive Unquotes : List Char → List Char → Prop
  | bare {field value : List Char} (trims : Text.Trims field value)
      (unquoted : ∀ inner, value ≠ quote :: (inner ++ [quote])) : Unquotes field value
  | layer {field inner value : List Char}
      (trims : Text.Trims field (quote :: (inner ++ [quote]))) (hinner : Unquotes inner value) :
      Unquotes field value

variable {field value : List Char}

theorem unquote_of_unquoted (htrim : Text.trim field = value)
    (hvalue : ∀ inner, value ≠ quote :: (inner ++ [quote])) : unquote field = value := by
  cases value with
  | nil => exact unquote_of_trim_nil htrim
  | cons c rest =>
    rw [unquote_of_trim_cons htrim]
    apply if_neg
    rintro ⟨rfl, hlast⟩
    obtain ⟨inner, rfl⟩ := List.getLast?_eq_some_iff.1 hlast
    exact hvalue inner rfl

theorem Unquotes.unquote_eq (h : Unquotes field value) : unquote field = value := by
  induction h with
  | bare trims unquoted => exact unquote_of_unquoted (Text.trim_eq_iff.2 trims) unquoted
  | layer trims _ ih =>
    have htrim := Text.trim_eq_iff.2 trims
    rw [unquote_congr (htrim.trans (trim_quoted _).symm), unquote_quoted, ih]

theorem unquotes_unquote (field : List Char) : Unquotes field (unquote field) := by
  fun_induction unquote field with
  | case1 field c rest htrim hquotes _ ih =>
    obtain ⟨rfl, hlast⟩ := hquotes
    obtain ⟨inner, rfl⟩ := List.getLast?_eq_some_iff.1 hlast
    rw [List.dropLast_concat] at ih ⊢
    exact .layer (Text.trim_eq_iff.1 htrim) ih
  | case2 field c rest htrim hquotes =>
    refine .bare (Text.trim_eq_iff.1 htrim) ?_
    rintro inner heq
    obtain ⟨rfl, rfl⟩ := List.cons.inj heq
    exact hquotes ⟨rfl, List.getLast?_concat⟩
  | case3 field htrim =>
    exact .bare (Text.trim_eq_iff.1 htrim) fun inner => (List.cons_ne_nil _ _).symm

theorem unquotes_iff : Unquotes field value ↔ unquote field = value :=
  ⟨Unquotes.unquote_eq, fun h => h ▸ unquotes_unquote field⟩

/-- Nothing is left to be taken off. -/
theorem Unquotes.again (h : Unquotes field value) : Unquotes value value := by
  induction h with
  | bare trims unquoted =>
    have hpad := Text.trim_eq_self trims.head trims.last
    exact .bare (Text.trim_eq_iff.1 hpad) unquoted
  | layer _ _ ih => exact ih

theorem unquote_unquote (field : List Char) : unquote (unquote field) = unquote field :=
  (unquotes_unquote field).again.unquote_eq

/-! ## Fields of a record -/

namespace Fields

variable {fields : Fields} {record : List Char}

theorem count_text (h : fields.Separable) :
    fields.text.count ',' = fields.message.count ',' + 9 := by
  have hlength := length_splitOn ',' fields.text
  simp [splitOn_text h, length_splitOn] at hlength
  omega

/-- A text of enough commas is cut into fields. -/
theorem exists_ofRecord? (h : 9 ≤ record.count ',') :
    ∃ fields, ofRecord? record = some fields := by
  have hlength := length_splitOn ',' record
  unfold ofRecord?
  generalize record.splitOn ',' = pieces at hlength ⊢
  rcases pieces with _ | ⟨f₀, _ | ⟨f₁, _ | ⟨f₂, _ | ⟨f₃, _ | ⟨f₄, rest⟩⟩⟩⟩⟩
  case cons.cons.cons.cons.cons =>
    have hrest : 5 ≤ rest.length := by
      simp only [List.length_cons] at hlength
      omega
    have hinner : rest.take (rest.length - 4) ≠ [] := by
      rw [← List.length_pos_iff, List.length_take]
      omega
    have hparams : (rest.drop (rest.length - 4)).length = 4 := by
      rw [List.length_drop]
      omega
    obtain ⟨m, more, hm⟩ := List.exists_cons_of_ne_nil hinner
    obtain ⟨p₀, p₁, p₂, p₃, hp⟩ := List.length_eq_four.1 hparams
    simp [hm, hp]
  -- with fewer pieces there were fewer commas
  all_goals
    simp only [List.length_cons, List.length_nil] at hlength
    omega

theorem exists_text_iff :
    (∃ fields : Fields, fields.Separable ∧ fields.text = record) ↔ 9 ≤ record.count ',' := by
  simp only [← ofRecord?_eq_some_iff]
  constructor
  · rintro ⟨fields, hfields⟩
    obtain ⟨hseparable, rfl⟩ := of_ofRecord?_eq_some hfields
    rw [count_text hseparable]
    omega
  · exact exists_ofRecord?

theorem fileId_line_of_text {fileId line rest : List Char} (h : fields.Separable)
    (hfileId : ',' ∉ fileId) (hline : ',' ∉ line)
    (htext : fields.text = fileId ++ ',' :: (line ++ ',' :: rest)) :
    fields.fileId = fileId ∧ fields.line = line := by
  have hpieces := splitOn_text h
  rw [htext, List.splitOn_append_cons_self, List.splitOn_append_cons_self,
    List.splitOn_eq_singleton hfileId, List.splitOn_eq_singleton hline] at hpieces
  simp only [List.cons_append, List.nil_append, List.cons.injEq] at hpieces
  exact ⟨hpieces.1.symm, hpieces.2.1.symm⟩

theorem text_eq_front (fields : Fields) : ∃ rest,
    fields.text = fields.fileId ++ ',' :: (fields.line ++ ',' :: rest) := by
  rw [text, columns]
  simp [List.intercalate]

end Fields

/-! ## Literals of a record -/

/-- A field with a decimal numeral in it. -/
def HoldsNumeral (field : List Char) (n : UInt32) : Prop :=
  ∃ value, Unquotes field value ∧ Numeral.SpellsWord 10 value n

theorem holdsNumeral_iff {n : UInt32} :
    HoldsNumeral field n ↔ Numeral.word? 10 (unquote field) = some n := by
  simp [HoldsNumeral, unquotes_iff, Numeral.word?_eq_some_iff]

/-- The literal has the values of the fields, and a line break after its message. -/
structure Holds (fields : Fields) (literal : Spt.Literal) : Prop where
  fileId : HoldsNumeral fields.fileId literal.key.fileId
  line : HoldsNumeral fields.line literal.key.line
  filename : Unquotes fields.filename literal.filename.toList
  provider : Unquotes fields.provider literal.provider.toList
  level : Unquotes fields.level literal.level.toList
  message : ∃ value, Unquotes fields.message value ∧ literal.message.toList = value ++ ['\n']
  params : ∀ (i : Nat) (hi : i < 4), Unquotes fields.params[i] literal.params[i].toList

/-- Nine commas, and numerals in the first two fields. -/
structure Acceptable (record : List Char) : Prop where
  commas : 9 ≤ record.count ','
  numerals : ∃ fileId line rest, record = fileId ++ ',' :: (line ++ ',' :: rest) ∧
    ',' ∉ fileId ∧ ',' ∉ line ∧ (∃ n, HoldsNumeral fileId n) ∧ ∃ n, HoldsNumeral line n

section

variable {fields : Fields} {record : List Char} {literal : Spt.Literal} {number : Nat}

theorem Fields.holds_of_literal? (h : fields.literal? = some literal) : Holds fields literal := by
  unfold Fields.literal? at h
  split at h
  · rename_i fileId line hfileId hline
    obtain rfl := Option.some.inj h
    exact
      { fileId := holdsNumeral_iff.2 hfileId
        line := holdsNumeral_iff.2 hline
        filename := unquotes_iff.2 String.toList_ofList.symm
        provider := unquotes_iff.2 String.toList_ofList.symm
        level := unquotes_iff.2 String.toList_ofList.symm
        message := ⟨_, unquotes_unquote _, String.toList_ofList⟩
        params := fun i hi => unquotes_iff.2 (by simp) }
  · cases h

theorem Fields.literal?_of_holds (h : Holds fields literal) : fields.literal? = some literal := by
  obtain ⟨value, hmessage, hbreak⟩ := h.message
  have hparams : (fields.params.map fun p => String.ofList (unquote p)) = literal.params := by
    ext i hi : 1
    rw [Vector.getElem_map, (h.params i hi).unquote_eq, String.ofList_toList]
  unfold Fields.literal?
  rw [holdsNumeral_iff.1 h.fileId, holdsNumeral_iff.1 h.line]
  dsimp only
  rw [h.filename.unquote_eq, h.provider.unquote_eq, h.level.unquote_eq, hmessage.unquote_eq,
    ← hbreak, hparams]
  simp only [String.ofList_toList]
  rfl

theorem Fields.literal?_eq_some_iff : fields.literal? = some literal ↔ Holds fields literal :=
  ⟨holds_of_literal?, literal?_of_holds⟩

theorem Fields.exists_literal?_iff : (∃ literal, fields.literal? = some literal) ↔
    (∃ n, HoldsNumeral fields.fileId n) ∧ ∃ n, HoldsNumeral fields.line n := by
  simp only [holdsNumeral_iff, Fields.literal?]
  cases Numeral.word? 10 (unquote fields.fileId) <;>
    cases Numeral.word? 10 (unquote fields.line) <;> simp

theorem readRecord_eq_ok_iff : readRecord number record = .ok literal ↔
    ∃ fields : Fields, fields.Separable ∧ fields.text = record ∧ Holds fields literal := by
  simp only [← Fields.literal?_eq_some_iff, ← and_assoc, ← Fields.ofRecord?_eq_some_iff,
    ← Option.bind_eq_some_iff]
  unfold readRecord
  cases (Fields.ofRecord? record).bind Fields.literal? <;> simp

theorem exists_readRecord_iff :
    (∃ literal, readRecord number record = .ok literal) ↔ Acceptable record := by
  simp only [readRecord_eq_ok_iff]
  constructor
  · rintro ⟨literal, fields, hseparable, rfl, hholds⟩
    obtain ⟨rest, htext⟩ := fields.text_eq_front
    exact ⟨Fields.exists_text_iff.1 ⟨fields, hseparable, rfl⟩, _, _, rest, htext,
      hseparable.fileId, hseparable.line, ⟨_, hholds.fileId⟩, ⟨_, hholds.line⟩⟩
  · rintro ⟨hcommas, fileId, line, rest, hrecord, hfileId, hline, hnumerals⟩
    obtain ⟨fields, hseparable, htext⟩ := Fields.exists_text_iff.2 hcommas
    obtain ⟨rfl, rfl⟩ :=
      Fields.fileId_line_of_text hseparable hfileId hline (htext.trans hrecord)
    obtain ⟨literal, hliteral⟩ := Fields.exists_literal?_iff.2 hnumerals
    exact ⟨literal, fields, hseparable, htext, Fields.holds_of_literal? hliteral⟩

theorem readRecord_of_not_acceptable (h : ¬Acceptable record) :
    readRecord number record = .error (.badRecord number (String.ofList record)) := by
  rw [← @exists_readRecord_iff record number] at h
  unfold readRecord at h ⊢
  cases hliteral : (Fields.ofRecord? record).bind Fields.literal? with
  | none => rfl
  | some literal => exact absurd ⟨literal, by rw [hliteral]⟩ h

/-- Fields of the same text are the same. -/
theorem Fields.eq_of_text {other : Fields} (h : fields.Separable) (hother : other.Separable)
    (htext : other.text = fields.text) : other = fields := by
  have hfields := ofRecord?_text h
  rw [← htext, ofRecord?_text hother] at hfields
  exact Option.some.inj hfields

end

/-- Which records are read, what a literal has of its record, and how any other record is
refused.  Blanks and quotes are taken off until there are no more. -/
theorem readRecord_exact :
    (∀ (number : Nat) (record : List Char),
      ((∃ literal, readRecord number record = .ok literal) ↔ Acceptable record) ∧
      (¬Acceptable record →
        readRecord number record = .error (.badRecord number (String.ofList record))) ∧
      ∀ literal, readRecord number record = .ok literal →
        (∃! fields : Fields, fields.Separable ∧ fields.text = record) ∧
        ∀ fields : Fields, fields.Separable → fields.text = record → Holds fields literal) ∧
    ∀ field, (∃! value, Unquotes field value) ∧ Unquotes field (unquote field) ∧
      unquote (unquote field) = unquote field := by
  refine ⟨fun number record => ⟨exists_readRecord_iff, readRecord_of_not_acceptable, ?_⟩, ?_⟩
  · intro literal hread
    obtain ⟨fields, hseparable, rfl, hholds⟩ := readRecord_eq_ok_iff.1 hread
    have hunique : ∀ other : Fields, other.Separable → other.text = fields.text →
        other = fields := fun other hother => Fields.eq_of_text hseparable hother
    refine ⟨⟨fields, ⟨hseparable, rfl⟩, fun other hother => hunique other hother.1 hother.2⟩, ?_⟩
    intro other hother htext
    exact hunique other hother htext ▸ hholds
  · intro field
    exact ⟨⟨_, unquotes_unquote field, fun value hvalue => hvalue.unquote_eq.symm⟩,
      unquotes_unquote field, unquote_unquote field⟩

/-- A record with a comma in its message, quotes in quotes, and a plus sign. -/
def nestedRecord : List Char := "\"+1\", 3 ,idle.c,\" \"core\"\",,\"gain, %d\",a,\",c,d".toList

def nestedLiteral : Spt.Literal :=
  { key := .ofLocation 1 3
    filename := "idle.c"
    provider := "core"
    level := ""
    message := "gain, %d\n"
    params := #v["a", "\"", "c", "d"] }

theorem readRecord_exact_nested :
    readRecord 7 nestedRecord = .ok nestedLiteral ∧ Acceptable nestedRecord ∧
      (∃ fields : Fields, fields.Separable ∧ fields.text = nestedRecord ∧
        Holds fields nestedLiteral) ∧
      ¬Acceptable "1,3".toList ∧ readRecord 7 "1,3".toList = .error (.badRecord 7 "1,3") := by
  have hread : readRecord 7 nestedRecord = .ok nestedLiteral := by decide +kernel
  have hcut : readRecord 7 "1,3".toList = .error (.badRecord 7 "1,3") := by decide +kernel
  obtain ⟨haccepts, -, hholds⟩ := readRecord_exact.1 7 nestedRecord
  obtain ⟨⟨fields, hfields, -⟩, hvalues⟩ := hholds nestedLiteral hread
  refine ⟨hread, haccepts.1 ⟨_, hread⟩,
    ⟨fields, hfields.1, hfields.2, hvalues fields hfields.1 hfields.2⟩, ?_, hcut⟩
  intro hacceptable
  obtain ⟨literal, hliteral⟩ := (readRecord_exact.1 7 "1,3".toList).1.2 hacceptable
  rw [hcut] at hliteral
  cases hliteral

end FirmwareTrace.SymbolCache
