import FirmwareTrace.Proofs.SymbolCache.Quoting
import FirmwareTrace.Proofs.Text.Joining

/-! # Fields of a written record

The columns of a record are joined by commas, of which only the message may hold more.
Cutting the record gives them back, `ofRecord?_eq_some_iff`, and they describe the literal that
was written, `literal?_of_writes`.
-/
namespace FirmwareTrace.SymbolCache

theorem toList_params (params : Vector (List Char) 4) :
    params.toList = [params[0], params[1], params[2], params[3]] := by
  apply List.ext_getElem
  · simp
  · intro i hi _
    have hlt : i < 4 := by simpa using hi
    match i, hlt with
    | 0, _ => rfl
    | 1, _ => rfl
    | 2, _ => rfl
    | 3, _ => rfl

theorem params_eq (params : Vector (List Char) 4) :
    #v[params[0], params[1], params[2], params[3]] = params :=
  Vector.toList_inj.1 (toList_params params).symm

namespace Fields

def columns (fields : Fields) : List (List Char) :=
  [fields.fileId, fields.line, fields.filename, fields.provider, fields.level, fields.message]
    ++ fields.params.toList

/-- The record of the fields. -/
def text (fields : Fields) : List Char := [','].intercalate fields.columns

/-- Commas stand in the message only. -/
structure Separable (fields : Fields) : Prop where
  fileId : ',' ∉ fields.fileId
  line : ',' ∉ fields.line
  filename : ',' ∉ fields.filename
  provider : ',' ∉ fields.provider
  level : ',' ∉ fields.level
  params : ∀ param ∈ fields.params, ',' ∉ param

variable {fields : Fields}

theorem splitOn_text (h : fields.Separable) :
    fields.text.splitOn ','
      = fields.fileId :: fields.line :: fields.filename :: fields.provider :: fields.level
        :: (fields.message.splitOn ',' ++ fields.params.toList) := by
  have hparams : fields.params.toList.flatMap (·.splitOn ',') = fields.params.toList :=
    flatMap_splitOn_eq_self fun param hparam => h.params param (Vector.mem_toList_iff.1 hparam)
  rw [text, columns,
    splitOn_intercalate_eq_flatMap _ (List.append_ne_nil_of_left_ne_nil (List.cons_ne_nil _ _) _),
    List.flatMap_append, hparams]
  simp only [List.flatMap_cons, List.flatMap_nil, List.splitOn_eq_singleton h.fileId,
    List.splitOn_eq_singleton h.line, List.splitOn_eq_singleton h.filename,
    List.splitOn_eq_singleton h.provider, List.splitOn_eq_singleton h.level,
    List.cons_append, List.nil_append, List.append_nil]

/-- A record is cut into the fields that it was written from. -/
theorem ofRecord?_text (h : fields.Separable) : ofRecord? fields.text = some fields := by
  -- the message has at least one piece, so the last four pieces are the parameters
  obtain ⟨first, more, hmessage⟩ := List.exists_cons_of_ne_nil
    (List.splitOn_ne_nil ',' fields.message)
  have hjoin : [','].intercalate (first :: more) = fields.message :=
    hmessage ▸ List.intercalate_splitOn ','
  have hlength : ((first :: more) ++ fields.params.toList).length - 4 = (first :: more).length := by
    simp
  unfold ofRecord?
  rw [splitOn_text h, hmessage]
  dsimp only
  rw [hlength, List.take_left, List.drop_left, toList_params]
  dsimp only
  rw [hjoin, params_eq]

/-- Only the record of the fields is cut into them. -/
theorem of_ofRecord?_eq_some {record : List Char} (h : ofRecord? record = some fields) :
    fields.Separable ∧ fields.text = record := by
  unfold ofRecord? at h
  split at h
  · rename_i fileId line filename provider level rest hpieces
    split at h
    · rename_i first more p₀ p₁ p₂ p₃ htake hdrop
      obtain rfl := Option.some.inj h
      have hrest : rest = (first :: more) ++ [p₀, p₁, p₂, p₃] := by
        rw [← htake, ← hdrop, List.take_append_drop]
      have hcomma : ∀ piece ∈ fileId :: line :: filename :: provider :: level :: rest,
          ',' ∉ piece := by
        intro piece hpiece
        exact not_mem_of_mem_splitOn (hpieces ▸ hpiece)
      simp only [hrest, List.forall_mem_cons, List.forall_mem_append] at hcomma
      obtain ⟨hfileId, hline, hfilename, hprovider, hlevel, hmessage, hparams⟩ := hcomma
      have hseparable : Separable ⟨fileId, line, filename, provider, level,
          [','].intercalate (first :: more), #v[p₀, p₁, p₂, p₃]⟩ := by
        refine ⟨hfileId, hline, hfilename, hprovider, hlevel, ?_⟩
        simpa using hparams
      have hjoin : ([','].intercalate (first :: more)).splitOn ',' = first :: more :=
        List.splitOn_intercalate _ (List.forall_mem_cons.2 hmessage) (List.cons_ne_nil _ _)
      -- two texts of the same pieces
      have hsame := splitOn_text hseparable
      simp only [hjoin, Vector.toList_mk, ← hrest, ← hpieces] at hsame
      have hrecord : [','].intercalate (record.splitOn ',') = record := List.intercalate_splitOn ','
      refine ⟨hseparable, ?_⟩
      rw [← hrecord, ← hsame, List.intercalate_splitOn]
    · cases h
  · cases h

theorem ofRecord?_eq_some_iff {record : List Char} :
    ofRecord? record = some fields ↔ fields.Separable ∧ fields.text = record :=
  ⟨of_ofRecord?_eq_some, fun ⟨hseparable, htext⟩ => htext ▸ ofRecord?_text hseparable⟩

/-! ## The last column -/

/-- The columns before the last one. -/
def front (fields : Fields) : List Char :=
  [','].intercalate
    [fields.fileId, fields.line, fields.filename, fields.provider, fields.level, fields.message,
      fields.params[0], fields.params[1], fields.params[2]]

def last (fields : Fields) : List Char := fields.params[3]

theorem text_eq (fields : Fields) : fields.text = fields.front ++ ',' :: fields.last := by
  rw [text, columns, toList_params]
  simp [front, last, List.intercalate]

def withLast (fields : Fields) (column : List Char) : Fields :=
  { fields with params := fields.params.set 3 column }

theorem text_withLast (fields : Fields) (column : List Char) :
    (fields.withLast column).text = fields.front ++ ',' :: column := by
  rw [text_eq]
  simp [withLast, front, last]

theorem Separable.last (h : fields.Separable) : ',' ∉ fields.last :=
  h.params _ (Vector.getElem_mem _)

theorem Separable.withLast (h : fields.Separable) {column : List Char} (hcolumn : ',' ∉ column) :
    (fields.withLast column).Separable where
  fileId := h.fileId
  line := h.line
  filename := h.filename
  provider := h.provider
  level := h.level
  params := by
    intro param hparam
    have hset : param ∈ fields.params.set 3 column := hparam
    rcases Vector.mem_or_eq_of_mem_set hset with hparam | rfl
    · exact h.params param hparam
    · exact hcolumn

/-- Blanks around the last column are of no account. -/
theorem literal?_withLast {column : List Char} (h : Text.trim column = Text.trim fields.last) :
    (fields.withLast column).literal? = fields.literal? := by
  have hparams : (fields.withLast column).params.map (fun p => String.ofList (unquote p))
      = fields.params.map fun p => String.ofList (unquote p) := by
    ext i hi : 1
    simp only [withLast, Vector.getElem_map, Vector.getElem_set]
    split
    · subst i
      rw [unquote_congr h, last]
    · rfl
  unfold literal?
  rw [hparams]
  rfl

end Fields

/-! ## Literals -/

/-- A text without commas of its own. -/
structure Value (value : String) : Prop extends Plain value.toList where
  noComma : ',' ∉ value.toList

instance : DecidablePred Value := fun value =>
  decidable_of_iff (Plain value.toList ∧ ',' ∉ value.toList)
    ⟨fun ⟨hplain, hcomma⟩ => ⟨hplain, hcomma⟩, fun h => ⟨h.toPlain, h.noComma⟩⟩

/-- A literal that a record can describe. -/
structure Writable (literal : Spt.Literal) : Prop where
  filename : Value literal.filename
  provider : Value literal.provider
  level : Value literal.level
  message : Plain literal.message.toList
  params : ∀ (i : Nat) (hi : i < 4), Value literal.params[i]

instance : DecidablePred Writable := fun literal =>
  decidable_of_iff
    (Value literal.filename ∧ Value literal.provider ∧ Value literal.level ∧
      Plain literal.message.toList ∧ ∀ (i : Nat) (hi : i < 4), Value literal.params[i])
    ⟨fun ⟨hfilename, hprovider, hlevel, hmessage, hparams⟩ =>
        ⟨hfilename, hprovider, hlevel, hmessage, hparams⟩,
      fun h => ⟨h.filename, h.provider, h.level, h.message, h.params⟩⟩

/-- The fields write the literal of a key. -/
structure Writes (fields : Fields) (key : RecordKey) (literal : Spt.Literal) : Prop where
  fileId : Wrapped (Numeral.decimal key.fileId.toNat) fields.fileId
  line : Wrapped (Numeral.decimal key.line.toNat) fields.line
  filename : Wrapped literal.filename.toList fields.filename
  provider : Wrapped literal.provider.toList fields.provider
  level : Wrapped literal.level.toList fields.level
  message : Wrapped literal.message.toList fields.message
  params : ∀ (i : Nat) (hi : i < 4), Wrapped literal.params[i].toList fields.params[i]

/-- The literal that is stored under a key: it carries the key, and its message is ended by a
line break. -/
def stored (key : RecordKey) (literal : Spt.Literal) : Spt.Literal :=
  { literal with key := key, message := literal.message ++ "\n" }

variable {fields : Fields} {key : RecordKey} {literal : Spt.Literal}

theorem Writes.separable (hwritable : Writable literal) (h : Writes fields key literal) :
    fields.Separable where
  fileId := h.fileId.noComma (not_mem_decimal (by decide))
  line := h.line.noComma (not_mem_decimal (by decide))
  filename := h.filename.noComma hwritable.filename.noComma
  provider := h.provider.noComma hwritable.provider.noComma
  level := h.level.noComma hwritable.level.noComma
  params := by
    intro param hparam
    obtain ⟨i, hi, rfl⟩ := Vector.getElem_of_mem hparam
    exact (h.params i hi).noComma (hwritable.params i hi).noComma

theorem Writes.oneLine (hwritable : Writable literal) (h : Writes fields key literal) :
    '\n' ∉ fields.text := by
  have hcolumns : ∀ column ∈ fields.columns, '\n' ∉ column := by
    intro column hcolumn
    rcases List.mem_append.1 hcolumn with hcolumn | hparam
    · simp only [List.mem_cons, List.not_mem_nil, or_false] at hcolumn
      rcases hcolumn with rfl | rfl | rfl | rfl | rfl | rfl
      · exact h.fileId.oneLine (plain_decimal _).oneLine
      · exact h.line.oneLine (plain_decimal _).oneLine
      · exact h.filename.oneLine hwritable.filename.oneLine
      · exact h.provider.oneLine hwritable.provider.oneLine
      · exact h.level.oneLine hwritable.level.oneLine
      · exact h.message.oneLine hwritable.message.oneLine
    · obtain ⟨i, hi, rfl⟩ := Vector.getElem_of_mem (Vector.mem_toList_iff.1 hparam)
      exact (h.params i hi).oneLine (hwritable.params i hi).oneLine
  intro hmem
  rcases mem_intercalate hmem with hcomma | ⟨column, hcolumn, hmem⟩
  · exact absurd hcomma (by decide)
  · exact hcolumns column hcolumn hmem

theorem literal?_of_writes (hwritable : Writable literal) (h : Writes fields key literal) :
    fields.literal? = some (stored key literal) := by
  have hparams : (fields.params.map fun p => String.ofList (unquote p)) = literal.params := by
    ext i hi : 1
    rw [Vector.getElem_map, (h.params i hi).unquote_eq (hwritable.params i hi).toPlain,
      String.ofList_toList]
  have hmessage : String.ofList (literal.message.toList ++ ['\n']) = literal.message ++ "\n" := by
    rw [String.ofList_append, String.ofList_toList]
  unfold Fields.literal?
  rw [h.fileId.unquote_eq (plain_decimal _), h.line.unquote_eq (plain_decimal _),
    Numeral.word?_decimal, Numeral.word?_decimal]
  dsimp only
  rw [h.filename.unquote_eq hwritable.filename.toPlain,
    h.provider.unquote_eq hwritable.provider.toPlain,
    h.level.unquote_eq hwritable.level.toPlain, h.message.unquote_eq hwritable.message,
    hparams, hmessage]
  simp only [String.ofList_toList]
  rfl

end FirmwareTrace.SymbolCache
