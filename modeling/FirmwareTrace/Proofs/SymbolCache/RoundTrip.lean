import FirmwareTrace.Proofs.SymbolCache.Fields
import FirmwareTrace.Proofs.SymbolCache.Lines
import FirmwareTrace.Proofs.Table.Lookup

/-! # Written symbol caches

A table of literals is written one record to a line, in any order.  Building a cache from the
text gives the table back, `build_written`.
-/
namespace FirmwareTrace.SymbolCache

/-- The texts that write the literals of keys, a line each. -/
inductive Written : List (RecordKey × Spt.Literal) → List Char → Prop
  | nil : Written [] []
  | line {key : RecordKey} {literal : Spt.Literal} {fields : Fields}
      {entries : List (RecordKey × Spt.Literal)} {text : List Char} (ending : LineEnding)
      (hwrites : Writes fields key literal) (hrest : Written entries text) :
      Written ((key, literal) :: entries) (fields.text ++ ending.returns ++ '\n' :: text)

/-! ## One line -/

section

variable {fields : Fields} {key : RecordKey} {literal : Spt.Literal}

/-- The returns on a line change its last column by blanks only. -/
theorem exists_record? (hseparable : fields.Separable) (ending : LineEnding) :
    ∃ column, Line.record? ⟨octets (fields.text ++ ending.returns), true⟩
        = some (fields.withLast column).text ∧
      Text.trim column = Text.trim fields.last ∧ ',' ∉ column := by
  have hreturns : Text.Blanks ending.returns ∧ ',' ∉ ending.returns := by
    cases ending <;> simp [LineEnding.returns, Text.Blanks, Text.isBlank]
  have hbody : fields.text ++ ending.returns
      = fields.front ++ ',' :: (fields.last ++ ending.returns) := by
    rw [Fields.text_eq, List.append_assoc, List.cons_append]
  refine ⟨dropReturn (dropReturn (fields.last ++ ending.returns)), ?_, ?_, ?_⟩
  · rw [record?_octets, hbody, dropReturn_append_cons (by decide),
      dropReturn_append_cons (by decide), Fields.text_withLast]
  · rw [trim_dropReturn, trim_dropReturn, Text.trim_append_right hreturns.1]
  · intro hcomma
    rcases List.mem_append.1 (mem_of_mem_dropReturn (mem_of_mem_dropReturn hcomma)) with h | h
    · exact hseparable.last h
    · exact hreturns.2 h

/-- The line of a literal is read as this literal. -/
theorem literal?_line (hwritable : Writable literal) (hwrites : Writes fields key literal)
    (ending : LineEnding) (number : Nat) :
    Line.literal? number ⟨octets (fields.text ++ ending.returns), true⟩
      = .ok (some (stored key literal)) := by
  have hseparable := hwrites.separable hwritable
  obtain ⟨column, hrecord, htrim, hcomma⟩ := exists_record? hseparable ending
  have hblank : Text.trim (fields.withLast column).text ≠ [] := by
    rw [Fields.text_withLast]
    exact Text.trim_ne_nil (c := ',') (by simp) (by decide)
  have hread : readRecord number (fields.withLast column).text = .ok (stored key literal) := by
    rw [readRecord, Fields.ofRecord?_text (hseparable.withLast hcomma), Option.bind_some,
      Fields.literal?_withLast htrim, literal?_of_writes hwritable hwrites]
  rw [Line.literal?, hrecord]
  dsimp only
  rw [if_neg hblank, hread]
  rfl

end

/-! ## All lines -/

variable {entries : List (RecordKey × Spt.Literal)} {text : List Char}

theorem readLines_written (hwritten : Written entries text)
    (hwritable : ∀ entry ∈ entries, Writable entry.2) (number : Nat) :
    ∃ found, readLines number (lines (octets text)) = ⟨found, none⟩ ∧
      found.map (fun e => (e.literal.key, e.literal))
        = entries.map fun entry => (entry.1, stored entry.1 entry.2) := by
  -- along the lines; the next line is read under the next number
  induction hwritten generalizing number with
  | nil =>
    refine ⟨[], ?_, rfl⟩
    have hlines : lines (octets []) = [] := lines_nil
    rw [hlines, readLines]
  | @line key literal fields entries text ending hwrites hrest ih =>
    have hliteral : Writable literal := hwritable (key, literal) List.mem_cons_self
    obtain ⟨found, hread, hfound⟩ :=
      ih (fun entry hentry => hwritable entry (List.mem_cons_of_mem _ hentry)) (number + 1)
    have honeLine : '\n' ∉ fields.text ++ ending.returns := by
      intro hmem
      rcases List.mem_append.1 hmem with hmem | hmem
      · exact hwrites.oneLine hliteral hmem
      · cases ending <;> simp [LineEnding.returns] at hmem
    refine ⟨⟨number, stored key literal⟩ :: found, ?_, ?_⟩
    · rw [lines_text_append honeLine, readLines, literal?_line hliteral hwrites]
      dsimp only
      rw [hread]
      rfl
    · rw [List.map_cons, List.map_cons, hfound]
      rfl

/-- A cache is built from a written table, in whatever order its lines come: it finds at every
key what the table has there. -/
theorem build_written {table : Table RecordKey Spt.Literal}
    (hwritable : ∀ entry ∈ table.entries, Writable entry.2) (hperm : entries.Perm table.entries)
    (hwritten : Written entries text) :
    ∃ cache, build (octets text) = .ok cache ∧
      ∀ key, cache.get? key = (table.get? key).map (stored key) := by
  obtain ⟨found, hread, hfound⟩ :=
    readLines_written hwritten (fun entry hentry => hwritable entry (hperm.mem_iff.1 hentry)) 1
  refine ⟨Table.ofFirst (entries.map fun entry => (entry.1, stored entry.1 entry.2)), ?_, ?_⟩
  · rw [build, read, hread, Reading.table, hfound]
  · intro key
    rw [Table.get?_ofFirst, Table.lookup_map, Table.lookup_perm hperm table.nodup_keys]
    rfl

/-- Its message holds commas and quotes, and its first parameter is a lone quote. -/
def gainLiteral : Spt.Literal where
  key := .ofLocation 7 42
  filename := "dsp.c"
  provider := "core"
  level := "INFO"
  message := "gain %u, \"rate\" %u"
  params := #v["\"", "", "p2", "p3"]

def idleLiteral : Spt.Literal where
  key := .ofLocation 1 3
  filename := "idle.c"
  provider := "core"
  level := ""
  message := ""
  params := #v["", "", "", ""]

def gainFields : Fields where
  fileId := Numeral.decimal 7
  line := [' '] ++ (quote :: (Numeral.decimal 42 ++ [quote])) ++ [' ']
  filename := quote :: ("dsp.c".toList ++ [quote])
  provider := quote :: ([' '] ++ (quote :: ("core".toList ++ [quote])) ++ [] ++ [quote])
  level := "INFO".toList
  message := quote :: ("gain %u, \"rate\" %u".toList ++ [quote])
  params := #v["\"".toList, quote :: ([] ++ [quote]), "p2".toList, "p3".toList]

def idleFields : Fields where
  fileId := Numeral.decimal 1
  line := Numeral.decimal 3
  filename := "idle.c".toList
  provider := "core".toList
  level := []
  message := []
  params := #v[[], [], [], []]

theorem margin_nil : Margin [] := by decide

theorem margin_space : Margin [' '] := by decide

theorem writes_gainFields : Writes gainFields (.ofLocation 7 42) gainLiteral where
  fileId := .bare
  line := .padded margin_space margin_space (.quoted .bare)
  filename := .quoted .bare
  provider := .quoted (.padded margin_space margin_nil (.quoted .bare))
  level := .bare
  message := .quoted .bare
  params
    | 0, _ => .bare
    | 1, _ => .quoted .bare
    | 2, _ => .bare
    | 3, _ => .bare

theorem writes_idleFields : Writes idleFields (.ofLocation 1 3) idleLiteral where
  fileId := .bare
  line := .bare
  filename := .bare
  provider := .bare
  level := .bare
  message := .bare
  params
    | 0, _ => .bare
    | 1, _ => .bare
    | 2, _ => .bare
    | 3, _ => .bare

/-- Two lines that come against the order of their keys. -/
def gainText : List Char :=
  "7, \"42\" ,\"dsp.c\",\" \"core\"\",INFO,\"gain %u, \"rate\" %u\",\",\"\",p2,p3\r\n".toList
    ++ "1,3,idle.c,core,,,,,,\n".toList

def gainTable : Table RecordKey Spt.Literal where
  entries := [(.ofLocation 1 3, idleLiteral), (.ofLocation 7 42, gainLiteral)]
  ascending := by decide

theorem written_gainText :
    Written [(.ofLocation 7 42, gainLiteral), (.ofLocation 1 3, idleLiteral)] gainText := by
  have htext : gainText = gainFields.text ++ LineEnding.returnFeed.returns
      ++ '\n' :: (idleFields.text ++ LineEnding.feed.returns ++ ['\n']) := by decide
  rw [htext]
  exact .line .returnFeed writes_gainFields (.line .feed writes_idleFields .nil)

theorem build_written_gainText :
    ∃ cache, build (octets gainText) = .ok cache ∧
      cache.get? (.ofLocation 7 42) = some (stored (.ofLocation 7 42) gainLiteral) ∧
      cache.get? (.ofLocation 1 3) = some (stored (.ofLocation 1 3) idleLiteral) := by
  have hwritable : ∀ entry ∈ gainTable.entries, Writable entry.2 := by decide
  obtain ⟨cache, hbuild, hget⟩ :=
    build_written hwritable (List.Perm.swap _ _ []) written_gainText
  exact ⟨cache, hbuild, hget _, hget _⟩

end FirmwareTrace.SymbolCache
