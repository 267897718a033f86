import FirmwareTrace.Proofs.SymbolCache.Fields
import FirmwareTrace.Proofs.SymbolCache.Lines
import FirmwareTrace.Proofs.Table.Lookup

/-! # Contents of lines

What a line says, `content_eq_iff`, does not hang on its number, which is only used to report it.
A cache has the first fault of its contents, or else the first definition of each key, `build_eq`.
-/
namespace FirmwareTrace.SymbolCache

inductive Content
  | broken
  | blank
  | malformed (record : List Char)
  | defines (literal : Spt.Literal)

def Content.ofRecord (record : List Char) : Content :=
  if Text.trim record = [] then .blank
  else
    match (Fields.ofRecord? record).bind Fields.literal? with
    | some literal => .defines literal
    | none => .malformed record

def Line.content (line : Line) : Content :=
  match line.record? with
  | none => .broken
  | some record => .ofRecord record

/-- The record has the fields of the literal. -/
def Describes (record : List Char) (literal : Spt.Literal) : Prop :=
  ∃ fields : Fields, fields.Separable ∧ fields.text = record ∧ fields.literal? = some literal

/-- What a line says, by its octets. -/
inductive Line.Says (line : Line) : Content → Prop
  | broken (htext : ∀ text, line.body ≠ octets text) : Says line .broken
  | blank {record : List Char} (hrecord : line.Holds record) (hblank : Text.Blanks record) :
      Says line .blank
  | malformed {record : List Char} (hrecord : line.Holds record) (hblank : ¬Text.Blanks record)
      (hliteral : ∀ literal, ¬Describes record literal) : Says line (.malformed record)
  | defines {record : List Char} {literal : Spt.Literal} (hrecord : line.Holds record)
      (hliteral : Describes record literal) : Says line (.defines literal)

/-- The line is blank or defines a literal. -/
def Line.Sound (line : Line) : Prop := line.Says .blank ∨ ∃ literal, line.Says (.defines literal)

/-- What the lines say, in order. -/
def contents (source : List UInt8) : List Content := (lines source).map Line.content

namespace Content

/-- What is wrong with a line of this number. -/
def fault? (number : Nat) : Content → Option Failure
  | broken => some (.io .notUtf8)
  | malformed record => some (.badRecord number (String.ofList record))
  | blank | defines _ => none

def literal? : Content → Option Spt.Literal
  | defines literal => some literal
  | broken | blank | malformed _ => none

def definition? (content : Content) : Option (RecordKey × Spt.Literal) :=
  content.literal?.map fun literal => (literal.key, literal)

end Content

/-- The first fault of lines that are numbered from `number` on. -/
def firstFault (number : Nat) : List Content → Option Failure
  | [] => none
  | content :: rest => (content.fault? number).or (firstFault (number + 1) rest)

/-- The definitions of all lines, in order. -/
def definitions (found : List Content) : List (RecordKey × Spt.Literal) :=
  found.filterMap Content.definition?

/-- The first fault, or else the first definition of each key. -/
def outcome (found : List Content) : Except Failure (LiteralTable Spt.Literal) :=
  match firstFault 1 found with
  | some fault => .error fault
  | none => .ok (Table.ofFirst (definitions found))

/-! ## One line -/

section

variable {record : List Char} {line : Line} {literal : Spt.Literal}

theorem describes_iff :
    Describes record literal ↔ (Fields.ofRecord? record).bind Fields.literal? = some literal := by
  simp only [Describes, Option.bind_eq_some_iff, Fields.ofRecord?_eq_some_iff, and_assoc]

/-- A record of fields has a comma, so it is not blank. -/
theorem Describes.not_blanks (h : Describes record literal) : ¬Text.Blanks record := by
  obtain ⟨fields, _, rfl, _⟩ := h
  intro hblank
  have hcomma : ',' ∈ fields.text := by simp [Fields.text_eq]
  exact absurd (hblank ',' hcomma) (by decide)

theorem says_content (line : Line) : line.Says line.content := by
  unfold Line.content
  cases hrecord : line.record? with
  | none => exact .broken (record?_eq_none_iff.1 hrecord)
  | some record =>
    have hholds := record?_eq_some_iff.1 hrecord
    dsimp only
    unfold Content.ofRecord
    by_cases hblank : Text.trim record = []
    · rw [if_pos hblank]
      exact .blank hholds (Text.trim_eq_nil_iff.1 hblank)
    · rw [if_neg hblank]
      cases hliteral : (Fields.ofRecord? record).bind Fields.literal? with
      | none =>
        have hnone : ∀ literal, ¬Describes record literal := fun literal hdescribes =>
          Option.eq_none_iff_forall_ne_some.1 hliteral literal (describes_iff.1 hdescribes)
        exact .malformed hholds (mt Text.trim_eq_nil_iff.2 hblank) hnone
      | some literal => exact .defines hholds (describes_iff.2 hliteral)

theorem Line.Says.content_eq {content : Content} (h : line.Says content) :
    line.content = content := by
  unfold Line.content
  cases h with
  | broken htext => rw [record?_eq_none_iff.2 htext]
  | blank hholds hblank =>
    rw [record?_eq_some_iff.2 hholds]
    exact if_pos (Text.trim_eq_nil_iff.2 hblank)
  | @malformed record hholds hblank hliteral =>
    have hnone : (Fields.ofRecord? record).bind Fields.literal? = none :=
      Option.eq_none_iff_forall_ne_some.2 fun literal hsome =>
        hliteral literal (describes_iff.2 hsome)
    rw [record?_eq_some_iff.2 hholds]
    dsimp only
    rw [Content.ofRecord, if_neg (mt Text.trim_eq_nil_iff.1 hblank), hnone]
  | defines hholds hliteral =>
    rw [record?_eq_some_iff.2 hholds]
    dsimp only
    rw [Content.ofRecord, if_neg (mt Text.trim_eq_nil_iff.1 hliteral.not_blanks),
      describes_iff.1 hliteral]

theorem content_eq_iff {content : Content} : line.content = content ↔ line.Says content :=
  ⟨fun h => h ▸ says_content line, Line.Says.content_eq⟩

theorem Content.literal?_eq_some_iff {content : Content} :
    content.literal? = some literal ↔ content = .defines literal := by
  cases content <;> simp [Content.literal?]

theorem sound_of_fault?_eq_none {number : Nat} (h : line.content.fault? number = none) :
    line.Sound := by
  cases hcontent : line.content with
  | broken => simp [hcontent, Content.fault?] at h
  | malformed record => simp [hcontent, Content.fault?] at h
  | blank => exact .inl (content_eq_iff.1 hcontent)
  | defines literal => exact .inr ⟨literal, content_eq_iff.1 hcontent⟩

theorem definition?_eq_some_iff {key : RecordKey} :
    line.content.definition? = some (key, literal) ↔
      line.Says (.defines literal) ∧ literal.key = key := by
  simp only [← content_eq_iff, Content.definition?, Option.map_eq_some_iff,
    Content.literal?_eq_some_iff, Prod.mk.injEq]
  constructor
  · rintro ⟨_, hcontent, hkey, rfl⟩
    exact ⟨hcontent, hkey⟩
  · rintro ⟨hcontent, hkey⟩
    exact ⟨literal, hcontent, hkey, rfl⟩

end

/-! ## Reading lines -/

theorem literal?_eq (number : Nat) (line : Line) :
    line.literal? number =
      match line.content.fault? number with
      | some fault => .error fault
      | none => .ok line.content.literal? := by
  unfold Line.literal? Line.content
  cases line.record? with
  | none => rfl
  | some record =>
    dsimp only
    unfold Content.ofRecord readRecord
    by_cases hblank : Text.trim record = []
    · rw [if_pos hblank, if_pos hblank]
      rfl
    · rw [if_neg hblank, if_neg hblank]
      cases (Fields.ofRecord? record).bind Fields.literal? <;> rfl

theorem fault_readLines (number : Nat) (found : List Line) :
    (readLines number found).fault = firstFault number (found.map Line.content) := by
  induction found generalizing number with
  | nil => rfl
  | cons line rest ih =>
    rw [List.map_cons, firstFault, ← ih, readLines, literal?_eq]
    cases line.content.fault? number with
    | some fault => rfl
    | none => cases line.content.literal? <;> rfl

theorem entries_readLines {number : Nat} {found : List Line}
    (h : firstFault number (found.map Line.content) = none) :
    (readLines number found).entries.map (fun entry => (entry.literal.key, entry.literal))
      = definitions (found.map Line.content) := by
  induction found generalizing number with
  | nil => rfl
  | cons line rest ih =>
    obtain ⟨hline, hrest⟩ := Option.or_eq_none_iff.1 h
    rw [List.map_cons, definitions, readLines, literal?_eq, hline]
    cases hliteral : line.content.literal? with
    | none =>
      have hnone : line.content.definition? = none := by rw [Content.definition?, hliteral]; rfl
      rw [List.filterMap_cons_none hnone]
      exact ih hrest
    | some literal =>
      have hsome : line.content.definition? = some (literal.key, literal) := by
        rw [Content.definition?, hliteral]
        rfl
      rw [List.filterMap_cons_some hsome]
      exact congrArg _ (ih hrest)

section

variable {found : List Content}

theorem outcome_eq_error_iff {failure : Failure} :
    outcome found = .error failure ↔ firstFault 1 found = some failure := by
  unfold outcome
  cases firstFault 1 found <;> simp

theorem outcome_eq_ok_iff {table : LiteralTable Spt.Literal} :
    outcome found = .ok table ↔
      firstFault 1 found = none ∧ Table.ofFirst (definitions found) = table := by
  unfold outcome
  cases firstFault 1 found <;> simp

end

theorem build_eq (source : List UInt8) : build source = outcome (contents source) := by
  have hfault := fault_readLines 1 (lines source)
  rw [build, read, Reading.table, outcome, contents, hfault]
  cases hfirst : firstFault 1 ((lines source).map Line.content) with
  | some fault => rfl
  | none =>
    dsimp only
    rw [entries_readLines hfirst]

theorem build_eq_error_iff {source : List UInt8} {failure : Failure} :
    build source = .error failure ↔ firstFault 1 (contents source) = some failure := by
  rw [build_eq, outcome_eq_error_iff]

theorem build_eq_ok_iff {source : List UInt8} {table : LiteralTable Spt.Literal} :
    build source = .ok table ↔
      firstFault 1 (contents source) = none ∧
        Table.ofFirst (definitions (contents source)) = table := by
  rw [build_eq, outcome_eq_ok_iff]

/-! ## Definitions -/

section

variable {key : RecordKey} {literal : Spt.Literal}

theorem mem_definitions_iff {found : List Line} :
    (key, literal) ∈ definitions (found.map Line.content) ↔
      ∃ line ∈ found, line.Says (.defines literal) ∧ literal.key = key := by
  simp only [definitions, List.filterMap_map, List.mem_filterMap, Function.comp_apply,
    definition?_eq_some_iff]

/-- What is found in a table stands on a line of its source, at its own key. -/
theorem exists_line_of_build {source : List UInt8} {table : LiteralTable Spt.Literal}
    (hbuild : build source = .ok table) (h : table.get? key = some literal) :
    ∃ line ∈ lines source, line.Says (.defines literal) ∧ literal.key = key := by
  obtain ⟨-, rfl⟩ := build_eq_ok_iff.1 hbuild
  rw [Table.get?_ofFirst] at h
  exact mem_definitions_iff.1 (Table.mem_of_lookup h)

end

/-! ## Faults -/

section

variable {found : List Line} {number : Nat}

/-- The first fault is that of a line after sound ones. -/
theorem exists_of_firstFault {failure : Failure}
    (h : firstFault number (found.map Line.content) = some failure) :
    ∃ front line back, found = front ++ line :: back ∧ (∀ earlier ∈ front, earlier.Sound) ∧
      line.content.fault? (number + front.length) = some failure := by
  induction found generalizing number with
  | nil => cases h
  | cons line rest ih =>
    rw [List.map_cons, firstFault] at h
    cases hline : line.content.fault? number with
    | some fault =>
      rw [hline, Option.some_or] at h
      exact ⟨[], line, rest, rfl, fun _ hmem => absurd hmem List.not_mem_nil, hline.trans h⟩
    | none =>
      rw [hline, Option.none_or] at h
      obtain ⟨front, bad, back, rfl, hfront, hbad⟩ := ih h
      refine ⟨line :: front, bad, back, rfl, ?_, ?_⟩
      · exact List.forall_mem_cons.2 ⟨sound_of_fault?_eq_none hline, hfront⟩
      · rwa [List.length_cons, Nat.add_comm front.length, ← Nat.add_assoc]

theorem sound_of_firstFault
    (h : firstFault number (found.map Line.content) = none) : ∀ line ∈ found, line.Sound := by
  induction found generalizing number with
  | nil => exact fun _ hmem => absurd hmem List.not_mem_nil
  | cons line rest ih =>
    obtain ⟨hline, hrest⟩ := Option.or_eq_none_iff.1 h
    exact List.forall_mem_cons.2 ⟨sound_of_fault?_eq_none hline, ih hrest⟩

end

/-- The failure with another line number, if it has one. -/
def renumber (f : Nat → Nat) : Failure → Failure
  | .badRecord line record => .badRecord (f line) record
  | failure => failure

theorem Content.fault?_renumber (f : Nat → Nat) (number : Nat) (content : Content) :
    content.fault? (f number) = (content.fault? number).map (renumber f) := by
  cases content <;> rfl

end FirmwareTrace.SymbolCache
