import FirmwareTrace.Proofs.Libraries.FirstDefinition
import FirmwareTrace.Proofs.SymbolCache.Contents

/-! # Symbol caches one after the other

Lines that follow whole lines add their definitions to them, as filing a second table does, and
their faults are numbered on, `build_append`.
-/
namespace FirmwareTrace.SymbolCache

theorem firstFault_append (number : Nat) (front back : List Content) :
    firstFault number (front ++ back)
      = (firstFault number front).or (firstFault (number + front.length) back) := by
  induction front generalizing number with
  | nil => rfl
  | cons content rest ih =>
    rw [List.cons_append, firstFault, ih, firstFault, Option.or_assoc, List.length_cons,
      Nat.add_right_comm, Nat.add_assoc]

theorem firstFault_add (number shift : Nat) (found : List Content) :
    firstFault (number + shift) found = (firstFault number found).map (renumber (· + shift)) := by
  induction found generalizing number with
  | nil => rfl
  | cons content rest ih =>
    rw [firstFault, firstFault, Nat.add_right_comm, ih, Option.map_or,
      ← Content.fault?_renumber (· + shift)]

theorem definitions_append (front back : List Content) :
    definitions (front ++ back) = definitions front ++ definitions back :=
  List.filterMap_append

theorem contents_append {front : List UInt8} (h : Terminated front) (back : List UInt8) :
    contents (front ++ back) = contents front ++ contents back := by
  rw [contents, lines_append_of_terminated h, List.map_append, contents, contents]

theorem length_contents {front : List UInt8} (h : Terminated front) :
    (contents front).length = front.count lineFeed := by
  rw [contents, List.length_map, length_lines h]

/-! ## Two lists of contents -/

section

variable {front back : List Content} {table other : LiteralTable Spt.Literal} {failure : Failure}

theorem outcome_append_of_ok (hfront : outcome front = .ok table)
    (hback : outcome back = .ok other) :
    outcome (front ++ back) = .ok (table.merge other) := by
  obtain ⟨hnone, htable⟩ := outcome_eq_ok_iff.1 hfront
  obtain ⟨hnone', hother⟩ := outcome_eq_ok_iff.1 hback
  apply outcome_eq_ok_iff.2
  constructor
  · rw [firstFault_append, hnone, firstFault_add, hnone']
    rfl
  · rw [definitions_append, Table.ofFirst_append, htable, hother]

theorem outcome_append_of_error_left (hfront : outcome front = .error failure) :
    outcome (front ++ back) = .error failure := by
  apply outcome_eq_error_iff.2
  rw [firstFault_append, outcome_eq_error_iff.1 hfront, Option.some_or]

theorem outcome_append_of_error_right (hfront : outcome front = .ok table)
    (hback : outcome back = .error failure) :
    outcome (front ++ back) = .error (renumber (· + front.length) failure) := by
  apply outcome_eq_error_iff.2
  rw [firstFault_append, (outcome_eq_ok_iff.1 hfront).1, firstFault_add,
    outcome_eq_error_iff.1 hback]
  rfl

end

/-! ## Two sources -/

/-- A source after whole lines: where both can be built, the table of the whole is filed as the
two tables are, else the first failure stands, with the lines in front of it counted. -/
theorem build_append {first : List UInt8} (h : Terminated first) (second : List UInt8) :
    (∀ table other, build first = .ok table → build second = .ok other →
      ∃ whole, build (first ++ second) = .ok whole ∧
        ∀ (libraries : Libraries Spt.Literal) (library : LibraryId),
          libraries.insert library whole
            = (libraries.insert library table).insert library other) ∧
    (∀ failure, build first = .error failure → build (first ++ second) = .error failure) ∧
    (∀ table failure, build first = .ok table → build second = .error failure →
      build (first ++ second) = .error (renumber (· + first.count lineFeed) failure)) := by
  simp only [build_eq, contents_append h, ← length_contents h]
  refine ⟨fun table other hfirst hsecond => ?_, fun failure hfirst => ?_,
    fun table failure hfirst hsecond => ?_⟩
  · refine ⟨table.merge other, outcome_append_of_ok hfirst hsecond, fun libraries library => ?_⟩
    exact libraries.insert_merge library table other
  · exact outcome_append_of_error_left hfirst
  · exact outcome_append_of_error_right hfirst hsecond

def idleLines : List UInt8 := octets "1,3,idle.c,core,,,,,,\n \r\n".toList

def brokenLines : List UInt8 := octets "\nbad\n1,3,busy.c,core,,,,,,\n".toList

def busyLine : List UInt8 := octets "1,3,busy.c,core,,,,,,".toList

theorem build_append_idle :
    Terminated idleLines ∧
    (∃ table other whole, build idleLines = .ok table ∧ build busyLine = .ok other ∧
      build (idleLines ++ busyLine) = .ok whole ∧
      (∅ : Libraries Spt.Literal).insert 7 whole
        = ((∅ : Libraries Spt.Literal).insert 7 table).insert 7 other) ∧
    build (brokenLines ++ busyLine) = .error (.badRecord 2 "bad") ∧
    build (idleLines ++ brokenLines) = .error (.badRecord 4 "bad") := by
  have hidle : Terminated idleLines := by decide
  have hbroken : Terminated brokenLines := by decide
  have hsound : firstFault 1 (contents idleLines) = none := by decide +kernel
  have hbusy : firstFault 1 (contents busyLine) = none := by decide +kernel
  have htable := build_eq_ok_iff.2 ⟨hsound, rfl⟩
  have hother := build_eq_ok_iff.2 ⟨hbusy, rfl⟩
  have hfault : build brokenLines = .error (.badRecord 2 "bad") :=
    build_eq_error_iff.2 (by decide +kernel)
  obtain ⟨whole, hwhole, hinsert⟩ := (build_append hidle busyLine).1 _ _ htable hother
  refine ⟨hidle, ⟨_, _, whole, htable, hother, hwhole, hinsert ∅ 7⟩, ?_, ?_⟩
  · exact (build_append hbroken busyLine).2.1 _ hfault
  · exact (build_append hidle brokenLines).2.2 _ _ htable hfault

end FirmwareTrace.SymbolCache
