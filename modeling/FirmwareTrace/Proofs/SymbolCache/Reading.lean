import FirmwareTrace.Proofs.SymbolCache.Contents

/-! # Reading symbol caches

A cache is decided by its first bad line.  Where there is none, it has the keys of its lines, and
each of them has its first definition, `build_decided`.
-/
namespace FirmwareTrace.SymbolCache

/-- The literal stands on the first line with this key. -/
inductive FirstDefines (key : RecordKey) (literal : Spt.Literal) : List Line → Prop
  | here {line : Line} {rest : List Line} (hline : line.Says (.defines literal))
      (hkey : literal.key = key) : FirstDefines key literal (line :: rest)
  | later {line : Line} {rest : List Line}
      (hline : ∀ other, line.Says (.defines other) → other.key ≠ key)
      (hrest : FirstDefines key literal rest) : FirstDefines key literal (line :: rest)

/-- What is built from lines: the failure of the first bad one, which has the number and the
record of that line, or the table of their first definitions. -/
inductive Decided (found : List Line) : Except Failure (LiteralTable Spt.Literal) → Prop
  | broken {front back : List Line} {line : Line} (hfound : found = front ++ line :: back)
      (hfront : ∀ earlier ∈ front, earlier.Sound) (hline : line.Says .broken) :
      Decided found (.error (.io .notUtf8))
  | malformed {front back : List Line} {line : Line} {record : List Char}
      (hfound : found = front ++ line :: back) (hfront : ∀ earlier ∈ front, earlier.Sound)
      (hline : line.Says (.malformed record)) :
      Decided found (.error (.badRecord (front.length + 1) (String.ofList record)))
  | table {table : LiteralTable Spt.Literal} (hsound : ∀ line ∈ found, line.Sound)
      (hkeys : ∀ key, key ∈ table.keys ↔
        ∃ line ∈ found, ∃ literal, line.Says (.defines literal) ∧ literal.key = key)
      (hget : ∀ key literal, table.get? key = some literal ↔ FirstDefines key literal found) :
      Decided found (.ok table)

/-! ## All lines -/

variable {found : List Line}

theorem mem_keys_definitions_iff {key : RecordKey} :
    key ∈ (definitions (found.map Line.content)).map (·.1) ↔
      ∃ line ∈ found, ∃ literal, line.Says (.defines literal) ∧ literal.key = key := by
  simp only [List.mem_map, Prod.exists, mem_definitions_iff]
  constructor
  · rintro ⟨_, literal, ⟨line, hline, hdefines⟩, rfl⟩
    exact ⟨line, hline, literal, hdefines⟩
  · rintro ⟨line, hline, literal, hdefines⟩
    exact ⟨key, literal, ⟨line, hline, hdefines⟩, rfl⟩

theorem lookup_definitions_iff {key : RecordKey} {literal : Spt.Literal} :
    Table.lookup key (definitions (found.map Line.content)) = some literal ↔
      FirstDefines key literal found := by
  unfold definitions
  induction found with
  | nil => constructor <;> exact fun h => nomatch h
  | cons line rest ih =>
    rw [List.map_cons]
    by_cases hline : ∃ other, line.Says (.defines other) ∧ other.key = key
    · obtain ⟨other, hdefines, hkey⟩ := hline
      rw [Table.lookup_filterMap_of_eq (definition?_eq_some_iff.2 ⟨hdefines, hkey⟩)]
      constructor
      · intro hother
        obtain rfl := Option.some.inj hother
        exact .here hdefines hkey
      · intro hfirst
        cases hfirst with
        | here hliteral _ =>
          obtain rfl := Content.defines.inj (hdefines.content_eq.symm.trans hliteral.content_eq)
          rfl
        | later hnone _ => exact absurd hkey (hnone other hdefines)
    · have hnone : ∀ other, line.Says (.defines other) → other.key ≠ key :=
        fun other hdefines hkey => hline ⟨other, hdefines, hkey⟩
      rw [Table.lookup_filterMap_of_ne fun other hsome =>
        hline ⟨other, definition?_eq_some_iff.1 hsome⟩, ih]
      constructor
      · exact .later hnone
      · intro hfirst
        cases hfirst with
        | here hdefines hkey => exact absurd hkey (hnone literal hdefines)
        | later _ hrest => exact hrest

/-- Any octets are cut into lines in one way, and these lines decide what is built. -/
theorem build_decided (source : List UInt8) :
    ∃ found, Cut source found ∧ (∀ other, Cut source other → other = found) ∧
      Decided found (build source) := by
  refine ⟨lines source, cut_lines source, fun other hother => hother.lines_eq.symm, ?_⟩
  rw [build_eq, outcome, contents]
  cases hfirst : firstFault 1 ((lines source).map Line.content) with
  | none =>
    refine .table (sound_of_firstFault hfirst) (fun key => ?_) (fun key literal => ?_)
    · rw [Table.mem_keys_iff, Table.get?_ofFirst, Table.isSome_lookup_iff,
        mem_keys_definitions_iff]
    · rw [Table.get?_ofFirst, lookup_definitions_iff]
  | some failure =>
    obtain ⟨front, line, back, hfound, hfront, hline⟩ := exists_of_firstFault hfirst
    cases hcontent : line.content with
    | broken =>
      rw [hcontent] at hline
      obtain rfl := Option.some.inj hline
      exact .broken hfound hfront (content_eq_iff.1 hcontent)
    | malformed record =>
      rw [hcontent, Nat.add_comm] at hline
      obtain rfl := Option.some.inj hline
      exact .malformed hfound hfront (content_eq_iff.1 hcontent)
    | blank => simp [hcontent, Content.fault?] at hline
    | defines literal => simp [hcontent, Content.fault?] at hline

example :
    build (octets " \r\n1,3,idle.c,core,,,,,,\nbad,line\r\r\n1,3".toList)
      = .error (.badRecord 3 "bad,line") :=
  build_eq_error_iff.2 (by decide +kernel)

end FirmwareTrace.SymbolCache
