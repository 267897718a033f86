import FirmwareTrace.Proofs.Text.Joining
import FirmwareTrace.Proofs.Workspace.Storing

/-! # The directory of a path

The parent of a path is cut from its parts.  Where the path leads to a file, the parent leads
to a directory, and so does the parent joined with an empty path, `find_join_empty`.
-/
namespace FirmwareTrace

namespace Path

theorem join_ne_empty {directory : String} (h : directory ≠ "") (path : String) :
    join directory path ≠ "" := by
  unfold join
  split
  · rintro rfl
    contradiction
  · split <;> simp [h]

theorem toList_join_ofParts (front : List (List Char)) {last : List Char} (h : last ≠ [])
    (hseparator : separator ∉ last) :
    (join (ofParts (front ++ [last])) "").toList
      = [separator].intercalate (front ++ [last]) ++ [separator] := by
  have hlast : (ofParts (front ++ [last])).toList.getLast? = last.getLast? := by
    rw [ofParts, String.toList_ofList, getLast?_intercalate front h]
  have hopen : ¬(ofParts (front ++ [last]) = "" ∨
      (ofParts (front ++ [last])).toList.getLast? = some separator) := by
    rw [hlast]
    rintro (hempty | hseparated)
    · rw [hempty] at hlast
      exact h (List.getLast?_eq_none_iff.1 hlast.symm)
    · exact hseparator (List.mem_of_getLast? hseparated)
  have habsolute : isAbsolute "" = false := rfl
  rw [join, habsolute, if_neg Bool.false_ne_true, if_neg hopen]
  simp [ofParts]

theorem intercalate_parts (path : String) : [separator].intercalate (parts path) = path.toList :=
  List.intercalate_splitOn separator

theorem not_mem_of_mem_parts {path : String} {part : List Char} (h : part ∈ parts path) :
    separator ∉ part :=
  not_mem_of_mem_splitOn h

theorem exists_append_dropSilent (later : List (List Char)) :
    ∃ silent, silent ++ dropSilent later = later :=
  ⟨later.takeWhile isSilent, List.takeWhile_append_dropWhile⟩

/-- What is kept in front of the last part that is not silent. -/
theorem exists_append_of_dropSilent {later earlier : List (List Char)} {last : List Char}
    (h : dropSilent later.reverse = last :: earlier) :
    ∃ back, back ≠ [] ∧ later = (dropSilent earlier).reverse ++ back := by
  obtain ⟨after, hafter⟩ := exists_append_dropSilent later.reverse
  obtain ⟨between, hbetween⟩ := exists_append_dropSilent earlier
  refine ⟨between.reverse ++ last :: after.reverse,
    List.append_ne_nil_of_right_ne_nil _ (List.cons_ne_nil _ _), ?_⟩
  calc later = (after ++ last :: (between ++ dropSilent earlier)).reverse := by
        rw [hbetween, ← h, hafter, List.reverse_reverse]
    _ = (dropSilent earlier).reverse ++ (between.reverse ++ last :: after.reverse) := by simp

theorem ne_nil_of_dropSilent {later rest : List (List Char)} {part : List Char}
    (h : dropSilent later = part :: rest) : part ≠ [] := by
  rintro rfl
  cases not_of_dropWhile_eq_cons h

/-- A parent is what stands before some of the parts. -/
theorem exists_parts_of_parent? {path directory : String} (h : parent? path = some directory)
    (hne : directory ≠ "") :
    ∃ front back, front ≠ [] ∧ back ≠ [] ∧ parts path = front ++ back ∧
      (join directory "").toList = [separator].intercalate front ++ [separator] := by
  unfold parent? fromEnd at h
  cases hparts : parts path with
  | nil => exact absurd hparts (List.splitOn_ne_nil _ _)
  | cons first later =>
    have hseparated : ∀ part ∈ first :: later, separator ∉ part := fun part hpart =>
      not_mem_of_mem_parts (hparts ▸ hpart)
    rw [hparts] at h
    dsimp only at h
    cases hlater : dropSilent later.reverse with
    | nil =>
      rw [hlater] at h
      dsimp only at h
      split at h
      · cases h
      · exact absurd (Option.some.inj h).symm hne
    | cons last earlier =>
      rw [hlater] at h
      dsimp only at h
      obtain ⟨back, hback, hsplit⟩ := exists_append_of_dropSilent hlater
      refine ⟨first :: (dropSilent earlier).reverse, back, List.cons_ne_nil _ _, hback,
        congrArg _ hsplit, ?_⟩
      -- The root ends in a separator by itself; any other parent ends in a part that is not empty.
      split at h
      · next hroot =>
        obtain rfl := Option.some.inj h
        rw [hroot.1, hroot.2]
        rfl
      · next hroot =>
        obtain rfl := Option.some.inj h
        cases hkept : dropSilent earlier with
        | nil =>
          have hfirst : first ≠ [] := fun hnil => hroot ⟨hkept, hnil⟩
          exact toList_join_ofParts [] hfirst (hseparated _ List.mem_cons_self)
        | cons part kept =>
          have hmem : part ∈ first :: later := by
            rw [hsplit, hkept]
            simp
          have hjoin := toList_join_ofParts (first :: kept.reverse)
            (ne_nil_of_dropSilent hkept) (hseparated _ hmem)
          rwa [List.cons_append, ← List.reverse_cons] at hjoin

end Path

namespace Workspace

variable {workspace : Workspace} {place : Place} {path directory : String}

theorem isDirectory_of_walk {part : List Char} {parts : List (List Char)} {reached : Place}
    (h : workspace.walk place (part :: parts) = .ok reached) : workspace.IsDirectory place := by
  rw [walk] at h
  split at h
  · cases h
  · cases h
  · next tick hnode => exact ⟨tick, hnode⟩

theorem walk_silent (h : workspace.IsDirectory place) :
    workspace.walk place [[]] = .ok place := by
  obtain ⟨tick, hnode⟩ := h
  rw [walk, hnode]
  rfl

theorem refusal?_eq_none_iff :
    refusal? path = none ↔
      '\x00' ∉ path.toList ∧ path ≠ "" ∧ path.utf8ByteSize ≤ pathLimit := by
  unfold refusal?
  split_ifs <;> simp_all

/-- A path that is not refused begins with none that is. -/
theorem refusal?_of_append {front more : String} (h : refusal? (front ++ more) = none)
    (hne : front ≠ "") : refusal? front = none := by
  rw [refusal?_eq_none_iff] at h ⊢
  obtain ⟨hnul, -, hsize⟩ := h
  rw [String.utf8ByteSize_append] at hsize
  rw [String.toList_append, List.mem_append, not_or] at hnul
  exact ⟨hnul.1, hne, Nat.le_trans (Nat.le_add_right _ _) hsize⟩

theorem start_append {front : String} (more : String) (h : front ≠ "") :
    start (front ++ more) = start front := by
  unfold start Path.isAbsolute
  rw [String.toList_append]
  cases hfront : front.toList with
  | nil => exact absurd (String.toList_eq_nil_iff.1 hfront) h
  | cons c cs => rfl

/-- Joining nothing to the directory of a path leads to that directory, if the path leads
anywhere. -/
theorem find_join_empty (h : workspace.locate path = .ok place)
    (hparent : Path.parent? path = some directory) (hne : directory ≠ "") :
    ∃ tick, workspace.find (Path.join directory "") = .ok (.directory tick) := by
  obtain ⟨front, back, hfront, hback, hparts, hjoin⟩ :=
    Path.exists_parts_of_parent? hparent hne
  have hjoined : Path.join directory "" ≠ "" := Path.join_ne_empty hne ""
  have hpath :
      path = Path.join directory "" ++ String.ofList ([Path.separator].intercalate back) := by
    rw [← String.toList_inj, ← Path.intercalate_parts, hparts, intercalate_append hfront hback,
      String.toList_append, hjoin, String.toList_ofList, List.append_assoc, List.singleton_append]
  have hjoinedParts : Path.parts (Path.join directory "") = front ++ [[]] := by
    have hseparated : ∀ part ∈ front, Path.separator ∉ part := fun part hpart =>
      Path.not_mem_of_mem_parts (hparts ▸ List.mem_append_left back hpart)
    rw [Path.parts, hjoin, List.splitOn_append_cons_self, List.splitOn_nil,
      List.splitOn_intercalate _ hseparated hfront]
  obtain ⟨hrefusal, hwalk⟩ := locate_eq_ok_iff.1 h
  rw [hparts] at hwalk
  obtain ⟨reached, hfrontWalk, hbackWalk⟩ := walk_append_eq_ok_iff.1 hwalk
  -- The walk goes on behind the directory, so it found one there.
  obtain ⟨part, rest, rfl⟩ := List.exists_cons_of_ne_nil hback
  obtain ⟨tick, hnode⟩ := isDirectory_of_walk hbackWalk
  rw [hpath] at hrefusal
  rw [hpath, start_append _ hjoined] at hfrontWalk
  refine ⟨tick, find_eq_ok_iff.2 ⟨reached, locate_eq_ok_iff.2 ⟨?_, ?_⟩, hnode⟩⟩
  · exact refusal?_of_append hrefusal hjoined
  · rw [hjoinedParts]
    exact walk_append_eq_ok_iff.2 ⟨reached, hfrontWalk, walk_silent ⟨tick, hnode⟩⟩

end Workspace
end FirmwareTrace
