import FirmwareTrace.Workspace.Basic
import Mathlib.Data.List.Basic

/-! # What storing a file leaves alone

A file is stored at a place in a directory.  The directories stay where they are, so every
path leads on to the place it led to, and the files at all other places stay as they are.
-/
namespace FirmwareTrace

theorem lookup_filter_ne {κ α : Type} [DecidableEq κ] {entries : List (κ × α)} {key other : κ}
    (h : other ≠ key) :
    (entries.filter fun e => e.1 != key).lookup other = entries.lookup other := by
  induction entries with
  | nil => rfl
  | cons entry entries ih =>
    obtain ⟨found, value⟩ := entry
    by_cases hkey : found = key
    · subst hkey
      have hother : (other == found) = false := beq_eq_false_iff_ne.2 h
      simp [List.lookup_cons, hother, ih]
    · simp [List.lookup_cons, hkey, ih]

theorem not_of_dropWhile_eq_cons {α : Type} {p : α → Bool} {xs rest : List α} {a : α}
    (h : xs.dropWhile p = a :: rest) : p a = false := by
  have hhead := List.head?_dropWhile_not p xs
  rw [h] at hhead
  exact hhead

theorem eq_append_of_dropWhile_reverse {α : Type} {p : α → Bool} {xs earlier : List α} {last : α}
    (h : xs.reverse.dropWhile p = last :: earlier) (hlast : xs.getLast? = some last) :
    xs = earlier.reverse ++ [last] := by
  obtain ⟨front, rfl⟩ := List.getLast?_eq_some_iff.1 hlast
  rw [List.reverse_append, List.reverse_singleton, List.singleton_append,
    List.dropWhile_cons_of_neg (by simp [not_of_dropWhile_eq_cons h])] at h
  obtain ⟨-, rfl⟩ := List.cons.inj h
  rw [List.reverse_reverse]

namespace Workspace

variable {workspace : Workspace} {place other : Place} {path : String} {content : ByteArray}

/-! ## What is at a place -/

/-- The content of the file at a place, and the tick of its last change. -/
def file? (workspace : Workspace) (place : Place) : Option (ByteArray × Nat) :=
  match workspace.node? place with
  | some (.file content tick) => some (content, tick)
  | _ => none

def IsDirectory (workspace : Workspace) (place : Place) : Prop :=
  ∃ tick, workspace.node? place = some (.directory tick)

theorem file?_eq_some_iff {tick : Nat} :
    workspace.file? place = some (content, tick) ↔
      workspace.node? place = some (.file content tick) := by
  unfold file?
  split <;> simp_all

/-- A place where a file can be stored: in a directory, and no directory itself. -/
structure CanHold (workspace : Workspace) (place : Place) : Prop where
  up_ne : place.up ≠ place
  isDirectory_up : workspace.IsDirectory place.up
  not_isDirectory : ¬workspace.IsDirectory place

/-! ## Walks -/

theorem walk_append_eq_ok_iff {front back : List (List Char)} :
    workspace.walk place (front ++ back) = .ok other ↔
      ∃ between, workspace.walk place front = .ok between ∧
        workspace.walk between back = .ok other := by
  induction front generalizing place with
  | nil => simp [walk]
  | cons part front ih =>
    rw [List.cons_append, walk, walk]
    split
    · simp
    · simp
    · split
      · simp
      · exact ih

theorem locate_eq_ok_iff :
    workspace.locate path = .ok place ↔
      refusal? path = none ∧ workspace.walk (start path) (Path.parts path) = .ok place := by
  unfold locate
  cases refusal? path <;> simp

/-- A walk goes the same way where the same places are directories. -/
theorem walk_of_isDirectory {later : Workspace} {parts : List (List Char)}
    (hdirectory : ∀ place, workspace.IsDirectory place → later.IsDirectory place)
    (h : workspace.walk place parts = .ok other) : later.walk place parts = .ok other := by
  induction parts generalizing place with
  | nil => exact h
  | cons part parts ih =>
    rw [walk] at h
    split at h
    · cases h
    · cases h
    · next tick hnode =>
      obtain ⟨tick', hnode'⟩ := hdirectory place ⟨tick, hnode⟩
      rw [walk, hnode']
      dsimp only
      split at h
      · cases h
      · next hname =>
        rw [if_neg hname]
        exact ih h

theorem locate_of_isDirectory {later : Workspace}
    (hdirectory : ∀ place, workspace.IsDirectory place → later.IsDirectory place)
    (h : workspace.locate path = .ok place) : later.locate path = .ok place := by
  obtain ⟨hrefusal, hwalk⟩ := locate_eq_ok_iff.1 h
  exact locate_eq_ok_iff.2 ⟨hrefusal, walk_of_isDirectory hdirectory hwalk⟩

/-- Where a path lets a file be created, there it leads. -/
theorem creatable_eq_ok (h : workspace.creatable path = .ok place) :
    workspace.locate path = .ok place ∧ workspace.CanHold place := by
  unfold creatable at h
  split at h
  · cases h
  next hrefusal =>
  split at h
  · cases h
  next last earlier hparts =>
  split at h
  · cases h
  next directory hwalk =>
  split at h
  · cases h
  · cases h
  next tick hdirectory =>
  dsimp only at h
  split at h
  · cases h
  next hplain =>
  push Not at hplain
  obtain ⟨hlast, hdot, hdots⟩ := hplain
  split at h
  · cases h
  next hname =>
  have hnonempty : last ≠ [] := by simpa using not_of_dropWhile_eq_cons hparts
  have hstep : directory.step last = ⟨directory.base, String.ofList last :: directory.names⟩ := by
    simp [Place.step, Path.isSilent, hnonempty, hdot, hdots]
  have hlastWalk : workspace.walk directory [last] = .ok (directory.step last) := by
    simp [walk, hdirectory, hname]
  have hlocate : workspace.walk (start path) (Path.parts path) = .ok (directory.step last) := by
    rw [eq_append_of_dropWhile_reverse hparts hlast, walk_append_eq_ok_iff]
    exact ⟨directory, hwalk, hlastWalk⟩
  split at h
  · cases h
  next hfree =>
  obtain rfl := Except.ok.inj h
  refine ⟨locate_eq_ok_iff.2 ⟨hrefusal, hlocate⟩, ?_, ?_, ?_⟩
  · rw [hstep]
    intro hup
    have hlength := congrArg (fun place : Place => place.names.length) hup
    simp [Place.up] at hlength
  · rw [hstep]
    exact ⟨tick, hdirectory⟩
  · rintro ⟨tick, hnode⟩
    exact hfree tick hnode

/-! ## Storing -/

theorem node?_put_self (node : Node) : (workspace.put place node).node? place = some node := by
  simp [put, node?]

theorem node?_put_of_ne (node : Node) (h : other ≠ place) :
    (workspace.put place node).node? other = workspace.node? other := by
  have hother : (other == place) = false := beq_eq_false_iff_ne.2 h
  simp only [put, node?, List.lookup_cons, hother, lookup_filter_ne h]

theorem node?_store (content : ByteArray) (h : place.up ≠ place) (other : Place) :
    (workspace.store place content).node? other =
      if other = place then some (.file content (workspace.clock + 1))
      else if other = place.up ∧ workspace.node? place = none then
        some (.directory (workspace.clock + 1))
      else workspace.node? other := by
  have hclock : ∀ clock, ({ workspace with clock } : Workspace).node? other
      = workspace.node? other := fun _ => rfl
  by_cases hself : other = place
  · -- The file is put last, so its directory cannot stand in its place.
    subst hself
    rw [if_pos rfl, store]
    split <;> exact node?_put_self _
  · rw [if_neg hself, store, node?_put_of_ne _ hself]
    by_cases hnone : workspace.node? place = none
    · by_cases hup : other = place.up
      · subst hup
        simp [hnone, touchParent, node?_put_self]
      · simp [hnone, hup, touchParent, node?_put_of_ne _ hup, hclock]
    · simp [hnone, hclock]

namespace CanHold

variable (h : workspace.CanHold place)
include h

theorem isDirectory_store :
    (workspace.store place content).IsDirectory other ↔ workspace.IsDirectory other := by
  unfold IsDirectory
  rw [node?_store content h.up_ne]
  split_ifs with hself hparent
  · subst hself
    exact iff_of_false nofun h.not_isDirectory
  · exact iff_of_true ⟨_, rfl⟩ (hparent.1 ▸ h.isDirectory_up)
  · rfl

theorem store : (workspace.store place content).CanHold place where
  up_ne := h.up_ne
  isDirectory_up := h.isDirectory_store.2 h.isDirectory_up
  not_isDirectory := fun hdirectory => h.not_isDirectory (h.isDirectory_store.1 hdirectory)

theorem file?_store_self :
    (workspace.store place content).file? place = some (content, workspace.clock + 1) := by
  rw [file?_eq_some_iff, node?_store content h.up_ne, if_pos rfl]

theorem file?_store_of_ne (hother : other ≠ place) :
    (workspace.store place content).file? other = workspace.file? other := by
  unfold file?
  rw [node?_store content h.up_ne, if_neg hother]
  split_ifs with hparent
  · obtain ⟨tick, hnode⟩ := h.isDirectory_up
    rw [hparent.1, hnode]
  · rfl

end CanHold

/-! ## What paths lead to -/

theorem find_eq_ok_iff {node : Node} :
    workspace.find path = .ok node ↔
      ∃ place, workspace.locate path = .ok place ∧ workspace.node? place = some node := by
  unfold find
  cases workspace.locate path with
  | error fault => simp
  | ok place => cases hnode : workspace.node? place <;> simp [hnode]

theorem read_eq_ok_iff :
    workspace.read path = .ok content ↔
      ∃ place tick, workspace.locate path = .ok place ∧
        workspace.file? place = some (content, tick) := by
  constructor
  · intro h
    unfold read at h
    split at h
    · cases h
    · cases h
    · next found tick hfind =>
      obtain ⟨place, hlocate, hnode⟩ := find_eq_ok_iff.1 hfind
      obtain rfl := Except.ok.inj h
      exact ⟨place, tick, hlocate, file?_eq_some_iff.2 hnode⟩
  · rintro ⟨place, tick, hlocate, hfile⟩
    rw [read, find_eq_ok_iff.2 ⟨place, hlocate, file?_eq_some_iff.1 hfile⟩]

/-- What reading from a directory comes to. -/
def directoryStream : Channel.Stream := { data := .empty, script := [.failure .isDirectory] }

theorem openInput_eq_ok_iff {stream : Channel.Stream} :
    workspace.openInput path = .ok stream ↔
      (∃ content, workspace.read path = .ok content ∧ stream = { data := content }) ∨
        ∃ place, workspace.locate path = .ok place ∧ workspace.IsDirectory place ∧
          stream = directoryStream := by
  constructor
  · intro h
    unfold openInput at h
    split at h
    · cases h
    · next tick hfind =>
      obtain ⟨place, hlocate, hnode⟩ := find_eq_ok_iff.1 hfind
      exact .inr ⟨place, hlocate, ⟨tick, hnode⟩, (Except.ok.inj h).symm⟩
    · next found tick hfind =>
      exact .inl ⟨found, by rw [read, hfind], (Except.ok.inj h).symm⟩
  · rintro (⟨found, hread, rfl⟩ | ⟨place, hlocate, ⟨tick, hnode⟩, rfl⟩)
    · obtain ⟨place, tick, hlocate, hfile⟩ := read_eq_ok_iff.1 hread
      rw [openInput, find_eq_ok_iff.2 ⟨place, hlocate, file?_eq_some_iff.1 hfile⟩]
    · rw [openInput, find_eq_ok_iff.2 ⟨place, hlocate, hnode⟩]
      rfl

/-- The two paths lead to one place. -/
def SamePlace (workspace : Workspace) (path other : String) : Prop :=
  ∃ place, workspace.locate path = .ok place ∧ workspace.locate other = .ok place

theorem not_samePlace {path other : String} {reached otherReached : Place}
    (h : workspace.locate path = .ok reached) (hother : workspace.locate other = .ok otherReached)
    (hne : reached ≠ otherReached) : ¬workspace.SamePlace path other := by
  rintro ⟨place, hplace, hplace'⟩
  exact hne (Except.ok.inj ((h.symm.trans hplace).trans (hplace'.symm.trans hother)))

/-- The directories are the same in both workspaces, and so are the files, but perhaps for one
that the path leads to. -/
structure AlikeBut (path : String) (before after : Workspace) : Prop where
  file? : ∀ place, before.locate path ≠ .ok place → after.file? place = before.file? place
  isDirectory_iff : ∀ place, after.IsDirectory place ↔ before.IsDirectory place

namespace AlikeBut

variable {before between after : Workspace} {output : String}

theorem refl (output : String) (workspace : Workspace) : AlikeBut output workspace workspace :=
  ⟨fun _ _ => rfl, fun _ => .rfl⟩

theorem locate_iff (h : AlikeBut output before after) :
    after.locate path = .ok place ↔ before.locate path = .ok place :=
  ⟨locate_of_isDirectory fun other => (h.isDirectory_iff other).1,
    locate_of_isDirectory fun other => (h.isDirectory_iff other).2⟩

theorem trans (h : AlikeBut output before between) (h' : AlikeBut output between after) :
    AlikeBut output before after where
  file? place hplace :=
    (h'.file? place fun hlocate => hplace (h.locate_iff.1 hlocate)).trans (h.file? place hplace)
  isDirectory_iff place := (h'.isDirectory_iff place).trans (h.isDirectory_iff place)

variable (h : AlikeBut output before after) (hpath : ¬before.SamePlace path output)
include h hpath

theorem read_iff : after.read path = .ok content ↔ before.read path = .ok content := by
  rw [read_eq_ok_iff, read_eq_ok_iff]
  refine exists_congr fun place => exists_congr fun tick => ?_
  rw [h.locate_iff]
  refine and_congr_right fun hlocate => ?_
  rw [h.file? place fun houtput => hpath ⟨place, hlocate, houtput⟩]

theorem openInput_iff {stream : Channel.Stream} :
    after.openInput path = .ok stream ↔ before.openInput path = .ok stream := by
  rw [openInput_eq_ok_iff, openInput_eq_ok_iff]
  simp only [h.read_iff hpath, h.locate_iff, h.isDirectory_iff]

end AlikeBut

/-! ## Storing the file that a path leads to -/

namespace CanHold

variable {output : String} (h : workspace.CanHold place)
  (houtput : workspace.locate output = .ok place)
include h houtput

theorem alikeBut_store : AlikeBut output workspace (workspace.store place content) where
  file? _ hother := h.file?_store_of_ne fun heq => hother (heq ▸ houtput)
  isDirectory_iff _ := h.isDirectory_store

theorem read_store : (workspace.store place content).read output = .ok content :=
  read_eq_ok_iff.2 ⟨place, _, (h.alikeBut_store houtput).locate_iff.2 houtput, h.file?_store_self⟩

end CanHold
end Workspace
end FirmwareTrace
