import FirmwareTrace.Watch.Notify

/-! # Events of an observed directory

A modification raises at most one event, which is put at the end of the queue or merged with
an equal one there, `Notify.Notes`.  A read takes events from the front, `Notify.take`, and a
look reads until one of them wakes or none is left, `waits_lookBy`.  However it divides them
into batches, it ends exactly if the queue holds an event that wakes, `fst_lookBy`.
-/
namespace FirmwareTrace

/-- The place of a name in a directory. -/
def Place.child (directory : Place) (name : String) : Place :=
  ⟨directory.base, name :: directory.names⟩

theorem Place.eq_child_iff {place directory : Place} {name : String} :
    place = directory.child name ↔ place.names.head? = some name ∧ place.up = directory := by
  obtain ⟨base, names⟩ := place
  obtain ⟨other, path⟩ := directory
  cases names with
  | nil => simp [child]
  | cons first rest =>
    simp only [child, up, mk.injEq, List.cons.injEq, List.head?_cons, Option.some.injEq]
    exact and_left_comm

namespace Watch

/-- The file that an observation is made for. -/
def Observation.target (observation : Observation) : Place :=
  observation.place.child observation.name

/-- An event has the name that the observation is made for. -/
def Observation.names (observation : Observation) (event : Event) : Bool :=
  event.name? == some observation.name

namespace Notify

variable {notify next : Notify} {observation : Observation} {place : Place} {event : Event}
  {name : String}

theorem subscribe_eq_ok {path : String} {find : String → Except IoFault Place}
    (h : notify.subscribe path find = .ok next) :
    notify.current = none ∧ ∃ target place, Target.ofPath path = .ok target ∧
      find target.directory = .ok place ∧
      next = { notify with current := some ⟨notify.made, place, target.name⟩,
                           made := notify.made + 1 } := by
  unfold subscribe at h
  split at h
  · cases h
  · rename_i hnone
    split at h
    · cases h
    · rename_i target htarget
      split at h
      · cases h
      · rename_i place hplace
        exact ⟨hnone, target, place, htarget, hplace, (Except.ok.inj h).symm⟩

/-! ## Modifications -/

/-- The event that a modification of the file at a place raises. -/
def raised? (notify : Notify) (modified : Place) : Option Event :=
  match notify.current with
  | none => none
  | some observation =>
    if modified.names ≠ [] ∧ observation.place = modified.up then
      some ⟨observation.number, .modified modified.names.head?⟩
    else if observation.place = modified then some ⟨observation.number, .modified none⟩
    else none

theorem raised?_child (hcurrent : notify.current = some observation) :
    notify.raised? (observation.place.child name)
      = some ⟨observation.number, .modified (some name)⟩ := by
  have hup : (observation.place.child name).up = observation.place := rfl
  have hnames : (observation.place.child name).names ≠ [] := List.cons_ne_nil _ _
  rw [raised?, hcurrent]
  dsimp only
  rw [if_pos ⟨hnames, hup.symm⟩]
  rfl

/-- An event is one of the current observation, and a name in it is that of the file
modified in the observed directory. -/
theorem exists_of_raised? (hraised : notify.raised? place = some event) :
    ∃ observation, notify.current = some observation ∧ event.observation = observation.number ∧
      ∀ name, event.name? = some name → place = observation.place.child name := by
  unfold raised? at hraised
  split at hraised
  · cases hraised
  · rename_i observation hcurrent
    refine ⟨observation, hcurrent, ?_⟩
    split at hraised
    · rename_i h
      obtain rfl := Option.some.inj hraised
      exact ⟨rfl, fun name hname => Place.eq_child_iff.2 ⟨hname, h.2.symm⟩⟩
    · split at hraised
      · obtain rfl := Option.some.inj hraised
        exact ⟨rfl, fun name hname => nomatch hname⟩
      · cases hraised

/-- What a modification may do to the queue: its event comes to the end, or is merged with an
equal last one. -/
inductive Notes (notify : Notify) (modified : Place) : Notify → Prop
  | added {event : Event} (raised : notify.raised? modified = some event) :
      Notes notify modified { notify with queue := notify.queue ++ [event] }
  | merged {event : Event} (raised : notify.raised? modified = some event)
      (last : notify.queue.getLast? = some event) : Notes notify modified notify
  | unseen (none : notify.raised? modified = none) : Notes notify modified notify

theorem notes_observe (notify : Notify) (modified : Place) :
    notify.Notes modified (notify.observe modified) := by
  have hobserve : notify.observe modified
      = (notify.raised? modified).elim notify notify.enqueue := by
    unfold observe raised?
    cases notify.current with
    | none => rfl
    | some observation =>
      dsimp only
      split
      · rfl
      · split <;> rfl
  rw [hobserve]
  cases hraised : notify.raised? modified with
  | none => exact .unseen hraised
  | some event =>
    rw [Option.elim_some, enqueue]
    split
    · rename_i hlast
      exact .merged hraised hlast
    · exact .added hraised

namespace Notes

theorem current_eq (h : notify.Notes place next) : next.current = notify.current := by
  cases h <;> rfl

theorem queue_cases (h : notify.Notes place next) :
    next.queue = notify.queue ∨
      ∃ event, notify.raised? place = some event ∧ next.queue = notify.queue ++ [event] := by
  cases h with
  | added raised => exact .inr ⟨_, raised, rfl⟩
  | merged => exact .inl rfl
  | unseen => exact .inl rfl

theorem mem_of_mem (h : notify.Notes place next) (hmem : event ∈ notify.queue) :
    event ∈ next.queue := by
  rcases h.queue_cases with hqueue | ⟨other, -, hqueue⟩ <;> rw [hqueue]
  · exact hmem
  · exact List.mem_append_left _ hmem

/-- The event of a modification is in the queue afterwards. -/
theorem mem_of_raised? (h : notify.Notes place next) (hraised : notify.raised? place = some event) :
    event ∈ next.queue := by
  cases h with
  | added raised =>
    obtain rfl := Option.some.inj (raised.symm.trans hraised)
    exact List.mem_append_right _ (List.mem_singleton_self _)
  | merged raised last =>
    obtain rfl := Option.some.inj (raised.symm.trans hraised)
    exact List.mem_of_getLast? last
  | unseen none => cases none.symm.trans hraised

theorem mem_or_raised? (h : notify.Notes place next) (hmem : event ∈ next.queue) :
    event ∈ notify.queue ∨ notify.raised? place = some event := by
  rcases h.queue_cases with hqueue | ⟨other, hraised, hqueue⟩ <;> rw [hqueue] at hmem
  · exact .inl hmem
  · rcases List.mem_append.1 hmem with hold | hnew
    · exact .inl hold
    · obtain rfl := List.mem_singleton.1 hnew
      exact .inr hraised

end Notes

/-! ## Reads -/

theorem wakes_eq (hcurrent : notify.current = some observation) :
    notify.wakes = observation.names := by
  funext event
  rw [wakes, hcurrent]
  rfl

/-- Takes events from the front of the queue, and says whether one of them wakes. -/
def take (count : Nat) (notify : Notify) : Bool × Notify :=
  ((notify.queue.take count).any notify.wakes, { notify with queue := notify.queue.drop count })

/-- Reads one after the other: none wakes but perhaps the last, and if none does then nothing is
left in the queue. -/
inductive Waits : Notify → Bool → Notify → Prop
  | empty {notify : Notify} (h : notify.queue = []) : Waits notify false notify
  | woken {notify next : Notify} {count : Nat} (pos : 0 < count) (queued : notify.queue ≠ [])
      (read : notify.take count = (true, next)) : Waits notify true next
  | quiet {notify next last : Notify} {count : Nat} {woke : Bool} (pos : 0 < count)
      (queued : notify.queue ≠ []) (read : notify.take count = (false, next))
      (rest : Waits next woke last) : Waits notify woke last

theorem take_cons (batch : Nat) (notify : Notify) (event : Event) (more : List Event) :
    take (batch + 1) { notify with queue := event :: more }
      = (notify.wakes event || (more.take batch).any notify.wakes,
          { notify with queue := more.drop batch }) :=
  rfl

/-- What draining the queue finds, and what it leaves of the queue, is what such reads do. -/
theorem waits_drain (batch : List Event → Nat) (notify : Notify) (queue : List Event) :
    Waits { notify with queue } (drain batch notify.wakes queue).1
      { notify with queue := (drain batch notify.wakes queue).2 } := by
  fun_induction drain batch notify.wakes queue with
  | case1 => exact .empty rfl
  | case2 event more others hwoken =>
    refine .woken others.succ_pos (List.cons_ne_nil event more) ?_
    rw [take_cons, hwoken]
  | case3 event more others hwoken ih =>
    refine .quiet others.succ_pos (List.cons_ne_nil event more) ?_ ih
    rw [take_cons, Bool.eq_false_iff.2 hwoken]

/-- A look of a subscribed watcher reads until an event wakes, or until the queue is empty. -/
theorem waits_lookBy (batch : List Event → Nat) (hcurrent : notify.current = some observation) :
    ∃ woke, (notify.lookBy batch).1 = (if woke then .done else .blocked) ∧
      notify.Waits woke (notify.lookBy batch).2 := by
  have hlook : notify.lookBy batch =
      (if (drain batch notify.wakes notify.queue).1 then .done else .blocked,
        { notify with queue := (drain batch notify.wakes notify.queue).2 }) := by
    simp only [lookBy, hcurrent]
  rw [hlook]
  exact ⟨_, rfl, notify.waits_drain batch notify.queue⟩

namespace Waits

variable {woke : Bool} {last : Notify}

/-- The queue is cut in three: what was read in vain, the batch that was read last, and what is
left.  A batch that wakes is dropped with all its events. -/
theorem exists_parts (h : notify.Waits woke last) :
    ∃ quiet batch, notify.queue = quiet ++ batch ++ last.queue ∧
      quiet.any notify.wakes = false ∧ batch.any notify.wakes = woke ∧
      (woke = false → last.queue = []) ∧ last = { notify with queue := last.queue } := by
  induction h with
  | empty hempty => exact ⟨[], [], by simp, rfl, rfl, fun _ => hempty, rfl⟩
  | @woken notify next count pos queued read =>
    obtain ⟨hwoke, rfl⟩ := Prod.mk.inj read
    exact ⟨[], notify.queue.take count, (List.take_append_drop count notify.queue).symm, rfl,
      hwoke, nofun, rfl⟩
  | @quiet notify next last count woke pos queued read rest ih =>
    obtain ⟨hquiet, rfl⟩ := Prod.mk.inj read
    obtain ⟨quiet, batch, hqueue, hvain, hbatch, hleft, hlast⟩ := ih
    have hrest : quiet.any notify.wakes = false := hvain
    refine ⟨notify.queue.take count ++ quiet, batch, ?_, ?_, hbatch, hleft, hlast⟩
    · rw [List.append_assoc, List.append_assoc, ← List.append_assoc quiet, ← hqueue,
        List.take_append_drop]
    · rw [List.any_append, hquiet, hrest, Bool.false_or]

theorem woke_eq (h : notify.Waits woke last) : woke = notify.queue.any notify.wakes := by
  obtain ⟨quiet, batch, hqueue, hvain, hbatch, hleft, -⟩ := h.exists_parts
  rw [hqueue, List.any_append, List.any_append, hvain, hbatch, Bool.false_or]
  cases woke with
  | true => rfl
  | false => rw [hleft rfl, List.any_nil, Bool.or_false]

end Waits

/-- However a look divides the queue, it ends if there is an event with the name. -/
theorem fst_lookBy (batch : List Event → Nat) (hcurrent : notify.current = some observation) :
    (notify.lookBy batch).1 =
      if notify.queue.any observation.names then .done else .blocked := by
  obtain ⟨woke, hlook, hwaits⟩ := waits_lookBy batch hcurrent
  rw [hlook, hwaits.woke_eq, wakes_eq hcurrent]

theorem exists_of_lookBy_eq_done {batch : List Event → Nat}
    (hdone : (notify.lookBy batch).1 = .done) :
    ∃ observation, notify.current = some observation ∧
      ∃ event ∈ notify.queue, event.name? = some observation.name := by
  cases hcurrent : notify.current with
  | none =>
    rw [lookBy, hcurrent] at hdone
    cases hdone
  | some observation =>
    rw [fst_lookBy batch hcurrent] at hdone
    split at hdone
    · rename_i hany
      obtain ⟨event, hmem, hnames⟩ := List.any_eq_true.1 hany
      exact ⟨observation, rfl, event, hmem, beq_iff_eq.1 hnames⟩
    · cases hdone

end Notify
end Watch
end FirmwareTrace
