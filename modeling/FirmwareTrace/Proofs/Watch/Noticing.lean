import FirmwareTrace.Proofs.Decode.Vigil
import FirmwareTrace.Proofs.Watch.Events

/-! # Following by directory events

Others modify the followed file and other files, at any time, and a wait reads the events in
batches of any size.  A batch that ends a wait may drop later events of the file with it, but
those were raised before the next pass.  What is raised after a wait ended stays in the queue
until a wait ends with it, and each wait that ends uses up a modification of the file of its
own, `notify_misses_nothing`.
-/
namespace FirmwareTrace
open Channel Decode Watch

namespace Watch

/-- Others modify files, of which only the target has the data.  A look reads some of the
queued events, one at least. -/
def noticing (target : Place) : Guard Notify Place where
  deed place site next := site.1.Notes place next.1 ∧ (place = target ∨ next.2 = site.2)
  look _ notify woke next :=
    ∃ count, 0 < count ∧ notify.queue ≠ [] ∧ notify.take count = (woke, next)

namespace Notify

variable {notify next : Notify} {observation : Observation} {place : Place} {event : Event}

/-- Only a modification of the target raises an event with its name. -/
theorem eq_target_of_raised? (hcurrent : notify.current = some observation)
    (hraised : notify.raised? place = some event) (hnames : observation.names event = true) :
    place = observation.target := by
  obtain ⟨other, hother, -, hplace⟩ := exists_of_raised? hraised
  obtain rfl := Option.some.inj (hother.symm.trans hcurrent)
  exact hplace _ (beq_iff_eq.1 hnames)

/-- How the events of a name change when others act: none is lost, a modification of the
target leaves one behind, and no other does. -/
structure Gains (observation : Observation) (deeds : List Place) (notify next : Notify) :
    Prop where
  current : next.current = notify.current
  kept : ∀ event ∈ notify.queue, event ∈ next.queue
  added : observation.target ∈ deeds → next.queue.any observation.names
  paid : next.queue.countP observation.names
    ≤ notify.queue.countP observation.names + deeds.count observation.target

theorem Notes.gains (h : notify.Notes place next) (hcurrent : notify.current = some observation) :
    Gains observation [place] notify next where
  current := h.current_eq
  kept _ := h.mem_of_mem
  added hmem := by
    obtain rfl := List.mem_singleton.1 hmem
    exact List.any_eq_true.2
      ⟨_, h.mem_of_raised? (raised?_child hcurrent), beq_self_eq_true _⟩
  paid := by
    rcases h.queue_cases with hqueue | ⟨event, hraised, hqueue⟩ <;> rw [hqueue]
    · exact Nat.le_add_right _ _
    · rw [List.countP_append, Nat.add_le_add_iff_left]
      cases hnames : observation.names event with
      | false => simp [hnames]
      | true =>
        rw [eq_target_of_raised? hcurrent hraised hnames]
        simp [hnames]

theorem Gains.any {deeds : List Place} (h : Gains observation deeds notify next)
    (hany : notify.queue.any observation.names) : next.queue.any observation.names := by
  obtain ⟨event, hqueued, hnames⟩ := List.any_eq_true.1 hany
  exact List.any_eq_true.2 ⟨event, h.kept event hqueued, hnames⟩

theorem Gains.trans {front back : List Place} {mid : Notify}
    (h₁ : Gains observation front notify mid) (h₂ : Gains observation back mid next) :
    Gains observation (front ++ back) notify next where
  current := h₂.current.trans h₁.current
  kept event hmem := h₂.kept event (h₁.kept event hmem)
  added hmem := by
    rcases List.mem_append.1 hmem with hfront | hback
    · exact h₂.any (h₁.added hfront)
    · exact h₂.added hback
  paid := by
    have hfront := h₁.paid
    have hback := h₂.paid
    rw [List.count_append]
    omega

theorem gains_of_deeds {deeds : List Place} {site last : Notify × ByteArray}
    (h : (noticing observation.target).Deeds deeds site last)
    (hcurrent : site.1.current = some observation) : Gains observation deeds site.1 last.1 := by
  induction h with
  | nil site => exact ⟨rfl, fun _ => id, fun hmem => (nomatch hmem), Nat.le_refl _⟩
  | cons first rest ih =>
    have hfirst := first.1.gains hcurrent
    exact hfirst.trans (ih (hfirst.current.trans hcurrent))

end Notify

/-- What is owed to modifications of the target is in the queue, and no wait ended without
one of its own. -/
structure Heeds (observation : Observation) (moments : List (Moment Place)) (notify : Notify) :
    Prop where
  current : notify.current = some observation
  owed : observation.target ∈ sinceWake moments → notify.queue.any observation.names
  paid : notify.queue.countP observation.names + wakes moments
    ≤ (deedsOf moments).count observation.target

section

variable {Header Literal : Type} {decoder : Decoder Header Literal} {observation : Observation}
  {vigil next : Vigil Notify} {moment : Moment Place} {moments : List (Moment Place)}
  {notify later : Notify}

theorem Heeds.gains (h : Heeds observation moments notify) (hsleep : moment.isWake = false)
    (hgains : Notify.Gains observation moment.deeds notify later) :
    Heeds observation (moments ++ [moment]) later where
  current := hgains.current.trans h.current
  owed := by
    rw [sinceWake_snoc, hsleep]
    intro hmem
    rcases List.mem_append.1 hmem with hbefore | hnow
    · exact hgains.any (h.owed hbefore)
    · exact hgains.added hnow
  paid := by
    have hbefore := h.paid
    have hnow := hgains.paid
    rw [wakes_snoc, deedsOf_snoc, List.count_append, hsleep]
    simp only [Bool.false_eq_true, if_false]
    omega

/-- A read that wakes takes an event of the name from the queue, and any other takes none. -/
theorem Heeds.look {woke : Bool} {count : Nat} (h : Heeds observation moments notify)
    (htake : notify.take count = (woke, later)) :
    Heeds observation (moments ++ [.look woke]) later := by
  obtain ⟨hwoke, rfl⟩ := Prod.mk.inj htake
  rw [Notify.wakes_eq h.current] at hwoke
  have hsplit := List.take_append_drop count notify.queue
  have hcount : (notify.queue.take count).countP observation.names
      + (notify.queue.drop count).countP observation.names
      = notify.queue.countP observation.names := by
    rw [← List.countP_append, hsplit]
  have hpaid := h.paid
  cases woke with
  | true =>
    obtain ⟨event, hmem, hnames⟩ := List.any_eq_true.1 hwoke
    have hpos := List.countP_pos_iff.2 ⟨event, hmem, hnames⟩
    refine ⟨h.current, ?_, ?_⟩
    · rw [sinceWake_snoc]
      exact fun hmem => (nomatch hmem)
    · rw [wakes_snoc, deedsOf_snoc]
      simp only [Moment.isWake, Moment.deeds, List.append_nil, if_true]
      omega
  | false =>
    -- what is owed was not in the batch, so it is in the rest
    refine ⟨h.current, ?_, ?_⟩
    · rw [sinceWake_snoc]
      simp only [Moment.isWake, Moment.deeds, List.append_nil, Bool.false_eq_true, if_false]
      intro hmem
      have hany := h.owed hmem
      rwa [← hsplit, List.any_append, hwoke, Bool.false_or] at hany
    · rw [wakes_snoc, deedsOf_snoc]
      simp only [Moment.isWake, Moment.deeds, List.append_nil, Bool.false_eq_true, if_false]
      omega

theorem Heeds.step (h : Heeds observation moments vigil.watcher)
    (step : decoder.Step (noticing observation.target) vigil moment next) :
    Heeds observation (moments ++ [moment]) next.watcher := by
  cases step with
  | others done => exact h.gains rfl (done.1.gains h.current)
  | pass completed done => exact h.gains rfl (Notify.gains_of_deeds done h.current)
  | sleep looked =>
    obtain ⟨count, -, -, htake⟩ := looked
    exact h.look htake
  | wake looked =>
    obtain ⟨count, -, -, htake⟩ := looked
    exact h.look htake

theorem Heeds.walk {start : Vigil Notify} (h : Heeds observation [] start.watcher)
    (walk : decoder.Walk (noticing observation.target) start moments vigil) :
    Heeds observation moments vigil.watcher := by
  induction walk with
  | refl => exact h
  | snoc _ step ih => exact ih.step step

/-- The looks of a walk that make up one look of the watcher: some that do not end the wait, and
then one that does if it ends. -/
def looks (quiet : Nat) (woke : Bool) : List (Moment Place) :=
  List.replicate quiet (.look false) ++ if woke then [.look true] else []

/-- Reads up to one that wakes, or to the end of the queue, go on with a walk. -/
theorem Notify.Waits.walk {target : Place} {start : Vigil Notify} {now : Input} {sink : Sink}
    {visit : Visit} {offset : Nat} {last : Notify} {woke : Bool} (h : notify.Waits woke last)
    (walk : decoder.Walk (noticing target) start moments
      ⟨notify, now, sink, .waiting visit offset⟩) :
    ∃ quiet, decoder.Walk (noticing target) start (moments ++ looks quiet woke)
      (if woke then ⟨last, now.seek offset, sink, .reading⟩
        else ⟨last, now, sink, .waiting visit offset⟩) := by
  induction h generalizing moments with
  | empty =>
    refine ⟨0, ?_⟩
    rwa [looks, List.replicate_zero, List.nil_append, if_neg Bool.false_ne_true, List.append_nil]
  | woken pos queued read => exact ⟨0, walk.snoc (.wake ⟨_, pos, queued, read⟩)⟩
  | quiet pos queued read _ ih =>
    obtain ⟨quiet, hrest⟩ := ih (walk.snoc (.sleep ⟨_, pos, queued, read⟩))
    refine ⟨quiet + 1, ?_⟩
    rwa [List.append_assoc] at hrest

/-- What a look at the queue comes to, by what was done to the target. -/
theorem Heeds.lookBy (h : Heeds observation moments later) (batch : List Event → Nat) :
    ((later.lookBy batch).1 = .blocked ∨ (later.lookBy batch).1 = .done) ∧
      (observation.target ∈ sinceWake moments → (later.lookBy batch).1 = .done) ∧
      (observation.target ∉ deedsOf moments → (later.lookBy batch).1 = .blocked) ∧
      ((later.lookBy batch).1 = .done →
        wakes moments < (deedsOf moments).count observation.target) := by
  have hpaid := h.paid
  rw [Notify.fst_lookBy batch h.current]
  cases hany : later.queue.any observation.names with
  | true =>
    obtain ⟨event, hmem, hnames⟩ := List.any_eq_true.1 hany
    have hpos := List.countP_pos_iff.2 ⟨event, hmem, hnames⟩
    refine ⟨.inr rfl, fun _ => rfl, fun hnone => ?_, fun _ => by omega⟩
    rw [List.count_eq_zero_of_not_mem hnone] at hpaid
    omega
  | false =>
    refine ⟨.inl rfl, fun hsince => ?_, fun _ => rfl, fun hdone => (nomatch hdone)⟩
    exact absurd (hany.symm.trans (h.owed hsince)) Bool.false_ne_true

/-- Whatever the batches, a wait ends if the target was modified since the last one ended, and
it ends for a modification of the target only, one that no other wait has ended for.  Its look
at the queue is a run of reads that end no wait, with one at the end that does if it ends. -/
theorem notify_misses_nothing {path : String} {find : String → Except IoFault Place}
    {input now : Input} {start sink : Sink} {visit : Visit} {offset : Nat}
    (subscribed : Notify.subscribe {} path find = .ok notify)
    (current : notify.current = some observation)
    (walk : decoder.Walk (noticing observation.target) ⟨notify, input, start, .reading⟩ moments
      ⟨later, now, sink, .waiting visit offset⟩) :
    decoder.WaitsAfter input start visit offset (wakes moments) ∧ ∀ batch,
      ((later.lookBy batch).1 = .blocked ∨ (later.lookBy batch).1 = .done) ∧
      (observation.target ∈ sinceWake moments → (later.lookBy batch).1 = .done) ∧
      (observation.target ∉ deedsOf moments → (later.lookBy batch).1 = .blocked) ∧
      ((later.lookBy batch).1 = .done →
        wakes moments < (deedsOf moments).count observation.target) ∧
      ∃ quiet woke, (later.lookBy batch).1 = (if woke then .done else .blocked) ∧
        decoder.Walk (noticing observation.target) ⟨notify, input, start, .reading⟩
          (moments ++ looks quiet woke)
          (if woke then ⟨(later.lookBy batch).2, now.seek offset, sink, .reading⟩
            else ⟨(later.lookBy batch).2, now, sink, .waiting visit offset⟩) := by
  have hempty : notify.queue = [] := by
    obtain ⟨-, _, _, -, -, rfl⟩ := Notify.subscribe_eq_ok subscribed
    rfl
  have hstart : Heeds observation [] notify :=
    ⟨current, fun hmem => (nomatch hmem), by rw [hempty]; exact Nat.le_refl 0⟩
  have hheeds : Heeds observation moments later := hstart.walk walk
  refine ⟨walk.follows, fun batch => ?_⟩
  obtain ⟨hends, howed, hnone, hpaid⟩ := hheeds.lookBy batch
  obtain ⟨woke, hlook, hwaits⟩ := Notify.waits_lookBy batch hheeds.current
  obtain ⟨quiet, hwalk⟩ := hwaits.walk walk
  exact ⟨hends, howed, hnone, hpaid, quiet, woke, hlook, hwalk⟩

/-- The first wait ends for what was written in the middle of the first pass; the second one,
with an event of another file in front, for what is written while it waits. -/
theorem notify_misses_nothing_growth :
    let observation : Observation := ⟨0, .working, "trace"⟩
    let fresh : Notify := ⟨some observation, [], 1⟩
    let later : Notify := ⟨some observation,
      [⟨0, .modified (some "noise")⟩, ⟨0, .modified (some "trace")⟩], 1⟩
    let moments : List (Moment Place) := [.pass [observation.target], .look true, .pass [],
      .others (observation.place.child "noise"), .others observation.target]
    Notify.subscribe {} "trace" (fun _ => .ok .working) = .ok fresh ∧
      Decoder.gainDecoder.Walk (noticing observation.target)
        ⟨fresh, Decoder.cutInput, {}, .reading⟩ moments
        ⟨later, Decoder.grownInput, ⟨.empty, none, 2⟩, .waiting ⟨[], .empty, 3⟩ 0⟩ ∧
      observation.target ∈ sinceWake moments ∧
      Decoder.gainDecoder.WaitsAfter Decoder.cutInput {} ⟨[], .empty, 3⟩ 0 1 ∧
      (later.lookBy fun _ => 1).1 = .done ∧
      wakes moments < (deedsOf moments).count observation.target := by
  intro observation fresh later moments
  have subscribed : Notify.subscribe {} "trace" (fun _ => .ok .working) = .ok fresh := rfl
  have woken : Decoder.gainDecoder.Walk (noticing observation.target)
      ⟨fresh, Decoder.cutInput, {}, .reading⟩ [.pass [observation.target], .look true, .pass []]
      ⟨fresh, Decoder.grownInput, ⟨.empty, none, 2⟩, .waiting ⟨[], .empty, 3⟩ 0⟩ :=
    Decoder.walk_cutInput (.cons ⟨Notify.notes_observe _ _, .inl rfl⟩ (.nil _))
      ⟨1, Nat.one_pos, List.cons_ne_nil _ _, rfl⟩
  have walk : Decoder.gainDecoder.Walk (noticing observation.target)
      ⟨fresh, Decoder.cutInput, {}, .reading⟩ moments
      ⟨later, Decoder.grownInput, ⟨.empty, none, 2⟩, .waiting ⟨[], .empty, 3⟩ 0⟩ :=
    (woken.snoc (.others ⟨Notify.notes_observe _ _, .inr rfl⟩)).snoc
      (.others ⟨Notify.notes_observe _ _, .inl rfl⟩)
  have since : observation.target ∈ sinceWake moments := List.mem_cons_of_mem _ List.mem_cons_self
  obtain ⟨follows, hlook⟩ := notify_misses_nothing subscribed rfl walk
  have hdone := (hlook fun _ => 1).2.1 since
  exact ⟨subscribed, walk, since, follows, hdone, (hlook fun _ => 1).2.2.2.1 hdone⟩

end

end Watch
end FirmwareTrace
