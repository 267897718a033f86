import FirmwareTrace.Proofs.Watch.Events
import Mathlib.Data.List.Forall2

/-! # The subscriptions of a notified watcher

A history is any sequence of the watcher's calls, with modifications by others between them
and between the reads of one wait.  The queue outlives a subscription and an event is told
by its name only.  So a wait that ends owes this to a modification of its own file under
the current subscription, or to an event that an earlier subscription left in the queue,
`woken_by_name`.  The events left carry the number of an observation made earlier, which
no wait looks at.
-/
namespace FirmwareTrace.Watch.Notify

/-- What happens to a watcher. -/
inductive Act
  | subscribe (path : String)
  /-- A subscription that is not accepted. -/
  | refuse (path : String)
  | unsubscribe
  /-- Someone modifies the file at a place. -/
  | modify (place : Place)
  /-- One read of a wait, which ends the wait if it woke. -/
  | read (woke : Bool)

/-- Goes on with the same subscription. -/
def Act.Keeps : Act → Prop
  | .subscribe _ | .unsubscribe => False
  | .refuse _ | .modify _ | .read _ => True

/-- What one act makes of a watcher.  A modification may be merged with the last event,
and a read takes as many of the queued events as it likes, but one at least. -/
inductive Happens (notify : Notify) : Act → Notify → Prop
  | subscribe {path : String} {find : String → Except IoFault Place} {next : Notify}
      (accepted : notify.subscribe path find = .ok next) : Happens notify (.subscribe path) next
  | refuse {path : String} {find : String → Except IoFault Place} {fault : WatchFault}
      (refused : notify.subscribe path find = .error fault) : Happens notify (.refuse path) notify
  | unsubscribe : Happens notify .unsubscribe notify.unsubscribe
  | modify {place : Place} {next : Notify} (notes : notify.Notes place next) :
      Happens notify (.modify place) next
  | read {count : Nat} (subscribed : notify.current.isSome) (pos : 0 < count)
      (queued : notify.queue ≠ []) :
      Happens notify (.read (notify.take count).1) (notify.take count).2

/-- A watcher comes from one state to another by a sequence of acts. -/
inductive Leads (start : Notify) : List Act → Notify → Prop
  | refl : Leads start [] start
  | snoc {acts : List Act} {act : Act} {notify next : Notify} (before : Leads start acts notify)
      (happens : Happens notify act next) : Leads start (acts ++ [act]) next

/-- The event was raised by a modification in the history: of the file with this name in the
directory that the subscription of that time observed. -/
def RaisedIn (acts : List Act) (event : Event) (name : String) : Prop :=
  ∃ front place back under observation,
    acts = front ++ .modify place :: back ∧ Leads {} front under ∧
      under.current = some observation ∧ event.observation = observation.number ∧
      place = observation.place.child name

/-- A history, divided where the current subscription was made. -/
structure Since (acts : List Act) (observation : Observation) (earlier : List Act)
    (before : Notify) (during : List Act) : Prop where
  divided : ∃ path find made, acts = earlier ++ .subscribe path :: during ∧
    before.subscribe path find = .ok made ∧ made.current = some observation
  history : Leads {} earlier before
  kept : ∀ act ∈ during, act.Keeps

/-- What a wait that ends under a subscription is owed to. -/
inductive Owed (acts : List Act) (observation : Observation) : Prop
  /-- Its file was modified since. -/
  | modified {earlier during : List Act} {before : Notify}
      (since : Since acts observation earlier before during)
      (mem : .modify observation.target ∈ during)
  /-- An event with the name was in the queue when the subscription was made. -/
  | left {earlier during : List Act} {before : Notify} {event : Event}
      (since : Since acts observation earlier before during) (queued : event ∈ before.queue)
      (named : event.name? = some observation.name)
      (older : event.observation < observation.number)
      (raised : RaisedIn earlier event observation.name)

variable {notify next before : Notify} {acts during earlier : List Act} {act : Act}
  {observation : Observation} {event : Event} {path name : String}

/-! ## Single acts -/

theorem enqueue_cases (notify : Notify) (event : Event) :
    notify.enqueue event = notify ∨
      notify.enqueue event = { notify with queue := notify.queue ++ [event] } := by
  unfold enqueue
  split
  · exact .inl rfl
  · exact .inr rfl

@[simp] theorem current_enqueue (notify : Notify) (event : Event) :
    (notify.enqueue event).current = notify.current := by
  rcases notify.enqueue_cases event with h | h <;> rw [h]

@[simp] theorem made_enqueue (notify : Notify) (event : Event) :
    (notify.enqueue event).made = notify.made := by
  rcases notify.enqueue_cases event with h | h <;> rw [h]

theorem mem_of_mem_enqueue {other : Event} (h : event ∈ (notify.enqueue other).queue) :
    event ∈ notify.queue ∨ event = other := by
  rcases notify.enqueue_cases other with hqueue | hqueue <;> rw [hqueue] at h
  · exact .inl h
  · exact (List.mem_append.1 h).imp_right List.mem_singleton.1

@[simp] theorem current_unsubscribe (notify : Notify) : notify.unsubscribe.current = none := by
  unfold unsubscribe
  split
  · assumption
  · rw [current_enqueue]

@[simp] theorem made_unsubscribe (notify : Notify) : notify.unsubscribe.made = notify.made := by
  unfold unsubscribe
  split
  · rfl
  · rw [made_enqueue]

namespace Happens

/-- Where a queued event comes from: only a modification raises one with a name. -/
theorem mem_cases (h : Happens notify act next) (hmem : event ∈ next.queue) :
    event ∈ notify.queue ∨ ∃ observation, notify.current = some observation ∧
      event.observation = observation.number ∧
      ∀ name, event.name? = some name → act = .modify (observation.place.child name) := by
  cases h with
  | subscribe accepted =>
    obtain ⟨-, _, _, -, -, rfl⟩ := subscribe_eq_ok accepted
    exact .inl hmem
  | refuse => exact .inl hmem
  | unsubscribe =>
    unfold Notify.unsubscribe at hmem
    split at hmem
    · exact .inl hmem
    · rename_i observation hcurrent
      rcases mem_of_mem_enqueue hmem with hold | rfl
      · exact .inl hold
      · exact .inr ⟨observation, hcurrent, rfl, fun name hname => nomatch hname⟩
  | modify notes =>
    refine (notes.mem_or_raised? hmem).imp_right fun hraised => ?_
    obtain ⟨observation, hcurrent, hnumber, hplace⟩ := exists_of_raised? hraised
    exact ⟨observation, hcurrent, hnumber, fun name hname => congrArg _ (hplace name hname)⟩
  | read => exact .inl (List.mem_of_mem_drop hmem)

/-- The current subscription is the one before, unless the act makes it. -/
theorem current_cases (h : Happens notify act next) (hcurrent : next.current = some observation) :
    notify.current = some observation ∧ act.Keeps ∨
      ∃ path find, act = .subscribe path ∧ notify.subscribe path find = .ok next := by
  cases h with
  | subscribe accepted => exact .inr ⟨_, _, rfl, accepted⟩
  | refuse => exact .inl ⟨hcurrent, trivial⟩
  | unsubscribe => cases (current_unsubscribe notify).symm.trans hcurrent
  | modify notes => exact .inl ⟨notes.current_eq.symm.trans hcurrent, trivial⟩
  | read => exact .inl ⟨hcurrent, trivial⟩

theorem made_le (h : Happens notify act next) : notify.made ≤ next.made := by
  cases h with
  | subscribe accepted =>
    obtain ⟨-, _, _, -, -, rfl⟩ := subscribe_eq_ok accepted
    exact Nat.le_succ _
  | refuse => exact Nat.le_refl _
  | unsubscribe => exact Nat.le_of_eq (made_unsubscribe notify).symm
  | modify notes =>
    cases notes <;> exact Nat.le_refl _
  | read => exact Nat.le_refl _

end Happens

/-! ## Whole histories -/

/-- Numbers in use were given to observations made so far. -/
structure Numbered (notify : Notify) : Prop where
  current : ∀ observation, notify.current = some observation → observation.number < notify.made
  queue : ∀ event ∈ notify.queue, event.observation < notify.made

theorem Numbered.happens (hnumbered : Numbered notify) (h : Happens notify act next) :
    Numbered next where
  current observation hcurrent := by
    rcases h.current_cases hcurrent with ⟨hsame, -⟩ | ⟨path, find, -, haccepted⟩
    · exact Nat.lt_of_lt_of_le (hnumbered.current observation hsame) h.made_le
    · obtain ⟨-, _, _, -, -, rfl⟩ := subscribe_eq_ok haccepted
      obtain rfl := Option.some.inj hcurrent
      exact Nat.lt_succ_self _
  queue event hmem := by
    refine Nat.lt_of_lt_of_le ?_ h.made_le
    rcases h.mem_cases hmem with hold | ⟨observation, hcurrent, hnumber, -⟩
    · exact hnumbered.queue event hold
    · exact hnumber ▸ hnumbered.current observation hcurrent

namespace Leads

theorem numbered (h : Leads {} acts notify) : Numbered notify := by
  induction h with
  | refl =>
    exact ⟨fun _ hnone => (nomatch hnone), fun _ hmem => (nomatch hmem)⟩
  | snoc _ happens ih => exact ih.happens happens

/-- Every queued event with a name was raised by some modification. -/
theorem raisedIn (h : Leads {} acts notify) (hmem : event ∈ notify.queue)
    (hname : event.name? = some name) : RaisedIn acts event name := by
  induction h with
  | refl => cases hmem
  | @snoc acts act notify next before happens ih =>
    rcases happens.mem_cases hmem with hold | ⟨observation, hcurrent, hnumber, hact⟩
    · obtain ⟨front, place, back, under, observation, hacts, hraised⟩ := ih hold
      refine ⟨front, place, back ++ [act], under, observation, ?_, hraised⟩
      rw [hacts, List.append_assoc, List.cons_append]
    · exact ⟨acts, _, [], notify, observation, hact name hname ▸ rfl, before, hcurrent, hnumber,
        rfl⟩

/-- The current subscription was made at some point, and what is queued by name was in the
queue then or was raised since. -/
theorem exists_since (h : Leads {} acts notify) (hcurrent : notify.current = some observation) :
    ∃ earlier before during, Since acts observation earlier before during ∧
      ∀ event ∈ notify.queue, ∀ name, event.name? = some name →
        event ∈ before.queue ∨ .modify (observation.place.child name) ∈ during := by
  induction h with
  | refl => cases hcurrent
  | @snoc acts act notify next before happens ih =>
    rcases happens.current_cases hcurrent with ⟨hsame, hkeeps⟩ | ⟨path, find, rfl, haccepted⟩
    · -- the act belongs to the same subscription, and any event it adds was raised under it
      obtain ⟨earlier, start, during, hsince, hqueue⟩ := ih hsame
      obtain ⟨⟨path, find, made, hacts, hmade⟩, hhistory, hkept⟩ := hsince
      refine ⟨earlier, start, during ++ [act], ⟨⟨path, find, made, ?_, hmade⟩, hhistory, ?_⟩, ?_⟩
      · rw [hacts, List.append_assoc, List.cons_append]
      · exact List.forall_mem_append.2 ⟨hkept, List.forall_mem_singleton.2 hkeeps⟩
      · intro event hmem name hname
        rcases happens.mem_cases hmem with hold | ⟨other, hother, -, hact⟩
        · exact (hqueue event hold name hname).imp_right (List.mem_append_left _)
        · obtain rfl := Option.some.inj (hother.symm.trans hsame)
          exact .inr (List.mem_append_right _ (List.mem_singleton.2 (hact name hname).symm))
    · -- a new subscription leaves the queue as it is
      refine ⟨acts, notify, [], ⟨⟨path, find, next, rfl, haccepted, hcurrent⟩, before, ?_⟩, ?_⟩
      · exact fun _ hmem => nomatch hmem
      · obtain ⟨-, _, _, -, -, rfl⟩ := subscribe_eq_ok haccepted
        exact fun event hmem name hname => .inl hmem

end Leads

/-! ## Scenes -/

def Act.IsRead : Act → Prop
  | .read _ => True
  | _ => False

/-- The act is what an action does: a modification of the file that its path leads to. -/
def Act.Does (action : Action) (act : Act) : Prop :=
  ∃ path place workspace after, action = .append path ∧
    Workspace.append workspace path Backend.mark = .ok (place, after) ∧ act = .modify place

/-- The acts that a command may consist of. -/
def Act.Of : Command → Act → Prop
  | .subscribe path, act => act = .subscribe path ∨ act = .refuse path
  | .unsubscribe, act => act = .unsubscribe
  | .wait others, act => act.IsRead ∨ ∃ action ∈ others, act.Does action
  | .act action, act => act.Does action
  | .remove _, _ => False

theorem Leads.trans {start : Notify} {more : List Act} (h₁ : Leads start acts notify)
    (h₂ : Leads notify more next) : Leads start (acts ++ more) next := by
  induction h₂ with
  | refl => rwa [List.append_nil]
  | snoc _ happens ih => exact List.append_assoc .. ▸ ih.snoc happens

/-- A watcher comes from one state to another by acts of some kind. -/
def LeadsBy (kind : Act → Prop) (start notify : Notify) : Prop :=
  ∃ acts, Leads start acts notify ∧ ∀ act ∈ acts, kind act

namespace LeadsBy

variable {kind other : Act → Prop} {start : Notify}

theorem refl (kind : Act → Prop) (notify : Notify) : LeadsBy kind notify notify :=
  ⟨[], .refl, fun _ hmem => (nomatch hmem)⟩

theorem single (happens : Happens notify act next) (hkind : kind act) :
    LeadsBy kind notify next :=
  ⟨[act], Leads.refl.snoc happens, List.forall_mem_singleton.2 hkind⟩

theorem trans (h₁ : LeadsBy kind start notify) (h₂ : LeadsBy kind notify next) :
    LeadsBy kind start next := by
  obtain ⟨acts, hacts, hkind⟩ := h₁
  obtain ⟨more, hmore, hothers⟩ := h₂
  exact ⟨acts ++ more, hacts.trans hmore, List.forall_mem_append.2 ⟨hkind, hothers⟩⟩

theorem mono (h : LeadsBy kind start notify) (hkinds : ∀ act, kind act → other act) :
    LeadsBy other start notify :=
  h.imp fun _ hleads => ⟨hleads.1, fun act hmem => hkinds act (hleads.2 act hmem)⟩

end LeadsBy

/-- The acts of one look: reads that do not wake, and then one that does if the look ended the
wait. -/
def reads (quiet : Nat) (woke : Bool) : List Act :=
  List.replicate quiet (.read false) ++ if woke then [.read true] else []

theorem isRead_of_mem_reads {quiet : Nat} {woke : Bool} (h : act ∈ reads quiet woke) :
    act.IsRead := by
  rcases List.mem_append.1 h with hquiet | hlast
  · rw [List.eq_of_mem_replicate hquiet]
    trivial
  · cases woke with
    | true =>
      rw [List.mem_singleton.1 hlast]
      trivial
    | false => cases hlast

theorem Waits.leads {woke : Bool} (h : notify.Waits woke next)
    (hcurrent : notify.current.isSome) : ∃ quiet, Leads notify (reads quiet woke) next := by
  induction h with
  | empty => exact ⟨0, .refl⟩
  | @woken notify next count pos queued read =>
    have happens := Happens.read hcurrent pos queued
    rw [read] at happens
    exact ⟨0, Leads.refl.snoc happens⟩
  | @quiet notify next last count woke pos queued read _ ih =>
    have happens := Happens.read hcurrent pos queued
    have hnext : next.current.isSome := by
      obtain ⟨-, rfl⟩ := Prod.mk.inj read
      exact hcurrent
    rw [read] at happens
    obtain ⟨quiet, hrest⟩ := ih hnext
    exact ⟨quiet + 1, (Leads.refl.snoc happens).trans hrest⟩

/-- A look is a sequence of reads, of which only the last may wake. -/
theorem leads_lookBy (batch : List Event → Nat) (hcurrent : notify.current = some observation) :
    ∃ quiet woke, (notify.lookBy batch).1 = (if woke then .done else .blocked) ∧
      Leads notify (reads quiet woke) (notify.lookBy batch).2 := by
  obtain ⟨woke, hlook, hwaits⟩ := waits_lookBy batch hcurrent
  obtain ⟨quiet, hleads⟩ := hwaits.leads (Option.isSome_of_eq_some hcurrent)
  exact ⟨quiet, woke, hlook, hleads⟩

theorem leadsBy_lookBy (batch : List Event → Nat) (notify : Notify) :
    LeadsBy Act.IsRead notify (notify.lookBy batch).2 := by
  cases hcurrent : notify.current with
  | none =>
    rw [lookBy, hcurrent]
    exact .refl _ notify
  | some observation =>
    obtain ⟨quiet, woke, -, hleads⟩ := leads_lookBy batch hcurrent
    exact ⟨_, hleads, fun _ => isRead_of_mem_reads⟩

theorem leadsBy_act (scene : Scene Notify) (action : Action) :
    LeadsBy (Act.Does action) scene.watcher (backend.act scene action).watcher := by
  cases action with
  | stop => exact .refl _ _
  | append path =>
    unfold Backend.act
    dsimp only
    split
    · exact .refl _ _
    · rename_i place after happended
      exact .single (.modify (notes_observe _ _)) ⟨path, place, _, after, rfl, happended, rfl⟩

theorem leadsBy_foldl_act (scene : Scene Notify) (actions : List Action) :
    LeadsBy (fun act => ∃ action ∈ actions, act.Does action) scene.watcher
      (actions.foldl backend.act scene).watcher := by
  induction actions generalizing scene with
  | nil => exact .refl _ _
  | cons action actions ih =>
    refine ((leadsBy_act scene action).mono fun act hdoes => ?_).trans ((ih _).mono ?_)
    · exact ⟨action, List.mem_cons_self, hdoes⟩
    · exact fun act ⟨other, hmem, hdoes⟩ => ⟨other, List.mem_cons_of_mem _ hmem, hdoes⟩

theorem leadsBy_wait (scene : Scene Notify) (others : List Action) :
    LeadsBy (Act.Of (.wait others)) scene.watcher (backend.wait scene others).2.watcher := by
  have hlook (others : List Action) (watcher : Notify) :
      LeadsBy (Act.Of (.wait others)) watcher watcher.look.2 :=
    (leadsBy_lookBy (fitting readCapacity) watcher).mono fun _ => .inl
  induction others generalizing scene with
  | nil => exact hlook [] scene.watcher
  | cons action rest ih =>
    unfold Backend.wait
    dsimp only
    split
    · have hact := leadsBy_act ⟨scene.watcher.look.2, scene.workspace⟩ action
      refine ((hlook _ scene.watcher).trans (hact.mono fun act hdoes => ?_)).trans
        ((ih _).mono fun act hof => ?_)
      · exact .inr ⟨action, List.mem_cons_self, hdoes⟩
      · exact hof.imp_right fun ⟨other, hmem, hdoes⟩ =>
          ⟨other, List.mem_cons_of_mem _ hmem, hdoes⟩
    · have hacts := leadsBy_foldl_act ⟨scene.watcher.look.2, scene.workspace⟩ (action :: rest)
      exact (hlook _ scene.watcher).trans (hacts.mono fun _ => .inr)

theorem leadsBy_perform (scene : Scene Notify) (command : Command) :
    LeadsBy (Act.Of command) scene.watcher (backend.perform scene command).2.watcher := by
  cases command with
  | subscribe path =>
    unfold Backend.perform
    dsimp only
    split
    · rename_i fault hrefused
      exact .single (.refuse hrefused) (.inr rfl)
    · rename_i watcher haccepted
      exact .single (.subscribe haccepted) (.inl rfl)
  | unsubscribe => exact .single .unsubscribe rfl
  | wait others => exact leadsBy_wait scene others
  | act action => exact leadsBy_act scene action
  | remove path =>
    unfold Backend.perform
    dsimp only
    split <;> exact .refl _ _

/-- A list of acts has one stretch for each of some commands. -/
def Stretches (commands : List Command) (acts : List Act) : Prop :=
  ∃ stretches, acts = stretches.flatten ∧
    List.Forall₂ (fun command stretch => ∀ act ∈ stretch, Act.Of command act) commands stretches

/-- The commands of a scene are a history of its watcher. -/
theorem leads_performAll (scene : Scene Notify) (commands : List Command) :
    ∃ acts, Stretches commands acts ∧
      Leads scene.watcher acts (backend.performAll scene commands).2.watcher := by
  induction commands generalizing scene with
  | nil => exact ⟨[], ⟨[], rfl, .nil⟩, .refl⟩
  | cons command rest ih =>
    obtain ⟨acts, hleads, hof⟩ := leadsBy_perform scene command
    obtain ⟨more, ⟨stretches, hmore, hrest⟩, hafter⟩ := ih (backend.perform scene command).2
    refine ⟨acts ++ more, ⟨acts :: stretches, ?_, .cons hof hrest⟩, hleads.trans hafter⟩
    rw [hmore, List.flatten_cons]

/-! ## Waits that end -/

theorem Leads.owed (history : Leads {} acts notify) {batch : List Event → Nat}
    (woken : (notify.lookBy batch).1 = .done) :
    ∃ observation, notify.current = some observation ∧ Owed acts observation := by
  obtain ⟨observation, hcurrent, event, hmem, hname⟩ := exists_of_lookBy_eq_done woken
  refine ⟨observation, hcurrent, ?_⟩
  obtain ⟨earlier, before, during, hsince, hqueue⟩ := history.exists_since hcurrent
  rcases hqueue event hmem _ hname with hleft | hmodified
  · obtain ⟨path, find, made, -, haccepted, hmade⟩ := hsince.divided
    obtain ⟨-, _, _, -, -, rfl⟩ := subscribe_eq_ok haccepted
    obtain rfl := Option.some.inj hmade
    exact .left hsince hleft hname (hsince.history.numbered.queue event hleft)
      (hsince.history.raisedIn hleft hname)
  · exact .modified hsince hmodified

/-- A wait that ends follows a modification of its own file under the current subscription,
or finds an event that was left in the queue when that subscription was made: one of an
earlier subscription, raised by a file of the same name in the directory observed then.  This
is so after any history, and after any commands in a scene. -/
theorem woken_by_name (batch : List Event → Nat) :
    (∀ acts notify, Leads {} acts notify → (notify.lookBy batch).1 = .done →
      ∃ observation, notify.current = some observation ∧ Owed acts observation) ∧
    ∀ workspace commands, let scene := (backend.performAll ⟨{}, workspace⟩ commands).2
      (scene.watcher.lookBy batch).1 = .done → ∃ acts observation, Stretches commands acts ∧
        Leads {} acts scene.watcher ∧ scene.watcher.current = some observation ∧
        Owed acts observation := by
  refine ⟨fun acts notify history woken => history.owed woken, ?_⟩
  intro workspace commands scene woken
  obtain ⟨acts, hstretches, hleads⟩ := leads_performAll ⟨{}, workspace⟩ commands
  obtain ⟨observation, hcurrent, howed⟩ := hleads.owed woken
  exact ⟨acts, observation, hstretches, hleads, hcurrent, howed⟩

theorem woken_by_name_modified :
    let acts : List Act := [.subscribe "d/x", .modify ⟨.working 0, ["x", "d"]⟩]
    let observation : Observation := ⟨0, ⟨.working 0, ["d"]⟩, "x"⟩
    let notify : Notify := ⟨some observation, [⟨0, .modified (some "x")⟩], 1⟩
    let commands : List Command := [.subscribe "d/x", .act (.append "d/x")]
    let scene := (backend.performAll ⟨{}, ({} : Workspace).addFile "d/x" .empty⟩ commands).2
    (Leads {} acts notify ∧ (notify.lookBy fun _ => 1).1 = .done ∧
      ∃ current, notify.current = some current ∧ Owed acts current) ∧
      (scene.watcher.lookBy fun _ => 1).1 = .done ∧ ∃ acts current, Stretches commands acts ∧
        Leads {} acts scene.watcher ∧ scene.watcher.current = some current ∧
        Owed acts current := by
  intro acts observation notify commands scene
  have hsubscribe : Happens {} (.subscribe "d/x") ⟨some observation, [], 1⟩ :=
    .subscribe (show ({} : Notify).subscribe "d/x" (fun _ => .ok observation.place) = _ from rfl)
  have hmodify : Happens ⟨some observation, [], 1⟩ (.modify observation.target) notify :=
    .modify (notes_observe _ _)
  have history : Leads {} acts notify := (Leads.refl.snoc hsubscribe).snoc hmodify
  have hcurrent : notify.current = some observation := rfl
  have hdone : (notify.lookBy fun _ => 1).1 = .done := by
    rw [fst_lookBy _ hcurrent]
    rfl
  have hscene : scene.watcher = notify := rfl
  have hlook : (scene.watcher.lookBy fun _ => 1).1 = .done := hscene ▸ hdone
  exact ⟨⟨history, hdone, (woken_by_name fun _ => 1).1 acts notify history hdone⟩, hlook,
    (woken_by_name fun _ => 1).2 _ commands hlook⟩

/-- The file is modified under the first subscription, and never again; the first wait under
the second subscription ends nonetheless.  The second may be one of the same file, or of the
file of that name in another directory. -/
theorem stale_event_wakes :
    let workspace := (({} : Workspace).addFile "d/x" .empty).addFile "e/x" .empty
    let again (path : String) : List Command :=
      [.subscribe "d/x", .act (.append "d/x"), .unsubscribe, .subscribe path, .wait []]
    (backend.performAll ⟨{}, workspace⟩ (again "d/x")).1 = [.done, .done, .done, .done, .done] ∧
      (backend.performAll ⟨{}, workspace⟩ (again "e/x")).1
        = [.done, .done, .done, .done, .done] ∧
      workspace.locate "d/x" ≠ workspace.locate "e/x" := by
  intro workspace again
  have hlook (directory : String) : (look ⟨some ⟨1, ⟨.working 0, [directory]⟩, "x"⟩,
      [⟨0, .modified (some "x")⟩, ⟨0, .ignored⟩], 2⟩).1 = .done := by
    rw [look, fst_lookBy _ rfl]
    rfl
  refine ⟨?_, ?_, by decide⟩
  · exact congrArg (fun outcome => [.done, .done, .done, .done, outcome]) (hlook "d")
  · exact congrArg (fun outcome => [.done, .done, .done, .done, outcome]) (hlook "e")

end FirmwareTrace.Watch.Notify
