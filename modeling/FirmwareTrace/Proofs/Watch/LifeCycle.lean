import FirmwareTrace.Proofs.Watch.Polling
import FirmwareTrace.Proofs.Watch.Subscriptions

/-! # The life cycle of a subscription

How a watcher answers a call is told by the calls before it and what they came to.  This is
shown once for every backend that is lawful in what can be seen of its watchers, and both
backends are, `subscriptions_regular`.  Only polling watchers can be stopped, and what a
watcher is subscribed to has no part in that.
-/
namespace FirmwareTrace.Watch

theorem Target.fileName?_of_ofPath {path : String} {target : Target}
    (h : Target.ofPath path = .ok target) : Path.fileName? path = some target.name := by
  unfold ofPath at h
  split at h
  · cases h
  · rename_i name hname
    rw [hname, ← Except.ok.inj h]

theorem Target.eq_of_ofPath_eq_error {path : String} {fault : WatchFault}
    (h : Target.ofPath path = .error fault) :
    Path.fileName? path = none ∧ .invalidTarget path = fault := by
  unfold ofPath at h
  split at h
  · rename_i hname
    exact ⟨hname, Except.error.inj h⟩
  · cases h

/-- What calls have made of a watcher: the paths that it was subscribed to and not unsubscribed
from since, and whether it was stopped. -/
structure Standing where
  active : List String := []
  stopped : Bool := false

namespace Standing

def note (standing : Standing) (outcome : Outcome) : Command → Standing
  | .subscribe path =>
    if outcome = .done then { standing with active := path :: standing.active } else standing
  | .unsubscribe => { standing with active := [] }
  | .wait others => { standing with stopped := standing.stopped || others.contains .stop }
  | .act action => { standing with stopped := standing.stopped || [action].contains .stop }
  | .remove _ => standing

/-- The standing after a log of commands, each with what it came to. -/
def ofLog (log : List (Command × Outcome)) : Standing :=
  log.foldl (fun standing entry => standing.note entry.2 entry.1) {}

end Standing

/-- What can be seen of the watchers of one kind. -/
structure Aspect (Watcher Subject : Type) where
  /-- What the watcher is subscribed to. -/
  subject? : Watcher → Option Subject
  /-- The subject is that of a subscription to the path. -/
  Of : Subject → String → Prop
  closed : Watcher → Bool
  /-- Whether a watcher that is stopped is closed. -/
  stops : Bool
  /-- What keeps a target from being watched. -/
  hindrance? : Workspace → Target → Option IoFault

def Poll.aspect : Aspect Poll String where
  subject? poll := poll.subscription.map Subscription.path
  Of subject path := subject = path
  closed := Poll.stopped
  stops := true
  hindrance? _ _ := none

def Notify.aspect : Aspect Notify Observation where
  subject? := Notify.current
  Of observation path := Path.fileName? path = some observation.name
  closed _ := false
  stops := false
  hindrance? workspace target :=
    match observable workspace target.directory with
    | .error fault => some fault
    | .ok _ => none

variable {Watcher Subject : Type}

/-- The subscription stays, and the watcher is closed if it was or if this stops it. -/
structure Aspect.Keeps (aspect : Aspect Watcher Subject) (stop : Bool) (watcher next : Watcher) :
    Prop where
  subject?_eq : aspect.subject? next = aspect.subject? watcher
  closed_eq : aspect.closed next = (aspect.closed watcher || (aspect.stops && stop))

/-- What a subscription comes to: whether the watcher is subscribed is asked first, then
whether the path has a name, then whether something is in the way. -/
inductive Aspect.Subscribes (aspect : Aspect Watcher Subject) (workspace : Workspace)
    (path : String) (watcher : Watcher) : Except WatchFault Watcher → Prop
  | active {subject : Subject} (active : aspect.subject? watcher = some subject) :
      Subscribes aspect workspace path watcher (.error (.alreadySubscribed path))
  | nameless (idle : aspect.subject? watcher = none) (nameless : Path.fileName? path = none) :
      Subscribes aspect workspace path watcher (.error (.invalidTarget path))
  | hindered {target : Target} {fault : IoFault} (idle : aspect.subject? watcher = none)
      (named : Target.ofPath path = .ok target)
      (hindered : aspect.hindrance? workspace target = some fault) :
      Subscribes aspect workspace path watcher (.error (.io fault))
  | free {target : Target} {next : Watcher} {subject : Subject}
      (idle : aspect.subject? watcher = none) (named : Target.ofPath path = .ok target)
      (free : aspect.hindrance? workspace target = none)
      (subscribed : aspect.subject? next = some subject) (of : aspect.Of subject path)
      (closed_eq : aspect.closed next = aspect.closed watcher) :
      Subscribes aspect workspace path watcher (.ok next)

namespace Backend

/-- The operations of a backend, by what can be seen of its watchers. -/
structure Lawful (backend : Backend Watcher) (aspect : Aspect Watcher Subject) : Prop where
  subscribe : ∀ workspace path watcher,
    aspect.Subscribes workspace path watcher (backend.subscribe workspace path watcher)
  subject?_unsubscribe : ∀ watcher, aspect.subject? (backend.unsubscribe watcher) = none
  closed_unsubscribe : ∀ watcher,
    aspect.closed (backend.unsubscribe watcher) = aspect.closed watcher
  unsubscribe_unsubscribe : ∀ watcher,
    backend.unsubscribe (backend.unsubscribe watcher) = backend.unsubscribe watcher
  stop : ∀ watcher, aspect.Keeps true watcher (backend.stop watcher)
  observe : ∀ place watcher, aspect.Keeps false watcher (backend.observe place watcher)
  look : ∀ workspace watcher, aspect.Keeps false watcher (backend.look workspace watcher).2
  look_of_closed : ∀ workspace watcher, aspect.closed watcher = true →
    (backend.look workspace watcher).1 = .fault .closed
  look_of_none : ∀ workspace watcher, aspect.closed watcher = false →
    aspect.subject? watcher = none → (backend.look workspace watcher).1 = .fault .notSubscribed
  look_of_some : ∀ workspace watcher subject, aspect.closed watcher = false →
    aspect.subject? watcher = some subject →
      (backend.look workspace watcher).1 = .done ∨ (backend.look workspace watcher).1 = .blocked

/-- A scene comes about, with a log of the commands carried out, while others change the files
as they like between two commands. -/
inductive Reaches (backend : Backend Watcher) (fresh : Watcher) :
    List (Command × Outcome) → Scene Watcher → Prop
  | start (workspace : Workspace) : Reaches backend fresh [] ⟨fresh, workspace⟩
  | call {log : List (Command × Outcome)} {scene : Scene Watcher}
      (before : Reaches backend fresh log scene) (command : Command) :
      Reaches backend fresh (log ++ [(command, (backend.perform scene command).1)])
        (backend.perform scene command).2
  /-- The files become others, and a modification is noted. -/
  | noted {log : List (Command × Outcome)} {scene : Scene Watcher}
      (before : Reaches backend fresh log scene) (place : Place) (workspace : Workspace) :
      Reaches backend fresh log ⟨backend.observe place scene.watcher, workspace⟩
  /-- The files become others, and no watcher takes note. -/
  | unnoted {log : List (Command × Outcome)} {scene : Scene Watcher}
      (before : Reaches backend fresh log scene) (workspace : Workspace) :
      Reaches backend fresh log ⟨scene.watcher, workspace⟩

/-- The commands of a scene are part of such a log. -/
theorem Reaches.performAll {backend : Backend Watcher} {fresh : Watcher}
    {log : List (Command × Outcome)} {scene : Scene Watcher}
    (h : backend.Reaches fresh log scene) (commands : List Command) :
    backend.Reaches fresh (log ++ commands.zip (backend.performAll scene commands).1)
      (backend.performAll scene commands).2 := by
  induction commands generalizing log scene with
  | nil => rwa [List.zip_nil_left, List.append_nil]
  | cons command rest ih =>
    have hrest := ih (h.call command)
    rwa [List.append_assoc] at hrest

/-- How a scene that came about by a log of commands answers the next one. -/
structure Regular (backend : Backend Watcher) (aspect : Aspect Watcher Subject)
    (log : List (Command × Outcome)) (scene : Scene Watcher) : Prop where
  active_le_one : (Standing.ofLog log).active.length ≤ 1
  idle_iff : aspect.subject? scene.watcher = none ↔ (Standing.ofLog log).active = []
  subscribed : ∀ path, path ∈ (Standing.ofLog log).active →
    ∃ subject, aspect.subject? scene.watcher = some subject ∧ aspect.Of subject path
  alreadySubscribed_iff : ∀ path,
    (backend.perform scene (.subscribe path)).1 = .fault (.alreadySubscribed path) ↔
      (Standing.ofLog log).active ≠ []
  invalidTarget_iff : ∀ path,
    (backend.perform scene (.subscribe path)).1 = .fault (.invalidTarget path) ↔
      (Standing.ofLog log).active = [] ∧ Path.fileName? path = none
  hindered_iff : ∀ path fault,
    (backend.perform scene (.subscribe path)).1 = .fault (.io fault) ↔
      (Standing.ofLog log).active = [] ∧ ∃ target, Target.ofPath path = .ok target ∧
        aspect.hindrance? scene.workspace target = some fault
  done_iff : ∀ path, (backend.perform scene (.subscribe path)).1 = .done ↔
    (Standing.ofLog log).active = [] ∧ ∃ target, Target.ofPath path = .ok target ∧
      aspect.hindrance? scene.workspace target = none
  activates : ∀ path, (backend.perform scene (.subscribe path)).1 = .done →
    ∃ subject, aspect.subject? (backend.perform scene (.subscribe path)).2.watcher = some subject ∧
      aspect.Of subject path
  /-- A subscription that fails changes nothing. -/
  unchanged : ∀ path, (backend.perform scene (.subscribe path)).1 ≠ .done →
    (backend.perform scene (.subscribe path)).2 = scene
  unsubscribe : (backend.perform scene .unsubscribe).1 = .done ∧
    aspect.subject? (backend.perform scene .unsubscribe).2.watcher = none
  unsubscribe_again : backend.perform (backend.perform scene .unsubscribe).2 .unsubscribe
    = backend.perform scene .unsubscribe
  notSubscribed_iff : ∀ others,
    (backend.perform scene (.wait others)).1 = .fault .notSubscribed ↔
      (Standing.ofLog log).active = [] ∧
        ¬(aspect.stops = true ∧ (Standing.ofLog log).stopped = true)
  closed : aspect.stops = true → (Standing.ofLog log).stopped = true → ∀ others,
    (backend.perform scene (.wait others)).1 = .fault .closed

end Backend

/-! ## Single commands -/

section

variable {aspect : Aspect Watcher Subject} {backend : Backend Watcher}
  {watcher next last : Watcher} {stop more : Bool}

theorem Aspect.Keeps.refl (aspect : Aspect Watcher Subject) (watcher : Watcher) :
    aspect.Keeps false watcher watcher :=
  ⟨rfl, by rw [Bool.and_false, Bool.or_false]⟩

theorem Aspect.Keeps.trans (h₁ : aspect.Keeps stop watcher next)
    (h₂ : aspect.Keeps more next last) : aspect.Keeps (stop || more) watcher last :=
  ⟨h₂.subject?_eq.trans h₁.subject?_eq,
    by rw [h₂.closed_eq, h₁.closed_eq, Bool.and_or_distrib_left, Bool.or_assoc]⟩

namespace Backend.Lawful

variable (lawful : backend.Lawful aspect) {scene : Scene Watcher}
include lawful

theorem keeps_act (scene : Scene Watcher) (action : Action) :
    aspect.Keeps ([action].contains .stop) scene.watcher (backend.act scene action).watcher := by
  cases action with
  | stop => exact lawful.stop scene.watcher
  | append path =>
    unfold Backend.act
    dsimp only
    split
    · exact .refl aspect scene.watcher
    · exact lawful.observe _ scene.watcher

theorem keeps_foldl_act (scene : Scene Watcher) (actions : List Action) :
    aspect.Keeps (actions.contains .stop) scene.watcher
      (actions.foldl backend.act scene).watcher := by
  induction actions generalizing scene with
  | nil => exact .refl aspect scene.watcher
  | cons action rest ih =>
    have h := (lawful.keeps_act scene action).trans (ih (backend.act scene action))
    rwa [← List.contains_append] at h

theorem keeps_wait (scene : Scene Watcher) (others : List Action) :
    aspect.Keeps (others.contains .stop) scene.watcher
      (backend.wait scene others).2.watcher := by
  have hlook (scene : Scene Watcher) := lawful.look scene.workspace scene.watcher
  induction others generalizing scene with
  | nil => exact hlook scene
  | cons action rest ih =>
    unfold Backend.wait
    dsimp only
    split
    · have hact := lawful.keeps_act
        ⟨(backend.look scene.workspace scene.watcher).2, scene.workspace⟩ action
      have h := ((hlook scene).trans hact).trans (ih _)
      rwa [Bool.false_or, ← List.contains_append] at h
    · have hacts := lawful.keeps_foldl_act
        ⟨(backend.look scene.workspace scene.watcher).2, scene.workspace⟩ (action :: rest)
      have h := (hlook scene).trans hacts
      rwa [Bool.false_or] at h

omit lawful in
/-- A wait ends at once with what its first look finds amiss. -/
theorem wait_of_fault {fault : WatchFault}
    (h : (backend.look scene.workspace scene.watcher).1 = .fault fault) (others : List Action) :
    (backend.wait scene others).1 = .fault fault := by
  cases others with
  | nil => exact h
  | cons action rest => simp only [Backend.wait, h]

theorem wait_of_closed (h : aspect.closed scene.watcher = true) (others : List Action) :
    (backend.wait scene others).1 = .fault .closed :=
  wait_of_fault (lawful.look_of_closed _ _ h) others

/-- While it is subscribed, no look of a watcher is refused for want of a subscription. -/
theorem wait_ne_notSubscribed {subject : Subject}
    (h : aspect.subject? scene.watcher = some subject) (others : List Action) :
    (backend.wait scene others).1 ≠ .fault .notSubscribed := by
  induction others generalizing scene with
  | nil =>
    cases hclosed : aspect.closed scene.watcher with
    | true =>
      rw [lawful.wait_of_closed hclosed]
      exact nofun
    | false =>
      rcases lawful.look_of_some scene.workspace scene.watcher subject hclosed h with hlook | hlook
      · exact hlook.trans_ne nofun
      · exact hlook.trans_ne nofun
  | cons action rest ih =>
    cases hclosed : aspect.closed scene.watcher with
    | true =>
      rw [lawful.wait_of_closed hclosed]
      exact nofun
    | false =>
      rcases lawful.look_of_some scene.workspace scene.watcher subject hclosed h with hlook | hlook
      · simp only [Backend.wait, hlook]
        exact nofun
      · -- the wait goes on after the action, which leaves the subscription as it is
        simp only [Backend.wait, hlook]
        apply ih
        rw [(lawful.keeps_act _ action).subject?_eq]
        exact (lawful.look _ _).subject?_eq.trans h

end Backend.Lawful

end

/-! ## Whole lives -/

/-- A watcher is what its standing says. -/
structure Aspect.Agrees (aspect : Aspect Watcher Subject) (standing : Standing)
    (watcher : Watcher) : Prop where
  closed_eq : aspect.closed watcher = (aspect.stops && standing.stopped)
  idle : aspect.subject? watcher = none → standing.active = []
  subscribed : ∀ subject, aspect.subject? watcher = some subject →
    ∃ path, standing.active = [path] ∧ aspect.Of subject path

section

variable {aspect : Aspect Watcher Subject} {backend : Backend Watcher} {standing : Standing}
  {watcher next : Watcher} {scene : Scene Watcher} {log : List (Command × Outcome)}

theorem Aspect.Agrees.keeps {stop : Bool} (h : aspect.Agrees standing watcher)
    (keeps : aspect.Keeps stop watcher next) :
    aspect.Agrees { standing with stopped := standing.stopped || stop } next where
  closed_eq := by rw [keeps.closed_eq, h.closed_eq, Bool.and_or_distrib_left]
  idle hnone := h.idle (keeps.subject?_eq ▸ hnone)
  subscribed subject hsome := h.subscribed subject (keeps.subject?_eq ▸ hsome)

theorem Aspect.Agrees.of_keeps_false (h : aspect.Agrees standing watcher)
    (keeps : aspect.Keeps false watcher next) : aspect.Agrees standing next := by
  have hnext := h.keeps keeps
  rwa [Bool.or_false] at hnext

namespace Backend.Lawful

variable (lawful : backend.Lawful aspect)
include lawful

theorem agrees_perform (h : aspect.Agrees standing scene.watcher) (command : Command) :
    aspect.Agrees (standing.note (backend.perform scene command).1 command)
      (backend.perform scene command).2.watcher := by
  cases command with
  | subscribe path =>
    have hsubscribe := lawful.subscribe scene.workspace path scene.watcher
    unfold Backend.perform
    dsimp only
    generalize backend.subscribe scene.workspace path scene.watcher = answer at hsubscribe ⊢
    cases hsubscribe with
    | active => exact h
    | nameless => exact h
    | hindered => exact h
    | free idle named free subscribed of closed_eq =>
      refine ⟨closed_eq.trans h.closed_eq, fun hnone => ?_, fun other hother => ?_⟩
      · cases subscribed.symm.trans hnone
      · obtain rfl := Option.some.inj (subscribed.symm.trans hother)
        exact ⟨path, congrArg (path :: ·) (h.idle idle), of⟩
  | unsubscribe =>
    refine ⟨(lawful.closed_unsubscribe _).trans h.closed_eq, fun _ => rfl, fun other hother => ?_⟩
    cases (lawful.subject?_unsubscribe _).symm.trans hother
  | wait others => exact h.keeps (lawful.keeps_wait scene others)
  | act action => exact h.keeps (lawful.keeps_act scene action)
  | remove path =>
    unfold Backend.perform
    dsimp only
    split <;> exact h

theorem agrees_of_reaches {fresh : Watcher}
    (hfresh : aspect.Agrees {} fresh) (h : backend.Reaches fresh log scene) :
    aspect.Agrees (.ofLog log) scene.watcher := by
  induction h with
  | start workspace => exact hfresh
  | call before command ih =>
    rw [Standing.ofLog, List.foldl_append]
    exact lawful.agrees_perform ih command
  | noted before place workspace ih => exact ih.of_keeps_false (lawful.observe place _)
  | unnoted before workspace ih => exact ih

/-- Which of the answers a subscription gets. -/
theorem answers_subscribe (h : aspect.Agrees standing scene.watcher) (path : String) :
    ((backend.perform scene (.subscribe path)).1 = .fault (.alreadySubscribed path) ↔
        standing.active ≠ []) ∧
      ((backend.perform scene (.subscribe path)).1 = .fault (.invalidTarget path) ↔
        standing.active = [] ∧ Path.fileName? path = none) ∧
      (∀ fault, (backend.perform scene (.subscribe path)).1 = .fault (.io fault) ↔
        standing.active = [] ∧ ∃ target, Target.ofPath path = .ok target ∧
          aspect.hindrance? scene.workspace target = some fault) ∧
      ((backend.perform scene (.subscribe path)).1 = .done ↔
        standing.active = [] ∧ ∃ target, Target.ofPath path = .ok target ∧
          aspect.hindrance? scene.workspace target = none) ∧
      ((backend.perform scene (.subscribe path)).1 = .done → ∃ subject,
        aspect.subject? (backend.perform scene (.subscribe path)).2.watcher = some subject ∧
          aspect.Of subject path) ∧
      ((backend.perform scene (.subscribe path)).1 ≠ .done →
        (backend.perform scene (.subscribe path)).2 = scene) := by
  have hsubscribe := lawful.subscribe scene.workspace path scene.watcher
  unfold Backend.perform
  dsimp only
  generalize backend.subscribe scene.workspace path scene.watcher = answer at hsubscribe ⊢
  cases hsubscribe with
  | active active =>
    obtain ⟨other, hactive, -⟩ := h.subscribed _ active
    simp [hactive]
  | nameless idle nameless =>
    simp [h.idle idle, nameless, Target.ofPath]
  | hindered idle named hindered =>
    simp [h.idle idle, named, hindered, Target.fileName?_of_ofPath named, eq_comm]
  | free idle named free subscribed of closed_eq =>
    simp [h.idle idle, named, free, Target.fileName?_of_ofPath named, subscribed, of]

theorem regular (h : aspect.Agrees (.ofLog log) scene.watcher) :
    backend.Regular aspect log scene where
  active_le_one := by
    cases hsubject : aspect.subject? scene.watcher with
    | none => simp [h.idle hsubject]
    | some subject =>
      obtain ⟨path, hactive, -⟩ := h.subscribed subject hsubject
      simp [hactive]
  idle_iff := by
    refine ⟨h.idle, fun hactive => Option.eq_none_iff_forall_ne_some.2 fun subject hsubject => ?_⟩
    obtain ⟨path, hpath, -⟩ := h.subscribed subject hsubject
    cases hactive.symm.trans hpath
  subscribed path hmem := by
    cases hsubject : aspect.subject? scene.watcher with
    | none =>
      rw [h.idle hsubject] at hmem
      cases hmem
    | some subject =>
      obtain ⟨other, hactive, hof⟩ := h.subscribed subject hsubject
      rw [hactive] at hmem
      obtain rfl := List.mem_singleton.1 hmem
      exact ⟨subject, rfl, hof⟩
  alreadySubscribed_iff path := (lawful.answers_subscribe h path).1
  invalidTarget_iff path := (lawful.answers_subscribe h path).2.1
  hindered_iff path := (lawful.answers_subscribe h path).2.2.1
  done_iff path := (lawful.answers_subscribe h path).2.2.2.1
  activates path := (lawful.answers_subscribe h path).2.2.2.2.1
  unchanged path := (lawful.answers_subscribe h path).2.2.2.2.2
  unsubscribe := ⟨rfl, lawful.subject?_unsubscribe scene.watcher⟩
  unsubscribe_again := by
    simp only [Backend.perform, lawful.unsubscribe_unsubscribe]
  notSubscribed_iff others := by
    have hclosed := h.closed_eq
    constructor
    · intro hwait
      refine ⟨?_, fun hstopped => ?_⟩
      · cases hsubject : aspect.subject? scene.watcher with
        | none => exact h.idle hsubject
        | some subject => exact absurd hwait (lawful.wait_ne_notSubscribed hsubject others)
      · rw [hstopped.1, hstopped.2] at hclosed
        cases hwait.symm.trans (lawful.wait_of_closed hclosed others)
    · rintro ⟨hactive, hstopped⟩
      have hopen : aspect.closed scene.watcher = false := by
        rw [hclosed, ← Bool.not_eq_true, Bool.and_eq_true]
        exact hstopped
      cases hsubject : aspect.subject? scene.watcher with
      | none => exact wait_of_fault (lawful.look_of_none _ _ hopen hsubject) others
      | some subject =>
        obtain ⟨path, hpath, -⟩ := h.subscribed subject hsubject
        cases hactive.symm.trans hpath
  closed hstops hstopped others := by
    apply lawful.wait_of_closed
    rw [h.closed_eq, hstops, hstopped, Bool.and_true]

end Backend.Lawful

end

/-! ## The two backends -/

theorem Poll.lawful : Poll.backend.Lawful Poll.aspect where
  subscribe workspace path poll := by
    obtain ⟨stopped, subscription⟩ := poll
    cases subscription with
    | some subscription => exact .active rfl
    | none =>
      change aspect.Subscribes workspace path ⟨stopped, none⟩
        (Poll.subscribe ⟨stopped, none⟩ path (workspace.stamp? path))
      unfold Poll.subscribe
      cases htarget : Target.ofPath path with
      | error fault =>
        obtain ⟨hname, rfl⟩ := Target.eq_of_ofPath_eq_error htarget
        exact .nameless rfl hname
      | ok target => exact .free rfl htarget rfl rfl rfl rfl
  subject?_unsubscribe _ := rfl
  closed_unsubscribe _ := rfl
  unsubscribe_unsubscribe _ := rfl
  stop _ := ⟨rfl, (Bool.or_true _).symm⟩
  observe _ poll := .refl aspect poll
  look workspace poll := by
    obtain ⟨stopped, subscription⟩ := poll
    change aspect.Keeps false _ (Poll.look ⟨stopped, subscription⟩ workspace.stamp?).2
    cases stopped with
    | true => exact .refl aspect _
    | false =>
      rcases subscription with _ | ⟨path, last⟩
      · exact .refl aspect _
      · rw [Poll.look_eq]
        split
        · exact .refl aspect _
        · exact ⟨rfl, rfl⟩
  look_of_closed workspace poll hclosed := by
    change (Poll.look poll workspace.stamp?).1 = _
    rw [Poll.look, if_pos (show poll.stopped = true from hclosed)]
  look_of_none workspace poll hopen hnone := by
    obtain ⟨stopped, subscription⟩ := poll
    obtain rfl : stopped = false := hopen
    obtain rfl : subscription = none := Option.map_eq_none_iff.1 hnone
    rfl
  look_of_some workspace poll subject hopen hsome := by
    obtain ⟨stopped, subscription⟩ := poll
    obtain rfl : stopped = false := hopen
    obtain ⟨⟨path, last⟩, rfl, -⟩ := Option.map_eq_some_iff.1 hsome
    change (Poll.look _ workspace.stamp?).1 = _ ∨ (Poll.look _ workspace.stamp?).1 = _
    rw [Poll.look_eq]
    split
    · exact .inr rfl
    · exact .inl rfl

theorem Notify.unsubscribe_of_none {notify : Notify} (h : notify.current = none) :
    notify.unsubscribe = notify := by
  rw [unsubscribe, h]

theorem Notify.lawful : Notify.backend.Lawful Notify.aspect where
  subscribe workspace path notify := by
    change aspect.Subscribes workspace path notify (notify.subscribe path (observable workspace))
    unfold Notify.subscribe
    cases hcurrent : notify.current with
    | some observation => exact .active hcurrent
    | none =>
      cases htarget : Target.ofPath path with
      | error fault =>
        obtain ⟨hname, rfl⟩ := Target.eq_of_ofPath_eq_error htarget
        exact .nameless hcurrent hname
      | ok target =>
        dsimp only
        cases hplace : observable workspace target.directory with
        | error fault => exact .hindered hcurrent htarget (by simp only [aspect, hplace])
        | ok place =>
          exact .free hcurrent htarget (by simp only [aspect, hplace]) rfl
            (Target.fileName?_of_ofPath htarget) rfl
  subject?_unsubscribe := current_unsubscribe
  closed_unsubscribe _ := rfl
  unsubscribe_unsubscribe notify := unsubscribe_of_none (current_unsubscribe notify)
  stop notify := ⟨rfl, rfl⟩
  observe place notify := ⟨(notes_observe notify place).current_eq, rfl⟩
  look _ notify := by
    refine ⟨?_, rfl⟩
    change (notify.lookBy _).2.current = notify.current
    unfold lookBy
    split <;> rfl
  look_of_closed _ _ hclosed := nomatch hclosed
  look_of_none _ notify _ hnone := by
    change (notify.lookBy _).1 = _
    rw [lookBy, show notify.current = none from hnone]
  look_of_some _ notify observation _ hsome := by
    change (notify.lookBy _).1 = _ ∨ (notify.lookBy _).1 = _
    rw [fst_lookBy _ hsome]
    split
    · exact .inl rfl
    · exact .inr rfl

theorem Aspect.agrees_fresh {fresh : Watcher} {aspect : Aspect Watcher Subject}
    (hopen : aspect.closed fresh = false) (hidle : aspect.subject? fresh = none) :
    aspect.Agrees {} fresh where
  closed_eq := by rw [hopen, Bool.and_false]
  idle _ := rfl
  subscribed subject hsome := nomatch hidle.symm.trans hsome

/-- Each call of a watcher is answered as the calls before it and their outcomes tell: at most
one subscription is active, one more is refused before its path is looked at, and one that fails
changes nothing.  A wait without one is refused, save that of a polling watcher that was stopped,
which stays closed whatever it is subscribed to. -/
theorem subscriptions_regular :
    (∀ log scene, Poll.backend.Reaches {} log scene →
      Poll.backend.Regular Poll.aspect log scene) ∧
    ∀ log scene, Notify.backend.Reaches {} log scene →
      Notify.backend.Regular Notify.aspect log scene := by
  refine ⟨fun log scene h => ?_, fun log scene h => ?_⟩
  · exact Poll.lawful.regular (Poll.lawful.agrees_of_reaches (Aspect.agrees_fresh rfl rfl) h)
  · exact Notify.lawful.regular (Notify.lawful.agrees_of_reaches (Aspect.agrees_fresh rfl rfl) h)

/-- A polling watcher that was stopped is closed and subscribed; a notified one that gave up its
subscription is neither. -/
theorem subscriptions_regular_stopped :
    let commands : List Command := [.subscribe "a.bin", .wait [.stop]]
    let polled := Poll.backend.performAll ⟨{}, {}⟩ commands
    let notified := Notify.backend.performAll ⟨{}, {}⟩ [.subscribe "a.bin", .unsubscribe]
    (Poll.backend.Reaches {} (commands.zip polled.1) polled.2 ∧
        (Poll.backend.perform polled.2 (.wait [.append "a.bin"])).1 = .fault .closed ∧
        (Poll.backend.perform polled.2 (.subscribe "/")).1 = .fault (.alreadySubscribed "/")) ∧
      Notify.backend.Reaches {}
        ([.subscribe "a.bin", .unsubscribe].zip notified.1) notified.2 ∧
      (Notify.backend.perform notified.2 (.wait [])).1 = .fault .notSubscribed ∧
      (Notify.backend.perform notified.2 (.subscribe "/")).1 = .fault (.invalidTarget "/") := by
  intro commands polled notified
  have hpolled : Poll.backend.Reaches {} (commands.zip polled.1) polled.2 :=
    (Backend.Reaches.start {}).performAll commands
  have hnotified : Notify.backend.Reaches {} _ notified.2 :=
    (Backend.Reaches.start {}).performAll [.subscribe "a.bin", .unsubscribe]
  have hpoll := subscriptions_regular.1 _ polled.2 hpolled
  have hnotify := subscriptions_regular.2 _ notified.2 hnotified
  refine ⟨⟨hpolled, hpoll.closed rfl (by decide) _, ?_⟩, hnotified, ?_, ?_⟩
  · exact (hpoll.alreadySubscribed_iff "/").2 (by decide)
  · exact (hnotify.notSubscribed_iff []).2 ⟨by decide, by decide⟩
  · exact (hnotify.invalidTarget_iff "/").2 ⟨by decide, by decide⟩

end FirmwareTrace.Watch
