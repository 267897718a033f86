import FirmwareTrace.Proofs.Decode.Vigil
import FirmwareTrace.Watch.Poll

/-! # Following by polling

Others only append to the file, at any time: between the stamp of the subscription and the
first pass, between two reads of a pass, and before any look of a wait.  The stamp that a wait
compares with was taken before the last pass began, and that pass read up to the end of the
data, as a read that is not cut to nothing comes back empty only there.  So a look that finds
the stamp unchanged finds a file that was read in full, `polling_misses_nothing`.
-/
namespace FirmwareTrace
open Channel Decode Watch

/-- The pass that a wait comes after.  It drained its input up to the end that it saw, found what
a scan of what it read finds, and went back to where the scan stopped.  There the input is now,
with the octets that were read, and others perhaps behind them. -/
structure Decoder.LastPass {Header Literal : Type} (decoder : Decoder Header Literal)
    (before : Input) (sink : Sink) (part : List UInt8) (last : Input) (visit : Visit)
    (offset : Nat) (now : Input) : Prop where
  completed : (decoder.pass before sink).ending = .ok offset
  visited : (decoder.pass before sink).visit sink = visit
  drains : Drains before part none last
  seen : last.position = visit.seen
  scan : decoder.scan before.position part = ⟨visit.items, offset⟩
  resumed : now = (last.rewind offset).mapData fun _ => now.stream.data
  kept : part <+: now.octets.drop before.position

namespace Watch

/-- Others append octets to the file at a path.  A look takes the file's stamp; the time in it
may be any. -/
def polling (path : String) : Guard Poll ByteArray where
  deed octets site next := next = (site.1, site.2 ++ octets)
  look data poll woke next := ∃ stampOf tick, stampOf path = some (data.size, tick) ∧
    poll.look stampOf = (if woke then .done else .blocked, next)

/-- How much of the file the stamp can be of at most: what is there before a pass, and what the
last pass has read. -/
def horizon {Watcher : Type} (vigil : Vigil Watcher) : Nat :=
  match vigil.stage with
  | .reading => vigil.input.stream.data.size
  | .waiting visit _ => visit.seen

/-- The watcher is not stopped, and its stamp is not ahead of what was read. -/
structure Trails (path : String) (vigil : Vigil Poll) : Prop where
  stamp : ∃ size tick, vigil.watcher = ⟨false, some ⟨path, some (size, tick)⟩⟩ ∧
    size ≤ horizon vigil
  coherent : vigil.input.Coherent
  uncut : .upTo 0 ∉ vigil.input.script

theorem Poll.look_eq {path : String} {last : Stamp} {stampOf : String → Stamp} :
    Poll.look ⟨false, some ⟨path, last⟩⟩ stampOf =
      if stampOf path = last then (.blocked, ⟨false, some ⟨path, last⟩⟩)
      else (.done, ⟨false, some ⟨path, stampOf path⟩⟩) :=
  rfl

theorem size_le_of_deeds {path : String} {deeds : List ByteArray}
    {site last : Poll × ByteArray} (h : (polling path).Deeds deeds site last) :
    last.1 = site.1 ∧ site.2.size ≤ last.2.size := by
  induction h with
  | nil => exact ⟨rfl, Nat.le_refl _⟩
  | @cons octets _ site _ last first rest ih =>
    obtain rfl := first
    refine ⟨ih.1, Nat.le_trans ?_ ih.2⟩
    rw [ByteArray.size_append]
    exact Nat.le_add_right _ _

section

variable {Header Literal : Type} {decoder : Decoder Header Literal} {path : String}
  {vigil next : Vigil Poll} {moment : Moment ByteArray}

/-- A pass that completed has read all the data that are there at its end. -/
theorem size_le_seen {input : Input} {sink : Sink} {offset : Nat} (hinput : input.Coherent)
    (huncut : .upTo 0 ∉ input.script)
    (completed : (decoder.pass input sink).ending = .ok offset) :
    (decoder.pass input sink).input.stream.data.size ≤ (decoder.pass input sink).seen := by
  obtain ⟨part, last, drains, hback, hseen, -⟩ :=
    decoder.exists_drains_of_completed hinput completed
  rw [hback, hseen, Input.data_rewind]
  exact drains.length_le hinput huncut

theorem Trails.step (h : Trails path vigil) (step : decoder.Step (polling path) vigil moment next) :
    Trails path next := by
  obtain ⟨⟨size, tick, hwatcher, hsize⟩, hcoherent, huncut⟩ := h
  cases step with
  | @others octets watcher _ _ input sink stage done =>
    obtain ⟨rfl, rfl⟩ := Prod.mk.inj done
    refine ⟨⟨size, tick, hwatcher, ?_⟩, hcoherent.append octets, ?_⟩
    · cases stage with
      | reading =>
        have hle : size ≤ input.stream.data.size := hsize
        simp only [horizon, Input.data_mapData, ByteArray.size_append]
        omega
      | waiting visit offset => exact hsize
    · rwa [Input.script_mapData]
  | @pass deeds watcher watcher' input sink offset completed done =>
    -- the data only grew since the stamp, and the pass read all that were there at its end
    obtain ⟨part, last, drains, hback, -⟩ :=
      decoder.exists_drains_of_completed hcoherent completed
    have hmoved := drains.moved hcoherent
    obtain ⟨hsame, hgrown⟩ := size_le_of_deeds done
    refine ⟨⟨size, tick, hsame.trans hwatcher, ?_⟩, ?_, ?_⟩
    · have hle : size ≤ input.stream.data.size := hsize
      exact (hle.trans hgrown).trans (size_le_seen hcoherent huncut completed)
    · dsimp only
      rw [hback]
      exact hmoved.coherent.rewind offset
    · dsimp only
      rw [hback, Input.script_rewind]
      exact fun hmem => huncut (hmoved.script.subset hmem)
  | sleep looked =>
    obtain ⟨stampOf, now, -, hlook⟩ := looked
    dsimp only at hwatcher
    rw [hwatcher, Poll.look_eq] at hlook
    split at hlook
    · exact ⟨⟨size, tick, (Prod.mk.inj hlook).2.symm, hsize⟩, hcoherent, huncut⟩
    · cases (Prod.mk.inj hlook).1
  | @wake _ _ input sink visit offset looked =>
    obtain ⟨stampOf, now, hstamp, hlook⟩ := looked
    dsimp only at hwatcher
    rw [hwatcher, Poll.look_eq] at hlook
    split at hlook
    · cases (Prod.mk.inj hlook).1
    · -- the new stamp is of the data now, which the next pass begins with
      rw [hstamp] at hlook
      refine ⟨⟨_, now, (Prod.mk.inj hlook).2.symm, ?_⟩, Input.coherent_seek offset input, ?_⟩
      · simp only [horizon, Input.data_seek, Nat.le_refl]
      · rwa [Input.script_seek]

theorem Trails.walk {start : Vigil Poll} {moments : List (Moment ByteArray)}
    (h : Trails path start) (walk : decoder.Walk (polling path) start moments vigil) :
    Trails path vigil := by
  induction walk with
  | refl => exact h
  | snoc _ step ih => exact ih.step step

theorem Poll.subscribe_eq_ok {poll watcher : Poll} {stamp : Stamp}
    (h : poll.subscribe path stamp = .ok watcher) :
    watcher = { poll with subscription := some ⟨path, stamp⟩ } := by
  unfold subscribe at h
  split at h
  · cases h
  · split at h
    · cases h
    · exact (Except.ok.inj h).symm

/-- A vigil that waits has a pass behind it. -/
def Behind (decoder : Decoder Header Literal) (vigil : Vigil Poll) : Prop :=
  match vigil.stage with
  | .reading => True
  | .waiting visit offset => ∃ before sink part last,
      decoder.LastPass before sink part last visit offset vigil.input

theorem behind_pass {input : Input} {sink : Sink} {offset : Nat} {watcher : Poll}
    (hinput : input.Coherent) (completed : (decoder.pass input sink).ending = .ok offset) :
    Behind decoder ⟨watcher, (decoder.pass input sink).input, (decoder.pass input sink).sink.flush,
      .waiting ((decoder.pass input sink).visit sink) offset⟩ := by
  obtain ⟨part, last, drains, hback, hseen, hscan⟩ :=
    decoder.exists_drains_of_completed hinput completed
  refine ⟨input, sink, part, last, completed, rfl, drains, hseen.symm, hscan, ?_, ?_⟩
  · dsimp only
    rw [hback, Input.mapData_self]
  · have hpart := (drains.moved hinput).part
    have hsame : (last.rewind offset).octets = last.octets :=
      congrArg Bytes.octets (Input.data_rewind offset last)
    dsimp only
    rwa [hback, hsame]

theorem Behind.step (h : Behind decoder vigil) (trails : Trails path vigil)
    (step : decoder.Step (polling path) vigil moment next) : Behind decoder next := by
  cases step with
  | @others octets watcher _ _ input sink stage done =>
    obtain ⟨rfl, rfl⟩ := Prod.mk.inj done
    cases stage with
    | reading => trivial
    | waiting visit offset =>
      obtain ⟨before, sink, part, last, hlast⟩ := h
      have hgrown := input.octets_append octets
      refine ⟨before, sink, part, last,
        { hlast with resumed := ?_, kept := hlast.kept.trans (hgrown.drop _) }⟩
      have hresumed := congrArg (Input.mapData fun _ => input.stream.data ++ octets) hlast.resumed
      rw [Input.mapData_mapData] at hresumed
      rwa [Input.data_mapData]
  | pass completed done => exact behind_pass trails.coherent completed
  | sleep looked => exact h
  | wake looked => trivial

theorem behind_of_walk {start : Vigil Poll} {moments : List (Moment ByteArray)}
    (trails : Trails path start) (hstart : start.stage = .reading)
    (walk : decoder.Walk (polling path) start moments vigil) : Behind decoder vigil := by
  induction walk with
  | refl =>
    rw [Behind, hstart]
    trivial
  | snoc before step ih => exact ih.step (trails.walk before) step

/-- A look that leaves the wait going finds a file that the last pass has read in full; if there
are octets that it has not read then the look ends the wait. -/
theorem polling_misses_nothing {poll watcher later : Poll} {input now : Input}
    {start sink : Sink} {tick offset : Nat} {visit : Visit} {moments : List (Moment ByteArray)}
    (running : poll.stopped = false)
    (subscribed : poll.subscribe path (some (input.stream.data.size, tick)) = .ok watcher)
    (coherent : input.Coherent) (uncut : .upTo 0 ∉ input.script)
    (walk : decoder.Walk (polling path) ⟨watcher, input, start, .reading⟩ moments
      ⟨later, now, sink, .waiting visit offset⟩) :
    decoder.WaitsAfter input start visit offset (wakes moments) ∧
      (∃ before sink part last, decoder.LastPass before sink part last visit offset now) ∧
      ∀ stampOf tick, stampOf path = some (now.stream.data.size, tick) →
        ((later.look stampOf).1 = .blocked ∨ (later.look stampOf).1 = .done) ∧
        ((later.look stampOf).1 = .blocked → now.stream.data.size ≤ visit.seen) ∧
        (visit.seen < now.stream.data.size → (later.look stampOf).1 = .done) := by
  have hstart : Trails path ⟨watcher, input, start, .reading⟩ := by
    refine ⟨⟨input.stream.data.size, tick, ?_, Nat.le_refl _⟩, coherent, uncut⟩
    rw [Poll.subscribe_eq_ok subscribed, running]
  have htrails : Trails path ⟨later, now, sink, .waiting visit offset⟩ := hstart.walk walk
  obtain ⟨size, before, hlater, hsize⟩ := htrails.stamp
  refine ⟨walk.follows, behind_of_walk hstart rfl walk, fun stampOf tick hstamp => ?_⟩
  dsimp only at hlater hsize
  rw [hlater, Poll.look_eq, hstamp]
  split
  · rename_i hsame
    obtain ⟨rfl, -⟩ := Prod.mk.inj (Option.some.inj hsame)
    exact ⟨.inl rfl, fun _ => hsize, fun hmore => absurd hsize (Nat.not_le.2 hmore)⟩
  · exact ⟨.inr rfl, fun hblocked => (nomatch hblocked), fun _ => rfl⟩

/-- The stamp changes in the middle of the first pass, which wakes the wait after it; the second
pass has read everything. -/
theorem polling_misses_nothing_growth :
    let poll : Poll := ⟨false, some ⟨"trace", some (3, 1)⟩⟩
    Poll.subscribe {} "trace" (some (Decoder.cutInput.stream.data.size, 0))
        = .ok ⟨false, some ⟨"trace", some (2, 0)⟩⟩ ∧
      Decoder.cutInput.Coherent ∧ .upTo 0 ∉ Decoder.cutInput.script ∧
      Decoder.gainDecoder.Walk (polling "trace")
        ⟨⟨false, some ⟨"trace", some (2, 0)⟩⟩, Decoder.cutInput, {}, .reading⟩
        [.pass [⟨#[0]⟩], .look true, .pass []]
        ⟨poll, Decoder.grownInput, ⟨.empty, none, 2⟩, .waiting ⟨[], .empty, 3⟩ 0⟩ ∧
      Decoder.gainDecoder.WaitsAfter Decoder.cutInput {} ⟨[], .empty, 3⟩ 0 1 ∧
      (∃ before sink part last, Decoder.gainDecoder.LastPass before sink part last
        ⟨[], .empty, 3⟩ 0 Decoder.grownInput) ∧
      (poll.look fun _ => some (3, 1)).1 = .blocked ∧ Decoder.grownInput.stream.data.size ≤ 3 := by
  intro poll
  have subscribed : Poll.subscribe {} "trace" (some (Decoder.cutInput.stream.data.size, 0))
      = .ok ⟨false, some ⟨"trace", some (2, 0)⟩⟩ := rfl
  have coherent : Decoder.cutInput.Coherent := Input.coherent_direct _
  have uncut : .upTo 0 ∉ Decoder.cutInput.script := by
    simp [Decoder.cutInput, Input.script, Input.stream]
  have walk : Decoder.gainDecoder.Walk (polling "trace")
      ⟨⟨false, some ⟨"trace", some (2, 0)⟩⟩, Decoder.cutInput, {}, .reading⟩
      [.pass [⟨#[0]⟩], .look true, .pass []]
      ⟨poll, Decoder.grownInput, ⟨.empty, none, 2⟩, .waiting ⟨[], .empty, 3⟩ 0⟩ :=
    Decoder.walk_cutInput (.cons rfl (.nil _)) ⟨fun _ => some (3, 1), 1, rfl, rfl⟩
  obtain ⟨follows, last, hlook⟩ := polling_misses_nothing rfl subscribed coherent uncut walk
  have hblocked : (poll.look fun _ => some (3, 1)).1 = .blocked := rfl
  exact ⟨subscribed, coherent, uncut, walk, follows, last, hblocked, (hlook _ 1 rfl).2.1 hblocked⟩

end

end Watch
end FirmwareTrace
