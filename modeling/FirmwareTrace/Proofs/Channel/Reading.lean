import FirmwareTrace.Channel.Input
import Mathlib.Data.List.Infix

/-! # Reads of a coherent input

A read moves the position over the octets it delivers, and these are the octets
of the data there, whether a buffer stands in between or not.  A read that is
never cut to nothing comes back empty at the end of the data only.
-/
namespace FirmwareTrace.Channel

/-- The octets a read delivered. -/
def ReadResult.part : ReadResult → List UInt8
  | .octets part => part
  | .interrupted | .failure _ => []

/-- Cuts a read short or interrupts it, and leaves the data alone. -/
def ReadStep.Harmless : ReadStep → Prop
  | .upTo _ | .interrupted => True
  | .failure _ | .growth _ => False

/-- Cuts no read to nothing. -/
def ReadStep.Productive : ReadStep → Prop
  | .upTo limit => 0 < limit
  | .interrupted => True
  | .failure _ | .growth _ => False

theorem ReadStep.Productive.harmless {step : ReadStep} (h : step.Productive) : step.Harmless := by
  cases step with
  | upTo => trivial
  | interrupted => trivial
  | failure => exact h
  | growth => exact h

namespace Input

def octets (input : Input) : List UInt8 := Bytes.octets input.stream.data

def script (input : Input) : List ReadStep := input.stream.script

/-- A buffer holds the octets that stand just before the position of its stream. -/
def Coherent (input : Input) : Prop :=
  input.ahead.length ≤ input.stream.position ∧ input.ahead <+: input.octets.drop input.position

/-- The shapes of an input that its reads tell apart. -/
theorem shapes {motive : Input → Prop} (direct : ∀ stream, motive (.direct stream))
    (ahead : ∀ stream octet more, motive (.buffered stream (octet :: more)))
    (empty : ∀ stream, motive (.buffered stream [])) (input : Input) : motive input := by
  cases input with
  | direct stream => exact direct stream
  | buffered stream octets =>
    cases octets with
    | nil => exact empty stream
    | cons octet more => exact ahead stream octet more

theorem coherent_direct (stream : Stream) : (direct stream).Coherent :=
  ⟨Nat.zero_le _, List.nil_prefix⟩

theorem coherent_buffered (stream : Stream) : (buffered stream []).Coherent :=
  ⟨Nat.zero_le _, List.nil_prefix⟩

@[simp] theorem ahead_seek (position : Nat) (input : Input) : (input.seek position).ahead = [] := by
  cases input <;> rfl

@[simp] theorem position_seek (position : Nat) (input : Input) :
    (input.seek position).position = position := by
  cases input <;> rfl

@[simp] theorem script_seek (position : Nat) (input : Input) :
    (input.seek position).script = input.script := by
  cases input <;> rfl

@[simp] theorem data_seek (position : Nat) (input : Input) :
    (input.seek position).stream.data = input.stream.data := by
  cases input <;> rfl

theorem coherent_seek (position : Nat) (input : Input) : (input.seek position).Coherent := by
  rw [Coherent, ahead_seek]
  exact ⟨Nat.zero_le _, List.nil_prefix⟩

/-- Moves to an offset unless the position is there already. -/
def rewind (offset : Nat) (input : Input) : Input :=
  if input.position = offset then input else input.seek offset

theorem rewind_cases (offset : Nat) (input : Input) :
    (input.rewind offset = input ∧ input.position = offset) ∨
      input.rewind offset = input.seek offset := by
  unfold rewind
  split
  · exact .inl ⟨rfl, ‹_›⟩
  · exact .inr rfl

@[simp] theorem position_rewind (offset : Nat) (input : Input) :
    (input.rewind offset).position = offset := by
  rcases input.rewind_cases offset with ⟨h, hposition⟩ | h
  · rw [h, hposition]
  · rw [h, position_seek]

@[simp] theorem script_rewind (offset : Nat) (input : Input) :
    (input.rewind offset).script = input.script := by
  rcases input.rewind_cases offset with ⟨h, -⟩ | h
  · rw [h]
  · rw [h, script_seek]

@[simp] theorem data_rewind (offset : Nat) (input : Input) :
    (input.rewind offset).stream.data = input.stream.data := by
  rcases input.rewind_cases offset with ⟨h, -⟩ | h
  · rw [h]
  · rw [h, data_seek]

theorem Coherent.rewind {input : Input} (hinput : input.Coherent) (offset : Nat) :
    (input.rewind offset).Coherent := by
  rcases input.rewind_cases offset with ⟨h, -⟩ | h
  · rwa [h]
  · rw [h]
    exact coherent_seek offset input

theorem mapData_self (input : Input) : (input.mapData fun _ => input.stream.data) = input := by
  cases input <;> rfl

theorem mapData_mapData (f g : ByteArray → ByteArray) (input : Input) :
    (input.mapData f).mapData g = input.mapData (g ∘ f) := by
  cases input <;> rfl

theorem mapData_seek (f : ByteArray → ByteArray) (position : Nat) (input : Input) :
    (input.seek position).mapData f = (input.mapData f).seek position := by
  cases input <;> rfl

@[simp] theorem script_mapData (f : ByteArray → ByteArray) (input : Input) :
    (input.mapData f).script = input.script := by
  cases input <;> rfl

@[simp] theorem data_mapData (f : ByteArray → ByteArray) (input : Input) :
    (input.mapData f).stream.data = f input.stream.data := by
  cases input <;> rfl

theorem octets_append (input : Input) (octets : ByteArray) :
    input.octets <+: (input.mapData fun _ => input.stream.data ++ octets).octets := by
  simp [Input.octets]

/-- A buffer stays coherent when octets are added to the data. -/
theorem Coherent.append {input : Input} (h : input.Coherent) (octets : ByteArray) :
    (input.mapData fun _ => input.stream.data ++ octets).Coherent := by
  have hgrown := input.octets_append octets
  obtain ⟨hle, hahead⟩ := h
  cases input with
  | direct stream => exact coherent_direct _
  | buffered stream ahead => exact ⟨hle, hahead.trans (hgrown.drop _)⟩

/-- The input read `part`, perhaps in several reads: the position moved over it, in
data that can only have grown, and the script was used up from the front. -/
structure Moved (input : Input) (part : List UInt8) (input' : Input) : Prop where
  coherent : input'.Coherent
  octets : input.octets <+: input'.octets
  position : input'.position = input.position + part.length
  part : part <+: input'.octets.drop input.position
  script : input'.script <:+ input.script

theorem Moved.refl {input : Input} (h : input.Coherent) : input.Moved [] input :=
  ⟨h, List.prefix_rfl, rfl, List.nil_prefix, List.suffix_rfl⟩

theorem Moved.trans {a b c : Input} {front back : List UInt8} (h₁ : a.Moved front b)
    (h₂ : b.Moved back c) : a.Moved (front ++ back) c where
  coherent := h₂.coherent
  octets := h₁.octets.trans h₂.octets
  position := by
    rw [h₂.position, h₁.position, List.length_append, Nat.add_assoc]
  part := by
    obtain ⟨rest, hrest⟩ := h₁.part.trans (h₂.octets.drop a.position)
    have hback := h₂.part
    rw [h₁.position, ← List.drop_drop, ← hrest, List.drop_left] at hback
    rw [← hrest]
    exact (List.prefix_append_right_inj front).2 hback
  script := h₂.script.trans h₁.script

end Input

namespace Stream

theorem moved_deliver (stream : Stream) (count : Nat) :
    (Input.direct stream).Moved (stream.deliver count).1.part
      (.direct (stream.deliver count).2) := by
  rw [deliver_eq]
  exact ⟨Input.coherent_direct _, List.prefix_rfl, rfl, List.take_prefix _ _, List.suffix_rfl⟩

theorem Moved.of_script (stream : Stream) {step : ReadStep} {script : List ReadStep}
    {part : List UInt8} {input' : Input}
    (h : (Input.direct { stream with script }).Moved part input') :
    (Input.direct { stream with script := step :: script }).Moved part input' :=
  ⟨h.coherent, h.octets, h.position, h.part, h.script.trans (List.suffix_cons step script)⟩

theorem moved_readBy (stream : Stream) (count : Nat) (script : List ReadStep) :
    (Input.direct { stream with script }).Moved (stream.readBy count script).1.part
      (.direct (stream.readBy count script).2) := by
  induction script generalizing stream with
  | nil => exact moved_deliver { stream with script := [] } count
  | cons step script ih =>
    apply Moved.of_script
    cases step with
    | upTo limit => exact moved_deliver { stream with script } (min count limit)
    | interrupted => exact .refl (Input.coherent_direct _)
    | failure fault => exact .refl (Input.coherent_direct _)
    | growth octets =>
      have hgrown := ih { stream with data := stream.data ++ octets }
      refine ⟨hgrown.coherent, List.IsPrefix.trans ?_ hgrown.octets, hgrown.position,
        hgrown.part, hgrown.script⟩
      simp [Input.octets, Input.stream]

theorem moved_read (stream : Stream) (count : Nat) :
    (Input.direct stream).Moved (stream.read count).1.part (.direct (stream.read count).2) :=
  stream.moved_readBy count stream.script

theorem read_of_harmless (stream : Stream) (h : ∀ step ∈ stream.script, step.Harmless)
    (count : Nat) :
    (stream.read count).2.data = stream.data ∧
      ∀ fault, (stream.read count).1 ≠ .failure fault := by
  unfold read
  cases hscript : stream.script with
  | nil => simp [readBy, deliver_eq]
  | cons step script =>
    have hstep := h step (by simp [hscript])
    cases step with
    | upTo limit => simp [readBy, deliver_eq]
    | interrupted => simp [readBy]
    | failure fault => exact hstep.elim
    | growth octets => exact hstep.elim

theorem size_le_of_deliver_nil {stream stream' : Stream} {count : Nat} (hcount : 0 < count)
    (hread : stream.deliver count = (.octets [], stream')) :
    stream'.data.size ≤ stream'.position := by
  rw [deliver_eq] at hread
  obtain ⟨hpart, rfl⟩ := Prod.mk.inj hread
  have hlength := congrArg List.length (ReadResult.octets.inj hpart)
  rw [List.length_take, length_rest, List.length_nil] at hlength
  dsimp only
  omega

/-- A read that is not cut to nothing comes back empty at the end of the data only, even if
the data grew before it. -/
theorem size_le_of_readBy_nil {stream stream' : Stream} {count : Nat} {script : List ReadStep}
    (hscript : .upTo 0 ∉ script) (hcount : 0 < count)
    (hread : stream.readBy count script = (.octets [], stream')) :
    stream'.data.size ≤ stream'.position := by
  induction script generalizing stream with
  | nil => exact size_le_of_deliver_nil hcount hread
  | cons step script ih =>
    cases step with
    | upTo limit =>
      have hlimit : 0 < limit :=
        Nat.pos_of_ne_zero fun hzero => hscript (hzero ▸ List.mem_cons_self)
      exact size_le_of_deliver_nil (Nat.lt_min.2 ⟨hcount, hlimit⟩) hread
    | interrupted => cases hread
    | failure fault => cases hread
    | growth octets => exact ih (fun hmem => hscript (List.mem_cons_of_mem _ hmem)) hread

end Stream

namespace Input

/-- Reading ahead takes more from the stream than it hands out, and keeps the rest. -/
theorem Moved.of_ahead {stream stream' : Stream} {part : List UInt8} (count : Nat)
    (h : (direct stream).Moved part (direct stream')) :
    (buffered stream []).Moved (part.take count) (.buffered stream' (part.drop count)) := by
  have hposition : stream'.position = stream.position + part.length := h.position
  have hmoved : stream'.position - (part.drop count).length
      = stream.position + (part.take count).length := by
    rw [List.length_drop, List.length_take]
    omega
  have hkept : part.drop count <+:
      (Bytes.octets stream'.data).drop (stream.position + (part.take count).length) := by
    rw [← List.drop_drop]
    rcases Nat.le_total count part.length with hle | hge
    · rw [List.length_take, Nat.min_eq_left hle]
      exact h.part.drop count
    · rw [List.drop_of_length_le hge]
      exact List.nil_prefix
  refine ⟨⟨?_, ?_⟩, h.octets, hmoved, (List.take_prefix _ _).trans h.part, h.script⟩
  · simp only [ahead, Input.stream, List.length_drop]
    omega
  · change part.drop count <+: (Bytes.octets stream'.data).drop
      (stream'.position - (part.drop count).length)
    rw [hmoved]
    exact hkept

/-- A read that a buffer answers leaves the stream alone. -/
theorem moved_take {stream : Stream} {ahead : List UInt8} (count : Nat)
    (h : (buffered stream ahead).Coherent) :
    (buffered stream ahead).Moved (ahead.take count) (.buffered stream (ahead.drop count)) := by
  have hle : ahead.length ≤ stream.position := h.1
  have hahead : ahead <+: (Bytes.octets stream.data).drop (stream.position - ahead.length) := h.2
  have hmoved : stream.position - (ahead.drop count).length
      = stream.position - ahead.length + (ahead.take count).length := by
    rw [List.length_drop, List.length_take]
    omega
  refine ⟨⟨?_, ?_⟩, List.prefix_rfl, hmoved, (List.take_prefix _ _).trans hahead,
    List.suffix_rfl⟩
  · simp only [Input.ahead, Input.stream, List.length_drop]
    omega
  · change ahead.drop count <+: (Bytes.octets stream.data).drop
      (stream.position - (ahead.drop count).length)
    rw [hmoved, ← List.drop_drop]
    rcases Nat.le_total count ahead.length with hcount | hcount
    · rw [List.length_take, Nat.min_eq_left hcount]
      exact hahead.drop count
    · rw [List.drop_of_length_le hcount]
      exact List.nil_prefix

/-- Every read moves the input over what it delivers. -/
theorem moved_read {input : Input} (h : input.Coherent) (count : Nat) :
    input.Moved (input.read count).1.part (input.read count).2 := by
  induction input using shapes with
  | direct stream => exact stream.moved_read count
  | ahead stream octet more => exact moved_take count h
  | empty stream =>
    rw [read]
    split
    · have hread := stream.moved_read count
      exact ⟨coherent_buffered _, hread.octets, hread.position, hread.part, hread.script⟩
    · have hread := stream.moved_read readAhead
      split <;> rename_i heq <;> rw [heq] at hread
      · exact hread.of_ahead count
      · exact hread.of_ahead 0
      · exact hread.of_ahead 0

theorem read_of_harmless {input : Input} (h : ∀ step ∈ input.script, step.Harmless)
    (count : Nat) :
    (input.read count).2.stream.data = input.stream.data ∧
      ∀ fault, (input.read count).1 ≠ .failure fault := by
  induction input using shapes with
  | direct stream => exact stream.read_of_harmless h count
  | ahead stream octet more => simp [read, Input.stream]
  | empty stream =>
    rw [read]
    split
    · exact stream.read_of_harmless h count
    · obtain ⟨hdata, hfault⟩ := stream.read_of_harmless h readAhead
      split <;> rename_i heq <;> rw [heq] at hdata hfault
      · exact ⟨hdata, by simp⟩
      · exact ⟨hdata, by simp⟩
      · exact absurd rfl (hfault _)

/-- A read that is not cut to nothing comes back empty at the end of the data only. -/
theorem length_le_of_read_nil {input last : Input} {count : Nat}
    (hscript : .upTo 0 ∉ input.script) (hcount : 0 < count)
    (hread : input.read count = (.octets [], last)) : last.octets.length ≤ last.position := by
  have hstream (stream : Stream) (hscript : .upTo 0 ∉ stream.script)
      (hnil : (stream.read count).1 = .octets []) :
      (stream.read count).2.data.size ≤ (stream.read count).2.position :=
    Stream.size_le_of_readBy_nil hscript hcount (Prod.ext hnil rfl)
  rw [octets, Bytes.length_octets]
  induction input using shapes with
  | direct stream =>
    obtain ⟨hnil, rfl⟩ := Prod.mk.inj hread
    exact hstream stream hscript hnil
  | ahead stream octet more =>
    have htake := ReadResult.octets.inj (Prod.mk.inj hread).1
    simp [Nat.ne_of_gt hcount] at htake
  | empty stream =>
    rw [read] at hread
    split at hread
    · obtain ⟨hnil, rfl⟩ := Prod.mk.inj hread
      exact hstream stream hscript hnil
    · split at hread
      · rename_i part stream' heq
        obtain ⟨hnil, rfl⟩ := Prod.mk.inj hread
        obtain rfl : part = [] := by
          simpa [Nat.ne_of_gt hcount] using ReadResult.octets.inj hnil
        rw [List.drop_nil]
        exact Stream.size_le_of_readBy_nil hscript (by decide) heq
      · cases hread
      · cases hread

end Input
end FirmwareTrace.Channel
