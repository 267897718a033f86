import FirmwareTrace.Proofs.Channel.Reading

/-! # Draining an input

`Drains` reads an input up to the first read that delivers nothing, in requests
of any size.  What it delivers is a stretch of the data from the position on, and
all of the data there when the script cuts no read to nothing.
-/
namespace FirmwareTrace.Channel

/-- A read after which reading goes on: it delivered octets, or it was interrupted. -/
def ReadResult.Continues : ReadResult → Prop
  | .octets part => part ≠ []
  | .interrupted => True
  | .failure _ => False

/-- The read that ends a drain: a failure, or no octets at all. -/
def ReadResult.final : Option IoFault → ReadResult
  | none => .octets []
  | some fault => .failure fault

@[simp] theorem ReadResult.part_final (ending : Option IoFault) :
    (ReadResult.final ending).part = [] := by
  cases ending <;> rfl

/-- Reads that each deliver octets or are interrupted. -/
inductive Reads : Input → List UInt8 → Input → Prop
  | refl (input : Input) : Reads input [] input
  | step {count : Nat} {input next last : Input} {result : ReadResult} {part : List UInt8}
      (hcount : 0 < count) (hread : input.read count = (result, next))
      (hresult : result.Continues) (rest : Reads next part last) :
      Reads input (result.part ++ part) last

/-- Reads up to the first that delivers nothing and was not interrupted; the ending
is its failure, if it is one. -/
inductive Drains (input : Input) (part : List UInt8) (ending : Option IoFault) (last : Input) :
    Prop
  | intro {count : Nat} {mid : Input} (reads : Reads input part mid) (hcount : 0 < count)
      (hread : mid.read count = (ReadResult.final ending, last))

variable {input mid last : Input} {front back part : List UInt8} {ending : Option IoFault}

theorem Reads.once {count : Nat} {result : ReadResult} (hcount : 0 < count)
    (hread : input.read count = (result, mid)) (hresult : result.Continues) :
    Reads input result.part mid := by
  simpa using Reads.step hcount hread hresult (.refl mid)

theorem Reads.trans (h₁ : Reads input front mid) (h₂ : Reads mid back last) :
    Reads input (front ++ back) last := by
  induction h₁ with
  | refl => exact h₂
  | step hcount hread hresult _ ih =>
    rw [List.append_assoc]
    exact .step hcount hread hresult (ih h₂)

theorem Reads.drains (h₁ : Reads input front mid) (h₂ : Drains mid back ending last) :
    Drains input (front ++ back) ending last := by
  obtain ⟨reads, hcount, hread⟩ := h₂
  exact ⟨h₁.trans reads, hcount, hread⟩

theorem moved_of_read {next : Input} {count : Nat} {result : ReadResult} (hinput : input.Coherent)
    (hread : input.read count = (result, next)) : input.Moved result.part next := by
  have hmoved := Input.moved_read hinput count
  rwa [hread] at hmoved

theorem Reads.moved (h : Reads input part last) (hinput : input.Coherent) :
    input.Moved part last := by
  induction h with
  | refl => exact .refl hinput
  | step _ hread _ _ ih =>
    have hmoved := moved_of_read hinput hread
    exact hmoved.trans (ih hmoved.coherent)

theorem Drains.moved (h : Drains input part ending last) (hinput : input.Coherent) :
    input.Moved part last := by
  obtain ⟨reads, -, hread⟩ := h
  have hmoved := reads.moved hinput
  have hlast := moved_of_read hmoved.coherent hread
  rw [ReadResult.part_final] at hlast
  simpa using hmoved.trans hlast

theorem Reads.data_of_harmless (h : Reads input part last) (hinput : input.Coherent)
    (hscript : ∀ step ∈ input.script, step.Harmless) :
    last.stream.data = input.stream.data := by
  induction h with
  | refl => rfl
  | @step count _ _ _ _ _ _ hread _ _ ih =>
    have hmoved := moved_of_read hinput hread
    have hkept := (Input.read_of_harmless hscript count).1
    rw [hread] at hkept
    exact (ih hmoved.coherent fun s hs => hscript s (hmoved.script.subset hs)).trans hkept

/-- Reads that are only cut short or interrupted end without a failure, over data
that stays as it was. -/
theorem Drains.of_harmless (h : Drains input part ending last) (hinput : input.Coherent)
    (hscript : ∀ step ∈ input.script, step.Harmless) :
    ending = none ∧ last.stream.data = input.stream.data := by
  obtain @⟨count, mid, reads, -, hread⟩ := h
  have hmid := (reads.moved hinput).script
  have hkept := Input.read_of_harmless (fun s hs => hscript s (hmid.subset hs)) count
  rw [hread] at hkept
  refine ⟨?_, hkept.1.trans (reads.data_of_harmless hinput hscript)⟩
  cases ending with
  | none => rfl
  | some fault => exact absurd rfl (hkept.2 fault)

/-- Harmless reads deliver a stretch of the data from the position on. -/
theorem Drains.isPrefix_of_harmless (h : Drains input part ending last)
    (hinput : input.Coherent) (hscript : ∀ step ∈ input.script, step.Harmless) :
    part <+: input.octets.drop input.position := by
  have hpart := (h.moved hinput).part
  rwa [Input.octets, (h.of_harmless hinput hscript).2] at hpart

/-- A drain that leaves the position at the end of the data delivered all of it. -/
theorem Drains.eq_of_length_le (h : Drains input part ending last) (hinput : input.Coherent)
    (hscript : ∀ step ∈ input.script, step.Harmless)
    (hend : input.octets.length ≤ last.position) : part = input.octets.drop input.position := by
  refine (h.isPrefix_of_harmless hinput hscript).eq_of_length_le ?_
  rw [(h.moved hinput).position] at hend
  rw [List.length_drop]
  omega

/-- Reads that are not cut to nothing come to the end of the data, however much it grew. -/
theorem Drains.length_le (h : Drains input part none last) (hinput : input.Coherent)
    (hscript : .upTo 0 ∉ input.script) : last.octets.length ≤ last.position := by
  obtain ⟨reads, hcount, hread⟩ := h
  exact Input.length_le_of_read_nil
    (fun hmem => hscript ((reads.moved hinput).script.subset hmem)) hcount hread

/-- Productive reads come to the end of the data. -/
theorem Drains.length_le_of_productive (h : Drains input part ending last)
    (hinput : input.Coherent) (hscript : ∀ step ∈ input.script, step.Productive) :
    last.octets.length ≤ last.position := by
  obtain rfl := (h.of_harmless hinput fun s hs => (hscript s hs).harmless).1
  exact h.length_le hinput fun hmem => absurd (hscript _ hmem) (Nat.lt_irrefl 0)

/-- Productive reads deliver all octets from the position on. -/
theorem Drains.eq_of_productive (h : Drains input part ending last) (hinput : input.Coherent)
    (hscript : ∀ step ∈ input.script, step.Productive) :
    part = input.octets.drop input.position := by
  have hharmless := fun s hs => (hscript s hs).harmless
  have hend := h.length_le_of_productive hinput hscript
  rw [Input.octets, (h.of_harmless hinput hharmless).2] at hend
  exact h.eq_of_length_le hinput hharmless hend

end FirmwareTrace.Channel
