import FirmwareTrace.Proofs.Decode.Passing

/-! # The storage behind a window

The buffer of a window lies in an array.  Before each read the array is made as long as its
capacity, the read writes behind what is pending, and the array is cut back to what came.
`Storage.refill` does this and keeps every request; it fills the window as `Window.refill`
does, `refill_eq`, and no zero that the array was lengthened with is left in it.
-/
namespace FirmwareTrace

namespace Channel.Input

/-- The octets are those of the input from an offset up to its position. -/
structure Spans (input : Input) (offset : Nat) (octets : List UInt8) : Prop where
  coherent : input.Coherent
  position : offset + octets.length = input.position
  isPrefix : octets <+: input.octets.drop offset

variable {input input' : Input} {offset : Nat} {octets part : List UInt8}

theorem spans_nil (h : input.Coherent) : input.Spans input.position [] :=
  ⟨h, rfl, List.nil_prefix⟩

theorem Spans.eq (h : input.Spans offset octets) :
    octets = (input.octets.drop offset).take (input.position - offset) := by
  rw [← h.position, Nat.add_sub_cancel_left]
  exact List.prefix_iff_eq_take.1 h.isPrefix

theorem Spans.moved (h : input.Spans offset octets) (hmoved : input.Moved part input') :
    input'.Spans offset (octets ++ part) where
  coherent := hmoved.coherent
  position := by
    rw [hmoved.position, ← h.position, List.length_append, Nat.add_assoc]
  isPrefix := by
    obtain ⟨rest, hrest⟩ := h.isPrefix.trans (hmoved.octets.drop offset)
    have hpart := hmoved.part
    rw [← h.position, ← List.drop_drop, ← hrest, List.drop_left] at hpart
    rw [← hrest]
    exact (List.prefix_append_right_inj octets).2 hpart

theorem Spans.drop (h : input.Spans offset octets) {count : Nat} (hcount : count ≤ octets.length) :
    input.Spans (offset + count) (octets.drop count) where
  coherent := h.coherent
  position := by
    rw [← h.position, List.length_drop]
    omega
  isPrefix := by
    rw [← List.drop_drop]
    exact h.isPrefix.drop count

end Channel.Input

namespace Decode
open Channel

/-- An array of octets.  It is moved to a larger place when it becomes longer than its
capacity. -/
structure Storage where
  octets : List UInt8
  capacity : Nat
  moves : Nat
  deriving DecidableEq, Repr

namespace Storage

/-- Cuts the array to a length, or lengthens it with zeros. -/
def resize (storage : Storage) (length : Nat) : Storage where
  octets := storage.octets.take length
    ++ List.replicate (length - storage.octets.length) 0
  capacity := max storage.capacity length
  moves := if length ≤ storage.capacity then storage.moves else storage.moves + 1

def truncate (storage : Storage) (length : Nat) : Storage :=
  { storage with octets := storage.octets.take length }

/-- Drops octets in front. -/
def drain (storage : Storage) (count : Nat) : Storage :=
  { storage with octets := storage.octets.drop count }

/-- Writes over the octets from a place on. -/
def overwrite (storage : Storage) (start : Nat) (part : List UInt8) : Storage :=
  { storage with
    octets := storage.octets.take start ++ part ++ storage.octets.drop (start + part.length) }

theorem octets_resize {storage : Storage} {length : Nat} (h : storage.octets.length ≤ length) :
    (storage.resize length).octets
      = storage.octets ++ List.replicate (length - storage.octets.length) 0 := by
  rw [resize, List.take_of_length_le h]

theorem length_resize (storage : Storage) (length : Nat) :
    (storage.resize length).octets.length = length := by
  simp only [resize, List.length_append, List.length_take, List.length_replicate]
  omega

/-- An array that is long enough at its capacity is not moved. -/
theorem resize_capacity (storage : Storage) :
    storage.resize storage.capacity
      = { storage with octets := (storage.resize storage.capacity).octets } := by
  simp [resize]

end Storage

/-- A read into an array, behind the octets that are pending there. -/
structure Request where
  storage : Storage
  filled : Nat
  input : Input

namespace Request

/-- How many octets the read may write. -/
def room (request : Request) : Nat := request.storage.octets.length - request.filled

def answer (request : Request) : ReadResult × Input := request.input.read request.room

/-- The octets that the read delivered. -/
def delivered (request : Request) : List UInt8 := request.answer.1.part

/-- The array after the read: what was pending, and what was delivered. -/
def kept (request : Request) : Storage :=
  (request.storage.overwrite request.filled request.delivered).truncate
    (request.filled + request.delivered.length)

theorem length_delivered_le (request : Request) : request.delivered.length ≤ request.room := by
  unfold delivered answer
  rcases request.input.read_cases request.room with
    ⟨part, next, hread, -, hle, -⟩ | ⟨next, hread, -⟩ | ⟨fault, next, hread, -⟩ <;> rw [hread]
  · exact hle
  · exact Nat.zero_le _
  · exact Nat.zero_le _

end Request

namespace Storage

/-- The next request for octets, up to the capacity or to as many as are needed. -/
def request (storage : Storage) (needed : Nat) (input : Input) : Request :=
  ⟨storage.resize (max storage.capacity needed), storage.octets.length, input⟩

theorem room_request (storage : Storage) (needed : Nat) (input : Input) :
    (storage.request needed input).room
      = max storage.capacity needed - storage.octets.length := by
  rw [Request.room, request, length_resize]

/-- Nothing of what the array was lengthened with is kept. -/
theorem octets_kept_request {storage : Storage} {needed : Nat} (input : Input)
    (h : storage.octets.length ≤ max storage.capacity needed) :
    (storage.request needed input).kept.octets
      = storage.octets ++ (storage.request needed input).delivered := by
  have htake : (storage.resize (max storage.capacity needed)).octets.take storage.octets.length
      = storage.octets := by
    rw [octets_resize h, List.take_left]
  have hkept (part : List UInt8) : (((storage.resize (max storage.capacity needed)).overwrite
      storage.octets.length part).truncate (storage.octets.length + part.length)).octets
        = storage.octets ++ part := by
    rw [truncate, overwrite, htake, ← List.length_append, List.take_left]
  exact hkept _

/-- The reads that are left at most: each delivers an octet that is needed, or uses up a step
of the script. -/
def readsLeft (needed : Nat) (storage : Storage) (input : Input) : Nat :=
  needed - storage.octets.length + input.scriptLength

theorem readsLeft_kept_lt {needed : Nat} {storage : Storage} {input : Input}
    (hneeded : ¬needed ≤ storage.octets.length)
    (hanswer : (storage.request needed input).answer.1.Continues) :
    readsLeft needed (storage.request needed input).kept (storage.request needed input).answer.2
      < readsLeft needed storage input := by
  have hkept := octets_kept_request input
    (Nat.le_trans (Nat.le_of_not_le hneeded) (Nat.le_max_right storage.capacity needed))
  rw [readsLeft, readsLeft, hkept, List.length_append]
  unfold Request.delivered
  rcases input.read_cases (storage.request needed input).room with
    ⟨part, next, hread, -, -, hscript⟩ | ⟨next, hread, -, hscript⟩ | ⟨fault, next, hread, -⟩
  · have hanswer' : (storage.request needed input).answer = (.octets part, next) := hread
    rw [hanswer'] at hanswer ⊢
    have hpart : 0 < part.length := List.length_pos_iff.2 hanswer
    simp only [ReadResult.part]
    omega
  · have hanswer' : (storage.request needed input).answer = (.interrupted, next) := hread
    rw [hanswer']
    simp only [ReadResult.part, List.length_nil]
    omega
  · have hanswer' : (storage.request needed input).answer = (.failure fault, next) := hread
    rw [hanswer'] at hanswer
    exact hanswer.elim

end Storage

/-- What refilling an array came to, with the requests that were made. -/
structure Refilled where
  storage : Storage
  input : Input
  requests : List Request
  outcome : Except IoFault Bool

/-- The same after one more request in front. -/
def Refilled.precede (refilled : Refilled) (request : Request) : Refilled :=
  { refilled with requests := request :: refilled.requests }

namespace Storage

/-- Reads until the array holds `needed` octets, the input ends or a read fails; an interrupted
read is repeated. -/
def refill (needed : Nat) (storage : Storage) (input : Input) : Refilled :=
  if _hneeded : needed ≤ storage.octets.length then ⟨storage, input, [], .ok true⟩
  else
    match _h : (storage.request needed input).answer with
    | (.octets [], next) =>
      ⟨(storage.request needed input).kept, next, [storage.request needed input], .ok false⟩
    | (.octets (_ :: _), next) | (.interrupted, next) =>
      (refill needed (storage.request needed input).kept next).precede
        (storage.request needed input)
    | (.failure fault, next) =>
      ⟨(storage.request needed input).kept, next, [storage.request needed input], .error fault⟩
termination_by readsLeft needed storage input
decreasing_by
  · have hlt : _ < readsLeft needed storage input :=
      readsLeft_kept_lt _hneeded (by rw [_h]; exact List.cons_ne_nil _ _)
    rwa [_h] at hlt
  · have hlt : _ < readsLeft needed storage input :=
      readsLeft_kept_lt _hneeded (by rw [_h]; trivial)
    rwa [_h] at hlt

end Storage

/-! ## What a refill does -/

namespace Window

variable {needed : Nat} {window : Window} {input next : Input}

theorem refill_of_interrupted (hneeded : ¬needed ≤ window.buffer.length)
    (hread : input.read (window.room needed) = (.interrupted, next)) :
    window.refill needed input = window.refill needed next := by
  rw [refill, if_neg hneeded]
  split <;> simp_all

theorem refill_of_failure {fault : IoFault} (hneeded : ¬needed ≤ window.buffer.length)
    (hread : input.read (window.room needed) = (.failure fault, next)) :
    window.refill needed input = ⟨window, next, .error fault⟩ := by
  rw [refill, if_neg hneeded]
  split <;> simp_all

end Window

/-- Refilling, request by request: enough octets are there, or the answer to a request ends it, or
it goes on. -/
inductive Storage.Refills (needed : Nat) : Storage → Input → Refilled → Prop
  | enough {storage : Storage} {input : Input} (h : needed ≤ storage.octets.length) :
      Refills needed storage input ⟨storage, input, [], .ok true⟩
  | stop {storage : Storage} {input last : Input} {ending : Option IoFault}
      (h : ¬needed ≤ storage.octets.length)
      (hanswer : (storage.request needed input).answer = (.final ending, last)) :
      Refills needed storage input
        ⟨(storage.request needed input).kept, last, [storage.request needed input],
          Window.shortfall ending⟩
  | again {storage : Storage} {input next : Input} {result : ReadResult} {refilled : Refilled}
      (h : ¬needed ≤ storage.octets.length)
      (hanswer : (storage.request needed input).answer = (result, next))
      (hresult : result.Continues)
      (rest : Refills needed (storage.request needed input).kept next refilled) :
      Refills needed storage input (refilled.precede (storage.request needed input))

theorem Storage.refills_refill (needed : Nat) (storage : Storage) (input : Input) :
    Refills needed storage input (storage.refill needed input) := by
  fun_induction refill needed storage input with
  | case1 storage input h => exact .enough h
  | case2 storage input h next hanswer =>
    have hfinal : (storage.request needed input).answer = (.final none, next) := hanswer
    exact .stop h hfinal
  | case3 storage input h octet more next hanswer ih =>
    exact .again h hanswer (List.cons_ne_nil _ _) ih
  | case4 storage input h next hanswer ih => exact .again h hanswer trivial ih
  | case5 storage input h fault next hanswer =>
    have hfinal : (storage.request needed input).answer = (.final (some fault), next) := hanswer
    exact .stop h hfinal

/-- The octets that all requests together delivered. -/
def Refilled.delivered (refilled : Refilled) : List UInt8 :=
  refilled.requests.flatMap Request.delivered

/-- What the answers to requests come to: the last of them ends the refill, if it was not ended
by octets enough. -/
inductive Request.Answered : List Request → Except IoFault Bool → Prop
  | enough : Answered [] (.ok true)
  | stop {request : Request} {ending : Option IoFault} (h : request.answer.1 = .final ending) :
      Answered [request] (Window.shortfall ending)
  | again {request : Request} {rest : List Request} {outcome : Except IoFault Bool}
      (h : request.answer.1.Continues) (hrest : Answered rest outcome) :
      Answered (request :: rest) outcome

/-- A request into an array of a capacity that was never moved.  It asks for all the room that the
pending octets leave, which is some, so that an empty answer tells the end of the data. -/
structure Request.Proper (size : Nat) (request : Request) : Prop where
  length : request.storage.octets.length = size
  capacity : request.storage.capacity = size
  moves : request.storage.moves = 0
  room : request.room = size - request.filled
  nonempty : 0 < request.room
  spans : request.input.Spans (request.input.position - request.filled)
    (request.storage.octets.take request.filled)
  ended : .upTo 0 ∉ request.input.script → request.answer.1 = .octets [] →
    request.answer.2.octets.length ≤ request.answer.2.position

namespace Storage

variable {needed offset : Nat} {storage : Storage} {input : Input} {refilled : Refilled}

theorem kept_request (hneeded : needed ≤ storage.capacity) (h : ¬needed ≤ storage.octets.length) :
    (storage.request needed input).kept
      = { storage with octets := storage.octets ++ (storage.request needed input).delivered } := by
  have hmax : max storage.capacity needed = storage.capacity := Nat.max_eq_left hneeded
  have hoctets : _ = storage.octets ++ (storage.request needed input).delivered :=
    octets_kept_request input (by rw [hmax]; omega)
  have hplace : (storage.request needed input).storage.capacity = storage.capacity ∧
      (storage.request needed input).storage.moves = storage.moves := by
    rw [request, hmax, resize_capacity]
    exact ⟨rfl, rfl⟩
  rw [← hoctets]
  exact congrArg₂ (Storage.mk _) hplace.1 hplace.2

theorem length_kept_le (hneeded : needed ≤ storage.capacity)
    (h : ¬needed ≤ storage.octets.length) :
    (storage.octets ++ (storage.request needed input).delivered).length ≤ storage.capacity := by
  have hdelivered := (storage.request needed input).length_delivered_le
  rw [room_request, Nat.max_eq_left hneeded] at hdelivered
  rw [List.length_append]
  omega

theorem spans_request {result : ReadResult} {next : Input}
    (hspans : input.Spans offset storage.octets)
    (hanswer : (storage.request needed input).answer = (result, next)) :
    next.Spans offset (storage.octets ++ (storage.request needed input).delivered) := by
  have hmoved : input.Moved (storage.request needed input).delivered
      (storage.request needed input).answer.2 := Input.moved_read hspans.coherent _
  rw [hanswer] at hmoved
  exact hspans.moved hmoved

theorem proper_request (hneeded : needed ≤ storage.capacity)
    (h : ¬needed ≤ storage.octets.length) (hmoves : storage.moves = 0)
    (hspans : input.Spans offset storage.octets) :
    (storage.request needed input).Proper storage.capacity := by
  have hmax : max storage.capacity needed = storage.capacity := Nat.max_eq_left hneeded
  have hroom : (storage.request needed input).room = storage.capacity - storage.octets.length := by
    rw [room_request, hmax]
  have hnonempty : 0 < (storage.request needed input).room := by
    rw [hroom]
    omega
  have htake : (storage.request needed input).storage.octets.take storage.octets.length
      = storage.octets := by
    rw [request, hmax, octets_resize (by omega), List.take_left]
  have hoffset : input.position - storage.octets.length = offset := by
    rw [← hspans.position, Nat.add_sub_cancel]
  exact
    { length := by rw [request, hmax, length_resize]
      capacity := by rw [request, hmax, resize_capacity]
      moves := by rw [request, hmax, resize_capacity, hmoves]
      room := hroom
      nonempty := hnonempty
      spans := by
        change input.Spans (input.position - storage.octets.length)
          ((storage.request needed input).storage.octets.take storage.octets.length)
        rwa [htake, hoffset]
      ended := fun hscript hnil =>
        Input.length_le_of_read_nil hscript hnonempty (Prod.ext hnil rfl) }

end Storage

namespace Storage.Refills

variable {needed offset : Nat} {storage : Storage} {input : Input} {refilled : Refilled}

theorem storage_eq (h : storage.Refills needed input refilled)
    (hneeded : needed ≤ storage.capacity) :
    refilled.storage = { storage with octets := storage.octets ++ refilled.delivered } := by
  induction h with
  | enough => simp [Refilled.delivered]
  | stop h => simp [Refilled.delivered, kept_request hneeded h]
  | again h hanswer hresult rest ih =>
    rw [kept_request hneeded h] at ih
    simpa [Refilled.delivered, Refilled.precede] using ih hneeded

theorem length_le (h : storage.Refills needed input refilled) (hneeded : needed ≤ storage.capacity)
    (hlength : storage.octets.length ≤ storage.capacity) :
    refilled.storage.octets.length ≤ storage.capacity := by
  induction h with
  | enough => exact hlength
  | stop h =>
    rw [kept_request hneeded h]
    exact length_kept_le hneeded h
  | again h hanswer hresult rest ih =>
    rw [kept_request hneeded h] at ih
    exact ih hneeded (length_kept_le hneeded h)

theorem answered (h : storage.Refills needed input refilled) :
    Request.Answered refilled.requests refilled.outcome := by
  induction h with
  | enough => exact .enough
  | stop h hanswer => exact .stop (congrArg Prod.fst hanswer)
  | again h hanswer hresult rest ih =>
    refine .again ?_ ih
    rw [hanswer]
    exact hresult

theorem spans (h : storage.Refills needed input refilled) (hneeded : needed ≤ storage.capacity)
    (hspans : input.Spans offset storage.octets) :
    refilled.input.Spans offset refilled.storage.octets := by
  induction h with
  | enough => exact hspans
  | stop h hanswer =>
    rw [kept_request hneeded h]
    exact spans_request hspans hanswer
  | again h hanswer hresult rest ih =>
    rw [kept_request hneeded h] at ih
    exact ih hneeded (spans_request hspans hanswer)

theorem proper (h : storage.Refills needed input refilled) (hneeded : needed ≤ storage.capacity)
    (hmoves : storage.moves = 0) (hspans : input.Spans offset storage.octets) :
    ∀ request ∈ refilled.requests, request.Proper storage.capacity := by
  induction h with
  | enough => simp
  | stop h => simpa using proper_request hneeded h hmoves hspans
  | again h hanswer hresult rest ih =>
    rw [kept_request hneeded h] at ih
    exact List.forall_mem_cons.2 ⟨proper_request hneeded h hmoves hspans,
      ih hneeded hmoves (spans_request hspans hanswer)⟩

theorem outcome_eq_iff (h : storage.Refills needed input refilled)
    (hneeded : needed ≤ storage.capacity) :
    refilled.outcome = .ok true ↔ needed ≤ refilled.storage.octets.length := by
  induction h with
  | enough h => simp [h]
  | @stop storage input last ending h hanswer =>
    have hnone : (storage.request needed input).delivered = [] := by
      rw [Request.delivered, hanswer, ReadResult.part_final]
    rw [kept_request hneeded h, hnone, List.append_nil]
    cases ending <;> simp [Window.shortfall, h]
  | again h hanswer hresult rest ih =>
    rw [kept_request hneeded h] at ih
    exact ih hneeded

/-- The array is filled as the buffer of a window is. -/
theorem refill_eq (h : storage.Refills needed input refilled) (hneeded : needed ≤ storage.capacity)
    (offset : Nat) :
    Window.refill needed ⟨storage.capacity, storage.octets, 0, offset⟩ input
      = ⟨⟨storage.capacity, refilled.storage.octets, 0, offset⟩, refilled.input,
          refilled.outcome⟩ := by
  have hread (storage : Storage) (input : Input) :
      input.read ((Window.mk storage.capacity storage.octets 0 offset).room needed)
        = (storage.request needed input).answer := by
    rw [Request.answer, room_request]
    rfl
  induction h with
  | enough h => rw [Window.refill, if_pos h]
  | @stop storage input last ending h hanswer =>
    have hnone : (storage.request needed input).delivered = [] := by
      rw [Request.delivered, hanswer, ReadResult.part_final]
    rw [kept_request hneeded h, hnone, List.append_nil]
    cases ending with
    | none => exact Window.refill_of_end h ((hread storage input).trans hanswer)
    | some fault => exact Window.refill_of_failure h ((hread storage input).trans hanswer)
  | @again storage input next result refilled h hanswer hresult rest ih =>
    have hanswer' := (hread storage input).trans hanswer
    have hdelivered : (storage.request needed input).delivered = result.part := by
      rw [Request.delivered, hanswer]
    rw [kept_request hneeded h, hdelivered] at ih
    refine Eq.trans ?_ (ih hneeded)
    cases result with
    | octets part =>
      obtain ⟨octet, more, rfl⟩ := List.exists_cons_of_ne_nil hresult
      exact Window.refill_of_octets h hanswer'
    | interrupted =>
      rw [ReadResult.part, List.append_nil]
      exact Window.refill_of_interrupted h hanswer'
    | failure fault => exact hresult.elim

end Storage.Refills

end Decode
end FirmwareTrace
