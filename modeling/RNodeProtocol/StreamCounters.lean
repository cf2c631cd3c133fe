/-
The counter of the event decoder's streams.

One counter serves every stream frame.  It is reset behind the check for a
start callback and advanced behind the check for a data callback, so the
positions and lengths a frame reports depend on which callbacks are registered
and, without a start callback, on the frames before it.
-/

import RNodeProtocol.EventDecoderFrames

namespace RNodeProtocol

open FramedInput

namespace EventDecoder

/-- The calls of a stream frame with positions and length counted within the frame. -/
def perFrameCalls (registered : EventSlot → Bool) (kind : StreamKind) (interface : UInt8)
    (payload : List UInt8) : List EventCall :=
  emit (registered (.stream kind .start)) (.stream kind (.start interface) .ok) ++
    dataHeard registered kind interface 0 payload ++
    emit (registered (.stream kind .endStream))
      (.stream kind (.endStream interface (UInt32.ofNat payload.length)) .ok)

/-- The counter starts at zero where bytes are counted, and where they are not it happens to
stand at the length that is reported. -/
structure CounterServes (registered : EventSlot → Bool) (kind : StreamKind)
    (decoder : EventDecoder (List EventCall)) (payload : List UInt8) : Prop where
  positions : registered (.stream kind .data) = true →
    payload ≠ [] ∨ registered (.stream kind .endStream) = true →
      streamFirst registered kind decoder = 0
  length : registered (.stream kind .data) = false →
    registered (.stream kind .endStream) = true →
      streamFirst registered kind decoder % 2 ^ 32 = payload.length % 2 ^ 32

theorem streamFirst_lt (registered : EventSlot → Bool) (kind : StreamKind)
    (decoder : EventDecoder (List EventCall)) : streamFirst registered kind decoder < 2 ^ 32 := by
  unfold streamFirst
  split
  · decide
  · exact decoder.stream.byteIndex.toNat_lt

theorem ofNat_eq_iff (left right : Nat) :
    UInt32.ofNat left = UInt32.ofNat right ↔ left % 2 ^ 32 = right % 2 ^ 32 := by
  rw [← UInt32.toNat_inj, UInt32.toNat_ofNat', UInt32.toNat_ofNat']

theorem dataHeard_eq_iff (registered : EventSlot → Bool) (kind : StreamKind) (interface : UInt8)
    {first : Nat} (bounded : first < 2 ^ 32) (payload : List UInt8) :
    dataHeard registered kind interface first payload =
        dataHeard registered kind interface 0 payload ↔
      (registered (.stream kind .data) = true → payload ≠ [] → first = 0) := by
  unfold dataHeard
  cases registered (.stream kind .data) with
  | false =>
      constructor
      · intro _ present
        cases present
      · intro _
        rfl
  | true =>
      rw [if_pos rfl, if_pos rfl]
      cases payload with
      | nil => exact ⟨fun _ _ nonempty => absurd rfl nonempty, fun _ => rfl⟩
      | cons byte rest =>
          constructor
          · intro same _ _
            rw [dataCalls_cons, dataCalls_cons] at same
            have heads := (List.cons.inj same).1
            injection heads with _ calls _
            injection calls with _ _ positions
            have equal := (ofNat_eq_iff first 0).mp positions
            omega
          · intro zero
            rw [zero rfl (List.cons_ne_nil byte rest)]

theorem dataHeard_length (registered : EventSlot → Bool) (kind : StreamKind)
    (interface : UInt8) (first : Nat) (payload : List UInt8) :
    (dataHeard registered kind interface first payload).length =
      dataCounted registered kind payload := by
  unfold dataHeard dataCounted
  split
  · exact List.length_mapIdx
  · rfl

theorem emit_end_iff (registered : Bool) (kind : StreamKind) (interface : UInt8)
    (left right : Nat) :
    emit registered (EventCall.stream kind (.endStream interface (UInt32.ofNat left)) .ok) =
        emit registered (EventCall.stream kind (.endStream interface (UInt32.ofNat right)) .ok) ↔
      (registered = true → left % 2 ^ 32 = right % 2 ^ 32) := by
  rw [← ofNat_eq_iff]
  cases registered with
  | false =>
      constructor
      · intro _ present
        cases present
      · intro _
        rfl
  | true =>
      constructor
      · intro same _
        injection same with calls _
        injection calls with _ call _
        injection call
      · intro same
        rw [same rfl]

theorem streamHeard_eq_iff (registered : EventSlot → Bool) (kind : StreamKind)
    (interface : UInt8) (decoder : EventDecoder (List EventCall)) (payload : List UInt8) :
    streamHeard registered kind interface (streamFirst registered kind decoder) payload =
        perFrameCalls registered kind interface payload ↔
      CounterServes registered kind decoder payload := by
  have bounded := streamFirst_lt registered kind decoder
  have data := dataHeard_eq_iff registered kind interface bounded payload
  have close := emit_end_iff (registered (.stream kind .endStream)) kind interface
    (streamFirst registered kind decoder + dataCounted registered kind payload) payload.length
  have parts : streamHeard registered kind interface (streamFirst registered kind decoder)
        payload = perFrameCalls registered kind interface payload ↔
      (registered (.stream kind .data) = true → payload ≠ [] →
          streamFirst registered kind decoder = 0) ∧
        (registered (.stream kind .endStream) = true →
          (streamFirst registered kind decoder + dataCounted registered kind payload) % 2 ^ 32 =
            payload.length % 2 ^ 32) := by
    rw [← data, ← close]
    unfold streamHeard perFrameCalls
    constructor
    · intro same
      have lengths := dataHeard_length registered kind interface
      obtain ⟨front, last⟩ := List.append_inj same (by
        rw [List.length_append, List.length_append, lengths, lengths])
      exact ⟨List.append_cancel_left front, last⟩
    · rintro ⟨front, last⟩
      rw [front, last]
  rw [parts]
  unfold dataCounted
  constructor
  · rintro ⟨positions, length⟩
    refine ⟨?_, ?_⟩
    · intro present counted
      rcases counted with nonempty | ending
      · exact positions present nonempty
      · have total := length ending
        rw [if_pos present] at total
        omega
    · intro absent ending
      have total := length ending
      rw [absent] at total
      exact total
  · rintro ⟨positions, length⟩
    refine ⟨fun present nonempty => positions present (.inl nonempty), ?_⟩
    intro ending
    cases present : registered (.stream kind .data) with
    | true => rw [if_pos rfl, positions present (.inr ending), Nat.zero_add]
    | false => exact length present ending

/-- With a start callback, and a data callback wherever the end is heard, it always serves. -/
theorem counterServes_of_registered {registered : EventSlot → Bool} {kind : StreamKind}
    (started : registered (.stream kind .start) = true)
    (counted : registered (.stream kind .endStream) = true →
      registered (.stream kind .data) = true)
    (decoder : EventDecoder (List EventCall)) (payload : List UInt8) :
    CounterServes registered kind decoder payload := by
  refine ⟨fun _ _ => if_pos started, ?_⟩
  intro absent ending
  rw [counted ending] at absent
  cases absent

/-- A stream frame counts within itself exactly when the counter serves it. -/
theorem stream_frame_counts_iff (memory : EventDecoder (List EventCall))
    (registered : EventSlot → Bool) (operations : List (Operation UInt8)) (kind : StreamKind)
    (interface : Interface) (payload : List UInt8) :
    (machine.endFrame (machine.putAll
        (machine.start (reached memory registered (fun _ _ => .ok) operations))
        (Event.stat kind interface payload).frame)).1.context =
      (reached memory registered (fun _ _ => .ok) operations).context ++
        perFrameCalls registered kind interface.value payload ↔
      CounterServes registered kind (reached memory registered (fun _ _ => .ok) operations)
        payload := by
  have recorded := reached_recorded memory registered (fun _ _ => .ok) operations
  obtain ⟨_, _, reported⟩ := recorded.start.frame_accepted rfl (fun _ _ _ => rfl)
    (parseEvent_frame (.stat kind interface payload))
  change (machine.endFrame (machine.putAll (machine.start _) _)).1.context = _ at reported
  rw [← streamHeard_eq_iff registered kind interface.value, reported]
  exact List.append_right_inj _

/-- Without a start callback the second frame goes on counting where the first one stopped. -/
theorem stream_frame_counts_on :
    (machine.endFrame (machine.putAll (machine.start
        (reached (zeroed []) (fun slot => slot = .stream .statRx .data) (fun _ _ => .ok)
          [.start, .put 0x11, .put 0xAA, .endFrame]))
        (Event.stat .statRx Interface.global [0xBB]).frame)).1.context ≠
      (reached (zeroed []) (fun slot => slot = .stream .statRx .data) (fun _ _ => .ok)
          [.start, .put 0x11, .put 0xAA, .endFrame]).context ++
        perFrameCalls (fun slot => slot = .stream .statRx .data) .statRx 0 [0xBB] := by
  decide

end EventDecoder

end RNodeProtocol
