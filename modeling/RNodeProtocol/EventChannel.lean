/-
The event channel, end to end.

An event encoder is wired to an event decoder that records its callbacks.  The
encoder builds its headers from the opcodes of the protocol table and the
decoder reads them with nibble tables of its own; on the seven kinds of event
both know, every sequence of events comes through in order.
-/

import RNodeProtocol.EventDecoderFrames
import RNodeProtocol.EventEncoder
import RNodeProtocol.Link
import RNodeProtocol.Library.RequestLog

namespace RNodeProtocol

open ByteNumerals FramedInput RequestLog

/-! ### Emitting events -/

def Event.perform {Ctx : Type} (encoder : EventEncoder Ctx) :
    Event → EventEncoder Ctx × EncoderStatus
  | .rssi interface value => EventEncoder.rssi encoder interface.value value
  | .snr interface value => EventEncoder.snr encoder interface.value value
  | .blink interface => EventEncoder.blink encoder interface.value
  | .platform interface id => EventEncoder.platform encoder interface.value id
  | .mcu interface id => EventEncoder.mcu encoder interface.value id
  | .stat .statRx interface payload => EventEncoder.statRx encoder interface.value payload
  | .stat .statTx interface payload => EventEncoder.statTx encoder interface.value payload

def eventServer {Ctx : Type} : Server (EventEncoder Ctx) Event EncoderStatus :=
  { perform := Event.perform }

def eventMeaning : Meaning Unit Event EventCall :=
  { calls := fun _ event => event.calls
    next := fun _ _ => () }

theorem eventMeaning_transcript (events : List Event) :
    eventMeaning.transcript () events = events.flatMap Event.calls := by
  induction events with
  | nil => rfl
  | cons event rest ih =>
      rw [List.flatMap_cons, ← ih]
      rfl

theorem Event.sends (event : Event) :
    ∃ interface opcode bytes,
      (∀ {Ctx : Type} (encoder : EventEncoder Ctx),
        event.perform encoder = encoder.sendCommandAndBytes interface opcode bytes) ∧
      event.frame = packNibbles interface opcode.value :: bytes := by
  cases event with
  | rssi => exact ⟨_, _, _, fun _ => rfl, rfl⟩
  | snr => exact ⟨_, _, _, fun _ => rfl, rfl⟩
  | blink => exact ⟨_, _, _, fun _ => rfl, rfl⟩
  | platform => exact ⟨_, _, _, fun _ => rfl, rfl⟩
  | mcu => exact ⟨_, _, _, fun _ => rfl, rfl⟩
  | stat kind =>
      cases kind with
      | statRx => exact ⟨_, _, _, fun _ => rfl, rfl⟩
      | statTx => exact ⟨_, _, _, fun _ => rfl, rfl⟩

/-! ### The wired encoder -/

abbrev EventReceiver := EventDecoder (List EventCall)

def EventReceiver.accepting (memory : EventReceiver) : EventReceiver :=
  EventDecoder.fresh memory (fun _ => true) (fun _ _ => .ok)

/-- A fresh encoder whose frames go to a fresh decoder with every callback registered. -/
def eventChannel (memory : EventReceiver) : EventEncoder (Link EventReceiver) :=
  EventEncoder.init { receiver := memory.accepting, statuses := [] }
    (some (Link.startCb EventDecoder.machine)) (some (Link.putCb EventDecoder.machine))
    (some (Link.endCb EventDecoder.machine))

def eventLog (encoder : EventEncoder (Link EventReceiver)) : List EventCall :=
  encoder.context.receiver.context

/-- Between events the encoder is idle, and the decoder has refused nothing. -/
structure EventSynced (encoder : EventEncoder (Link EventReceiver)) : Prop where
  wired : Link.Wired EventDecoder.machine encoder.frame
  recorded : EventDecoder.Recorded (fun _ => true) (fun _ _ => .ok) encoder.context.receiver
  idle : encoder.state = .idle
  accepted : ∀ status ∈ encoder.context.statuses, status = .ok

theorem eventChannel_synced (memory : EventReceiver) : EventSynced (eventChannel memory) :=
  { wired := ⟨rfl, rfl, rfl⟩
    recorded := EventDecoder.fresh_recorded memory _ _
    idle := rfl
    accepted := fun _ member => absurd member List.not_mem_nil }

variable {encoder : EventEncoder (Link EventReceiver)}

theorem heard_registered (event : Event) (decoder : EventReceiver) :
    EventDecoder.heard (fun _ => true)
      (fun kind => EventDecoder.streamFirst (fun _ => true) kind decoder) event = event.calls := by
  cases event with
  | stat kind interface payload =>
      change [_] ++ dataCalls _ _ 0 payload ++
        [EventCall.stream kind (.endStream _ (UInt32.ofNat (0 + payload.length))) .ok] = _
      rw [Nat.zero_add]
      rfl
  | _ => rfl

theorem EventSynced.perform (synced : EventSynced encoder) (event : Event) :
    (event.perform encoder).2 = .ok ∧ EventSynced (event.perform encoder).1 ∧
      eventLog (event.perform encoder).1 = eventLog encoder ++ event.calls := by
  obtain ⟨interface, opcode, bytes, performs, frame⟩ := event.sends
  have recorded := synced.recorded.start
  obtain ⟨accepts, ended, logged⟩ :=
    recorded.frame_accepted rfl (fun _ _ _ => rfl) (parseEvent_frame event)
  have returned := Encoder.sendCommandAndBytes_accepted synced.wired.accepts synced.idle
    interface opcode bytes
  have sent := (Encoder.sendCommandAndBytes_ok returned).2
  rw [← frame] at sent
  rw [performs]
  have receiver := synced.wired.deliver_receiver encoder.context event.frame
  refine ⟨returned, ?_, ?_⟩
  · rw [sent]
    refine ⟨⟨synced.wired.start, synced.wired.put, synced.wired.endFrame⟩, ?_, rfl, ?_⟩
    · change EventDecoder.Recorded _ _ (encoder.frame.deliver encoder.context event.frame).receiver
      rw [receiver]
      exact (EventDecoder.recorded_preserved.putAll _ _ recorded).endFrame
    · exact synced.wired.deliver_statuses accepts ended synced.accepted
  · rw [sent]
    change (encoder.frame.deliver encoder.context event.frame).receiver.context = _
    rw [receiver]
    rw [heard_registered] at logged
    exact logged

/-- The meaning of an event depends on no other event, so there is nothing to relate. -/
def EventRelated (encoder : EventEncoder (Link EventReceiver)) (_ : Unit) : Prop :=
  EventSynced encoder

theorem eventServer_implements :
    eventServer.Implements (fun status => status ≠ .ok) eventMeaning eventLog EventRelated where
  rejects := fun _ _ event synced rejected => absurd (EventSynced.perform synced event).1 rejected
  grants := fun _ _ event synced _ => (EventSynced.perform synced event).2

/-- Every event of every sequence is reported, in order, and nothing is ever refused. -/
theorem eventChannel_faithful (memory : EventReceiver) (events : List Event) :
    eventLog (eventServer.run (eventChannel memory) events) = events.flatMap Event.calls ∧
      (∀ status ∈ eventServer.answers (eventChannel memory) events, status = .ok) ∧
      ∀ status ∈ (eventServer.run (eventChannel memory) events).context.statuses,
        status = .ok := by
  have related : EventRelated (eventChannel memory) () := eventChannel_synced memory
  have answered : ∀ status ∈ eventServer.answers (eventChannel memory) events, status = .ok :=
    eventServer_implements.answers related
      (fun _ _ event synced => (EventSynced.perform synced event).1) events
  have logged := eventServer_implements.log_run related events
  rw [Server.granted_all (fun status member => not_not_intro (answered status member)),
    eventMeaning_transcript] at logged
  obtain ⟨_, final⟩ := eventServer_implements.related_run related events
  exact ⟨logged, answered, final.accepted⟩

end RNodeProtocol
