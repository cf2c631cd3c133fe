/-
Surplus bytes of fixed-length commands.

While it reads a fixed-length payload the command decoder bounds the bytes it
takes by the size of its buffer and not by the length of the opcode.  The first
surplus byte is therefore refused where the two agree; elsewhere surplus bytes
are taken until the buffer is full.
-/

import RNodeProtocol.CommandDecoderFrames

namespace RNodeProtocol

open ByteNumerals FramedInput

namespace CommandDecoder

/-- The payload bytes up to the given size are taken, and the byte after them is refused and
reported under its position, without any call before it in the frame. -/
structure SurplusRefused (registered : CommandSlot → Bool)
    (decoder : CommandDecoder (List CommandCall)) (header : UInt8) (size : Nat)
    (payload : List UInt8) : Prop where
  taken : ∀ earlier byte later, payload = earlier ++ byte :: later → earlier.length < size →
    ((machine.putAll decoder (header :: earlier)).put byte).2 = .ok
  refused : ∀ earlier byte later, payload = earlier ++ byte :: later → earlier.length = size →
    ((machine.putAll decoder (header :: earlier)).put byte).2 = .invalidLength ∧
      ((machine.putAll decoder (header :: earlier)).put byte).1.state = .abort ∧
      ((machine.putAll decoder (header :: earlier)).put byte).1.context =
        decoder.context ++ emit (registered .error)
          (.error (highNibble header) (lowNibble header) (UInt32.ofNat size) .invalidLength)

theorem opcodeLength_le_four {opcode : UInt8} (inRange : opcode.toNat < 16) {size : Nat}
    (length : rnodeProtoOpcodeLength opcode = size) : size ≤ 4 := by
  cases opcodeClass inRange with
  | unknown other _ _ => omega
  | streamed other _ => omega
  | fixed bound short other _ _ _ _ => omega

/-- As long as the buffer has room, a payload byte is taken. -/
theorem put_within {Ctx : Type} {decoder : CommandDecoder Ctx} (waiting : decoder.state = .wait)
    (header : UInt8) (earlier : List UInt8) (byte : UInt8) {size : Nat}
    (length : rnodeProtoOpcodeLength (lowNibble header) = size) (room : earlier.length < 4) :
    ((machine.putAll decoder (header :: earlier)).put byte).2 = .ok := by
  obtain ⟨_, buffer, _, final⟩ :=
    putAll_fixedHeader waiting header earlier length (Nat.le_of_lt room)
  have index : (machine.putAll decoder (header :: earlier)).payloadIndex < 4 := by
    rw [final]
    change (UInt32.ofNat earlier.length).toNat < 4
    rw [UInt32.toNat_ofNat_of_lt' (Nat.lt_trans room (by decide))]
    exact room
  rw [put_room (by rw [final]) byte index]

/-- Once the buffer is full, the next byte is refused and reported. -/
theorem Recorded.put_beyond {registered : CommandSlot → Bool} {answer : CommandAnswer}
    {decoder : CommandDecoder (List CommandCall)} (recorded : Recorded registered answer decoder)
    (waiting : decoder.state = .wait) (header : UInt8) (earlier : List UInt8) (byte : UInt8)
    {size : Nat} (length : rnodeProtoOpcodeLength (lowNibble header) = size)
    (full : earlier.length = 4) :
    ((machine.putAll decoder (header :: earlier)).put byte).2 = .invalidLength ∧
      ((machine.putAll decoder (header :: earlier)).put byte).1.state = .abort ∧
      ((machine.putAll decoder (header :: earlier)).put byte).1.context =
        decoder.context ++ emit (registered .error)
          (.error (highNibble header) (lowNibble header) 4 .invalidLength) := by
  obtain ⟨_, buffer, _, final⟩ :=
    putAll_fixedHeader waiting header earlier length (Nat.le_of_eq full)
  have kept := recorded_preserved.putAll _ (header :: earlier) recorded
  rw [full] at final
  have index : ¬ (machine.putAll decoder (header :: earlier)).payloadIndex < 4 := by
    rw [final]
    exact (by decide : ¬ UInt32.ofNat 4 < 4)
  have overflow := kept.put_full (by rw [final]) byte index
  rw [overflow, final]
  exact ⟨rfl, rfl, rfl⟩

theorem Recorded.surplusRefused_iff {registered : CommandSlot → Bool} {answer : CommandAnswer}
    {decoder : CommandDecoder (List CommandCall)} (recorded : Recorded registered answer decoder)
    (waiting : decoder.state = .wait) (header : UInt8) (payload : List UInt8) {size : Nat}
    (length : rnodeProtoOpcodeLength (lowNibble header) = size) :
    SurplusRefused registered decoder header size payload ↔
      size = 4 ∨ payload.length ≤ size := by
  have short := opcodeLength_le_four (lowNibble_lt header) length
  constructor
  · intro refuses
    by_contra neither
    rw [not_or, Nat.not_le] at neither
    obtain ⟨different, long⟩ := neither
    have split : payload = payload.take size ++ payload[size] :: payload.drop (size + 1) := by
      rw [← List.drop_eq_getElem_cons long, List.take_append_drop]
    have taken : (payload.take size).length = size := List.length_take_of_le (Nat.le_of_lt long)
    have accepted := put_within waiting header (payload.take size) payload[size] length (by omega)
    have refusal := (refuses.refused _ _ _ split taken).1
    rw [accepted] at refusal
    cases refusal
  · intro either
    constructor
    · intro earlier byte later _ before
      exact put_within waiting header earlier byte length (Nat.lt_of_lt_of_le before short)
    · intro earlier byte later split before
      rcases either with full | within
      · subst full
        exact recorded.put_beyond waiting header earlier byte length before
      · rw [split, List.length_append, List.length_cons] at within
        omega

/-- The first surplus byte of a command is refused exactly when its length is the buffer's, or
when there is none. -/
theorem reached_surplusRefused_iff (memory : CommandDecoder (List CommandCall))
    (registered : CommandSlot → Bool) (answer : CommandAnswer)
    (operations : List (Operation UInt8)) (header : UInt8) (payload : List UInt8) {size : Nat}
    (length : rnodeProtoOpcodeLength (lowNibble header) = size) :
    SurplusRefused registered (reached memory registered answer operations).start header size
        payload ↔ size = 4 ∨ payload.length ≤ size :=
  (reached_recorded memory registered answer operations).start.surplusRefused_iff rfl header
    payload length

/-- A bandwidth with a fifth byte, after an abandoned stream. -/
theorem reached_surplusRefused_bandwidth :
    SurplusRefused (fun _ => true)
      (reached (zeroed []) (fun _ => true) (fun _ _ => .ok) [.start, .put 0x10, .put 0x55]).start
      0x12 4 [0x00, 0x01, 0xE8, 0x48, 0x00] :=
  (reached_surplusRefused_iff _ _ _ [.start, .put 0x10, .put 0x55] 0x12
    [0x00, 0x01, 0xE8, 0x48, 0x00] rfl).mpr (.inl rfl)

/-- A transmit power with a surplus byte: taken without an error, and reported by the end under
the position after it. -/
theorem txpower_surplus_taken :
    rnodeProtoOpcodeLength (lowNibble 0x03) = 1 ∧
      ¬ SurplusRefused (fun _ => true)
        (reached (zeroed []) (fun _ => true) (fun _ _ => .ok) []).start 0x03 1 [0x05, 0x06] ∧
      machine.statuses (fresh (zeroed []) (fun _ => true) (fun _ _ => .ok))
        [.start, .put 0x03, .put 0x05, .put 0x06, .endFrame] =
          [none, some .ok, some .ok, some .ok, some .invalidLength] ∧
      (reached (zeroed []) (fun _ => true) (fun _ _ => .ok)
        [.start, .put 0x03, .put 0x05, .put 0x06, .endFrame]).context =
          [.error 0 3 2 .invalidLength] := by
  refine ⟨by decide, ?_, by decide, by decide⟩
  intro refuses
  have refusal := (refuses.refused [0x05] 0x06 [] rfl rfl).1
  revert refusal
  decide

end CommandDecoder

end RNodeProtocol
