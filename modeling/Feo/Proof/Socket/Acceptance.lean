import Feo.Proof.Socket.Codec

namespace Feo

open Foundation

namespace SignalTag

/-- The size of the payload behind a tag. -/
def payloadSize : SignalTag → Nat
  | coreStartupSync | coreTerminate => sizeOfU128
  | coreStartup | coreStep | coreShutdown | coreReady => sizeOfU64 + sizeOfU128
  | coreActivityFailed => sizeOfU64 + sizeOfU8
  | _ => sizeOfU64

/-- The conversions accept a time of at most `u64::MAX` nanoseconds and a known error code. -/
def Readable (payload : List UInt8) : SignalTag → Prop
  | coreStartupSync | coreTerminate => fromLeBytes payload ≤ 2 ^ 64 - 1
  | coreStartup | coreStep | coreShutdown | coreReady =>
      fromLeBytes (payload.drop sizeOfU64) ≤ 2 ^ 64 - 1
  | coreActivityFailed => fromLeBytes (payload.drop sizeOfU64) ≤ 2
  | _ => True

instance (payload : List UInt8) : (tag : SignalTag) → Decidable (tag.Readable payload)
  | coreStartupSync | coreTerminate | coreStartup | coreStep | coreShutdown | coreReady
  | coreActivityFailed => inferInstanceAs (Decidable (_ ≤ _))
  | coreTerminateAck | connectorActivityHello | connectorChannelActivityHello
  | connectorChannelWorkerHello | connectorChannelAgentHello | connectorChannelRelayHello =>
      inferInstanceAs (Decidable True)

/-- A byte that is no tag is outside the table. -/
theorem tryFrom_unknown {value : UInt8} (unknown : ∀ tag : SignalTag, tag.toByte ≠ value) :
    tryFrom value = .error value := by
  have other (tag : SignalTag) : value ≠ tag.toByte := Ne.symm (unknown tag)
  simp only [tryFrom, if_neg (other _)]

end SignalTag

/-- The conversion of a valid number of this size can be undone, and any other number panics. -/
structure Converts {Item : Type} (size : Nat) (convert : Nat → Panicking Item)
    (write : Item → Nat) (valid : Nat → Prop) : Prop where
  reads : ∀ number < 256 ^ size, valid number →
    ∃ item, convert number = .ok item ∧ write item = number
  panics : ∀ number, ¬ valid number → ∃ message, convert number = .error message

theorem durationFromU128_converts :
    Converts sizeOfU128 durationFromU128 Duration.asNanos fun number => number ≤ 2 ^ 64 - 1 where
  reads number _ small := by
    refine ⟨Duration.fromNanos (UInt64.ofNat number), by rw [durationFromU128, if_pos small], ?_⟩
    change (UInt64.ofNat number).toNat = number
    rw [UInt64.toNat_ofNat']
    omega
  panics number large := ⟨_, durationFromU128_large number large⟩

/-- A wrapper of the item changes nothing. -/
theorem Converts.map {Item Wrapped : Type} {size : Nat} {convert : Nat → Panicking Item}
    {write : Item → Nat} {valid : Nat → Prop} (converts : Converts size convert write valid)
    (wrap : Item → Wrapped) (unwrap : Wrapped → Item)
    (inverse : ∀ item, unwrap (wrap item) = item) :
    Converts size (fun number => wrap <$> convert number) (fun wrapped => write (unwrap wrapped))
      valid where
  reads number small allowed := by
    obtain ⟨item, converted, written⟩ := converts.reads number small allowed
    exact ⟨wrap item, by rw [converted]; rfl, by rw [inverse, written]⟩
  panics number forbidden := by
    obtain ⟨message, converted⟩ := converts.panics number forbidden
    exact ⟨message, by rw [converted]; rfl⟩

theorem SyncInfo.fromU128_converts :
    Converts sizeOfU128 SyncInfo.fromU128 SyncInfo.toU128 fun number => number ≤ 2 ^ 64 - 1 :=
  durationFromU128_converts.map SyncInfo.mk SyncInfo.sinceEpoch fun _ => rfl

theorem Timestamp.fromU128_converts :
    Converts sizeOfU128 Timestamp.fromU128 Timestamp.toU128 fun number => number ≤ 2 ^ 64 - 1 :=
  durationFromU128_converts.map Timestamp.mk Timestamp.duration fun _ => rfl

theorem ActivityError.fromU8_converts :
    Converts sizeOfU8 ActivityError.fromU8 ActivityError.toU8 fun number => number ≤ 2 where
  reads number _ small := by
    match number with
    | 0 => exact ⟨.startup, rfl, rfl⟩
    | 1 => exact ⟨.step, rfl, rfl⟩
    | 2 => exact ⟨.shutdown, rfl, rfl⟩
  panics number large := by
    match number with
    | number + 3 => exact ⟨_, rfl⟩

theorem GenericId.fromU64_converts {Marker : Type} :
    Converts sizeOfU64 (@GenericId.fromU64 Marker) GenericId.toU64 fun _ => True where
  reads number small _ := by
    refine ⟨⟨UInt64.ofNat number⟩, rfl, ?_⟩
    have bound : number < 2 ^ 64 := small
    rw [GenericId.toU64, UInt64.toNat_ofNat']
    omega
  panics _ impossible := (impossible trivial).elim

namespace ProtocolSignal

/-- The payload behind the tag decodes to a signal with this frame, or the decoder panics. -/
def Decodes (tag : SignalTag) (payload : List UInt8) : Prop :=
  (tag.Readable payload → ∃ signal,
    decodePayload tag payload = .ok (some (signal, 2 + payload.length)) ∧ signal.tag = tag ∧
      signal.payload = payload) ∧
  (¬ tag.Readable payload → ∃ message, decodePayload tag payload = .error message)

variable {tag : SignalTag} {payload : List UInt8}

/-- A payload of one number decodes through its conversion. -/
theorem decodes_one {Item : Type} {size : Nat} {convert : Nat → Panicking Item}
    {write : Item → Nat} {valid : Nat → Prop} {wrap : Item → ProtocolSignal}
    (selected : decodePayload tag payload = decodeOne payload size convert wrap)
    (converts : Converts size convert write valid) (exactly : payload.length = size)
    (readable : tag.Readable payload ↔ valid (fromLeBytes payload))
    (tagged : ∀ item, (wrap item).tag = tag)
    (carried : ∀ item, (wrap item).payload = toLeBytes size (write item)) :
    Decodes tag payload := by
  have whole : payload.take size = payload := List.take_of_length_le (by omega)
  have bound := fromLeBytes_lt payload
  rw [exactly] at bound
  rw [Decodes, selected, readable, decodeOne, if_neg (by omega), whole]
  constructor
  · intro allowed
    obtain ⟨item, converted, written⟩ := converts.reads _ bound allowed
    refine ⟨wrap item, ?_, tagged item, ?_⟩
    · rw [converted, exactly]
      rfl
    · rw [carried, written, ← exactly, toLeBytes_fromLeBytes]
  · intro forbidden
    obtain ⟨message, converted⟩ := converts.panics _ forbidden
    exact ⟨message, by rw [converted]; rfl⟩

/-- A payload of an identifier and a second number decodes through the second conversion. -/
theorem decodes_pair {Marker Item : Type} {size : Nat} {convert : Nat → Panicking Item}
    {write : Item → Nat} {valid : Nat → Prop} {wrap : GenericId Marker → Item → ProtocolSignal}
    (selected : decodePayload tag payload =
      decodeTwo payload sizeOfU64 GenericId.fromU64 size convert wrap)
    (converts : Converts size convert write valid) (exactly : payload.length = sizeOfU64 + size)
    (readable : tag.Readable payload ↔ valid (fromLeBytes (payload.drop sizeOfU64)))
    (tagged : ∀ id item, (wrap id item).tag = tag)
    (carried : ∀ id item, (wrap id item).payload =
      toLeBytes sizeOfU64 id.toU64 ++ toLeBytes size (write item)) :
    Decodes tag payload := by
  have whole : payload.take (sizeOfU64 + size) = payload := List.take_of_length_le (by omega)
  have front : (payload.take sizeOfU64).length = sizeOfU64 := by
    rw [List.length_take, exactly]
    omega
  have back : (payload.drop sizeOfU64).length = size := by
    rw [List.length_drop, exactly]
    omega
  have low := fromLeBytes_lt (payload.take sizeOfU64)
  have high := fromLeBytes_lt (payload.drop sizeOfU64)
  rw [front] at low
  rw [back] at high
  obtain ⟨id, identified, numbered⟩ :=
    (@GenericId.fromU64_converts Marker).reads _ low trivial
  rw [Decodes, selected, readable, decodeTwo, if_neg (by omega)]
  simp only [whole, identified]
  constructor
  · intro allowed
    obtain ⟨item, converted, written⟩ := converts.reads _ high allowed
    refine ⟨wrap id item, ?_, tagged id item, ?_⟩
    · rw [converted, exactly, ← Nat.add_assoc]
      rfl
    · have first := toLeBytes_fromLeBytes (payload.take sizeOfU64)
      have second := toLeBytes_fromLeBytes (payload.drop sizeOfU64)
      rw [front] at first
      rw [back] at second
      rw [carried, numbered, written, first, second, List.take_append_drop]
  · intro forbidden
    obtain ⟨message, converted⟩ := converts.panics _ forbidden
    exact ⟨message, by rw [converted]; rfl⟩

/-- A payload of the exact size decodes to the signal that it encodes. -/
theorem decodePayload_exact (exactly : payload.length = tag.payloadSize) :
    Decodes tag payload := by
  cases tag with
  | coreStartupSync =>
      exact decodes_one rfl SyncInfo.fromU128_converts exactly Iff.rfl (fun _ => rfl) fun _ => rfl
  | coreTerminate =>
      exact decodes_one rfl Timestamp.fromU128_converts exactly Iff.rfl (fun _ => rfl) fun _ => rfl
  | coreStartup | coreStep | coreShutdown | coreReady =>
      exact decodes_pair rfl Timestamp.fromU128_converts exactly Iff.rfl (fun _ _ => rfl)
        fun _ _ => rfl
  | coreActivityFailed =>
      exact decodes_pair rfl ActivityError.fromU8_converts exactly Iff.rfl (fun _ _ => rfl)
        fun _ _ => rfl
  | _ =>
      exact decodes_one rfl GenericId.fromU64_converts exactly Iff.rfl (fun _ => rfl) fun _ => rfl

/-- A shorter payload panics. -/
theorem decodePayload_short (short : payload.length < tag.payloadSize) :
    decodePayload tag payload = .error "range end index out of range for slice" := by
  cases tag with
  | coreStartup | coreStep | coreShutdown | coreReady | coreActivityFailed => exact if_pos short
  | _ => exact if_pos short

/-- The decoder reads the declared payload behind a tag of its table. -/
theorem tryDecode_tag {length : UInt8} (known : tag ≠ .connectorChannelRelayHello)
    (complete : length.toNat ≤ payload.length) :
    tryDecode (tag.toByte :: length :: payload) =
      decodePayload tag (payload.take length.toNat) := by
  rw [tryDecode, if_neg (by omega), SignalTag.tryFrom_toByte tag known]

theorem tryDecode_unknown {typeId length : UInt8}
    (unknown : ∀ tag : SignalTag, tag.toByte ≠ typeId) (complete : length.toNat ≤ payload.length) :
    ∃ message, tryDecode (typeId :: length :: payload) = .error message := by
  rw [tryDecode, if_neg (by omega), SignalTag.tryFrom_unknown unknown]
  exact ⟨_, rfl⟩

theorem decodeOne_ne_none {Item : Type} {size : Nat} {convert : Nat → Panicking Item}
    {wrap : Item → ProtocolSignal} : decodeOne payload size convert wrap ≠ .ok none := by
  intro waits
  rw [decodeOne] at waits
  split at waits
  · cases waits
  · obtain ⟨item, _, same⟩ := bind_ok waits
    cases same

theorem decodeTwo_ne_none {First Second : Type} {firstSize secondSize : Nat}
    {convertFirst : Nat → Panicking First} {convertSecond : Nat → Panicking Second}
    {wrap : First → Second → ProtocolSignal} :
    decodeTwo payload firstSize convertFirst secondSize convertSecond wrap ≠ .ok none := by
  intro waits
  rw [decodeTwo] at waits
  split at waits
  · cases waits
  · obtain ⟨first, _, continued⟩ := bind_ok waits
    obtain ⟨second, _, same⟩ := bind_ok continued
    cases same

/-- The payload decoder never waits. -/
theorem decodePayload_ne_none : decodePayload tag payload ≠ .ok none := by
  cases tag with
  | coreStartup | coreStep | coreShutdown | coreReady | coreActivityFailed =>
      exact decodeTwo_ne_none
  | _ => exact decodeOne_ne_none

/-- The decoder waits exactly for the header and the declared bytes. -/
theorem tryDecode_none_iff (source : List UInt8) :
    tryDecode source = .ok none ↔
      source.length < 2 ∨ source.length < 2 + (source.getD 1 0).toNat := by
  rcases source with _ | ⟨typeId, _ | ⟨length, payload⟩⟩
  · exact iff_of_true rfl (.inl (by decide))
  · exact iff_of_true rfl (.inl (by simp))
  · change _ ↔ payload.length + 2 < 2 ∨ payload.length + 2 < 2 + length.toNat
    by_cases short : payload.length < length.toNat
    · exact iff_of_true (if_pos short) (by omega)
    · apply iff_of_false ?_ (by omega)
      rw [tryDecode, if_neg short]
      cases SignalTag.tryFrom typeId with
      | error other =>
          intro impossible
          cases impossible
      | ok tag => exact decodePayload_ne_none

/-- The decoder returns exactly the frame of the encoder, or it rejects the bytes by a panic. -/
theorem tryDecode_grammar (source : List UInt8) :
    (tryDecode source = .ok none ↔
      source.length < 2 ∨ source.length < 2 + (source.getD 1 0).toNat) ∧
    ∀ (typeId length : UInt8) (payload : List UInt8), source = typeId :: length :: payload →
      length.toNat ≤ payload.length →
        ((∀ tag : SignalTag, tag.toByte ≠ typeId) →
          ∃ message, tryDecode source = .error message) ∧
        ∀ tag : SignalTag, tag.toByte = typeId → tag ≠ .connectorChannelRelayHello →
          length.toNat ≤ tag.payloadSize →
            if length.toNat = tag.payloadSize ∧ tag.Readable (payload.take length.toNat) then
              ∃ signal, tryDecode source = .ok (some (signal, 2 + length.toNat)) ∧
                signal.encode = source.take (2 + length.toNat)
            else ∃ message, tryDecode source = .error message := by
  refine ⟨tryDecode_none_iff source, ?_⟩
  intro typeId length payload split complete
  subst split
  refine ⟨fun unknown => tryDecode_unknown unknown complete, ?_⟩
  intro tag same known bounded
  subst same
  have declared : (payload.take length.toNat).length = length.toNat := by
    rw [List.length_take]
    omega
  rw [tryDecode_tag known complete]
  by_cases exactly : length.toNat = tag.payloadSize
  · obtain ⟨reads, panics⟩ := decodePayload_exact (declared.trans exactly)
    by_cases readable : tag.Readable (payload.take length.toNat)
    · rw [if_pos ⟨exactly, readable⟩]
      obtain ⟨signal, decoded, tagged, carried⟩ := reads readable
      rw [declared] at decoded
      refine ⟨signal, decoded, ?_⟩
      rw [signal.encode_eq, tagged, carried, declared, UInt8.ofNat_toNat, Nat.add_comm]
      rfl
    · rw [if_neg fun both => readable both.2]
      exact panics readable
  · rw [if_neg fun both => exactly both.1]
    exact ⟨_, decodePayload_short (by omega)⟩

/-- The decoder does not panic, and it consumes exactly the frame of the returned signal. -/
def ExactlyFramed (source : List UInt8) : Prop :=
  (∃ decoded, tryDecode source = .ok decoded) ∧
    ∀ signal consumed, tryDecode source = .ok (some (signal, consumed)) →
      consumed = 2 + (source.getD 1 0).toNat ∧ signal.encode = source.take consumed

/-- The decoder panics on the tag zero. -/
theorem exactlyFramed_zero_fails : ¬ ExactlyFramed [0, 0] := by
  rintro ⟨⟨decoded, returned⟩, -⟩
  cases returned

end ProtocolSignal

end Feo
