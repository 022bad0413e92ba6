import Feo.Construction.Socket.Codec

namespace Feo

open Foundation

/-- The conversion of an encoded duration returns this duration or panics. -/
theorem durationFromU128_map {Item Result : Type} (duration : Duration) (make : Duration → Item)
    (wrap : Item → Result) :
    (make <$> durationFromU128 duration.asNanos).map wrap =
      (durationFromU128 duration.asNanos).map fun _ => wrap (make duration) := by
  by_cases small : duration.nanos ≤ 2 ^ 64 - 1
  · rw [durationFromU128_asNanos duration small]
    rfl
  · rw [durationFromU128_large duration.asNanos small]
    rfl

theorem Duration.asNanos_lt_u128 (duration : Duration) : duration.asNanos < 256 ^ sizeOfU128 :=
  lt_of_lt_of_le duration.fits (by decide)

theorem GenericId.toU64_lt {Marker : Type} (id : GenericId Marker) :
    id.toU64 < 256 ^ sizeOfU64 := by
  have bound := id.id.toNat_lt
  simpa [toU64, sizeOfU64] using bound

theorem ActivityError.toU8_lt (error : ActivityError) : error.toU8 < 256 ^ sizeOfU8 := by
  cases error <;> decide

/-- The number of an identifier survives the conversion in both directions. -/
@[simp] theorem GenericId.fromU64_toU64 {Marker : Type} (id : GenericId Marker) :
    GenericId.fromU64 id.toU64 = (.ok id : Panicking (GenericId Marker)) := by
  simp [GenericId.fromU64, GenericId.toU64]

@[simp] theorem ActivityError.fromU8_toU8 (error : ActivityError) :
    ActivityError.fromU8 error.toU8 = .ok error := by
  cases error <;> rfl

/-- Every tag except the hello of a relay is in the table. -/
theorem SignalTag.tryFrom_toByte (tag : SignalTag)
    (known : tag ≠ .connectorChannelRelayHello) : tryFrom tag.toByte = .ok tag := by
  cases tag <;> first | rfl | exact absurd rfl known

/-- The decoder of one item reads exactly its encoded number. -/
theorem decodeOne_encoded {Item : Type} (size value : Nat) (small : value < 256 ^ size)
    (convert : Nat → Panicking Item) (wrap : Item → ProtocolSignal) :
    decodeOne (toLeBytes size value) size convert wrap =
      (convert value).map fun item => some (wrap item, 2 + size) := by
  have whole : (toLeBytes size value).take size = toLeBytes size value := by
    rw [List.take_of_length_le (by simp)]
  rw [decodeOne, if_neg (by simp), whole, fromLeBytes_toLeBytes size value small]
  cases convert value <;> rfl

/-- The decoder of a pair reads exactly the two encoded numbers. -/
theorem decodeTwo_encoded {First Second : Type} (firstSize secondSize first second : Nat)
    (firstSmall : first < 256 ^ firstSize) (secondSmall : second < 256 ^ secondSize)
    (convertFirst : Nat → Panicking First) (convertSecond : Nat → Panicking Second)
    (wrap : First → Second → ProtocolSignal) :
    decodeTwo (toLeBytes firstSize first ++ toLeBytes secondSize second) firstSize convertFirst
        secondSize convertSecond wrap =
      (convertFirst first).bind fun one =>
        (convertSecond second).map fun two => some (wrap one two, 2 + firstSize + secondSize) := by
  have whole : (toLeBytes firstSize first ++ toLeBytes secondSize second).take
      (firstSize + secondSize) = toLeBytes firstSize first ++ toLeBytes secondSize second := by
    rw [List.take_of_length_le (by simp)]
  have front : (toLeBytes firstSize first ++ toLeBytes secondSize second).take firstSize =
      toLeBytes firstSize first := List.take_left' (by simp)
  have back : (toLeBytes firstSize first ++ toLeBytes secondSize second).drop firstSize =
      toLeBytes secondSize second := List.drop_left' (by simp)
  rw [decodeTwo, if_neg (by simp)]
  simp only [whole, front, back, fromLeBytes_toLeBytes _ _ firstSmall,
    fromLeBytes_toLeBytes _ _ secondSmall]
  cases convertFirst first <;> simp only [bind, Except.bind]
  cases convertSecond second <;> rfl

namespace ProtocolSignal

/-- A signal is known when its tag is in the table of the decoder. -/
def Known (signal : ProtocolSignal) : Prop := ∀ id, signal ≠ .channelHello (.relay id)

/-- This is the duration that a signal carries. -/
def duration? : ProtocolSignal → Option Duration
  | core (.startupSync info) => some info.sinceEpoch
  | core (.startup _ timestamp) => some timestamp.duration
  | core (.step _ timestamp) => some timestamp.duration
  | core (.shutdown _ timestamp) => some timestamp.duration
  | core (.ready _ timestamp) => some timestamp.duration
  | core (.terminate timestamp) => some timestamp.duration
  | _ => none

/-- The carried duration is at most `u64::MAX` nanoseconds. -/
def Small (signal : ProtocolSignal) : Prop :=
  ∀ duration, signal.duration? = some duration → duration.nanos ≤ 2 ^ 64 - 1

/-- The tag of the frame that the encoder writes. -/
def tag : ProtocolSignal → SignalTag
  | core (.startupSync _) => .coreStartupSync
  | core (.startup _ _) => .coreStartup
  | core (.step _ _) => .coreStep
  | core (.shutdown _ _) => .coreShutdown
  | core (.ready _ _) => .coreReady
  | core (.activityFailed _ _) => .coreActivityFailed
  | core (.terminate _) => .coreTerminate
  | core (.terminateAck _) => .coreTerminateAck
  | activityHello _ => .connectorActivityHello
  | channelHello (.activity _) => .connectorChannelActivityHello
  | channelHello (.worker _) => .connectorChannelWorkerHello
  | channelHello (.agent _) => .connectorChannelAgentHello
  | channelHello (.relay _) => .connectorChannelRelayHello

/-- Only the hello of a relay has the tag outside the table. -/
theorem tag_ne_relay (signal : ProtocolSignal) (known : signal.Known) :
    signal.tag ≠ .connectorChannelRelayHello := by
  intro relay
  rcases signal with signal | id | id
  · cases signal <;> cases relay
  · cases relay
  · cases id with
    | relay id => exact known id rfl
    | _ => cases relay

/-- The payload of the frame that the encoder writes. -/
def payload (signal : ProtocolSignal) : List UInt8 := signal.encode.drop 2

/-- The encoder writes the tag, the length of the payload, and the payload. -/
theorem encode_eq (signal : ProtocolSignal) :
    signal.encode = signal.tag.toByte :: UInt8.ofNat signal.payload.length :: signal.payload := by
  rcases signal with signal | id | id
  · cases signal <;> simp [encode, encodeData, payload, tag, sizeOfU64, sizeOfU128, sizeOfU8]
  · simp [encode, encodeData, payload, tag, sizeOfU64]
  · cases id <;> simp [encode, encodeData, payload, tag, sizeOfU64]

/-- The payload has at most 24 bytes. -/
theorem payload_length_le (signal : ProtocolSignal) : signal.payload.length ≤ 24 := by
  rcases signal with signal | id | id
  · cases signal <;> simp [encode, encodeData, payload, sizeOfU64, sizeOfU128, sizeOfU8]
  · simp [encode, encodeData, payload, sizeOfU64]
  · cases id <;> simp [encode, encodeData, payload, sizeOfU64]

theorem encode_length (signal : ProtocolSignal) :
    signal.encode.length = 2 + signal.payload.length := by
  rw [encode_eq, List.length_cons, List.length_cons]
  omega

/-- A payload of one number decodes through its conversion. -/
theorem decode_single {Item : Type} {signal : ProtocolSignal} {size value : Nat}
    {convert : Nat → Panicking Item} {wrap : Item → ProtocolSignal}
    (written : signal.payload = toLeBytes size value) (small : value < 256 ^ size) :
    decodeOne signal.payload size convert wrap =
      (convert value).map fun item => some (wrap item, 2 + signal.payload.length) := by
  rw [written, decodeOne_encoded size value small, toLeBytes_length]

/-- A payload of an identifier and a second number decodes through the second conversion. -/
theorem decode_pair {Marker Item : Type} {signal : ProtocolSignal} {id : GenericId Marker}
    {size value : Nat} {convert : Nat → Panicking Item}
    {wrap : GenericId Marker → Item → ProtocolSignal}
    (written : signal.payload = toLeBytes sizeOfU64 id.toU64 ++ toLeBytes size value)
    (small : value < 256 ^ size) :
    decodeTwo signal.payload sizeOfU64 GenericId.fromU64 size convert wrap =
      (convert value).map fun item => some (wrap id item, 2 + signal.payload.length) := by
  rw [written, decodeTwo_encoded sizeOfU64 size _ value id.toU64_lt small]
  simp only [GenericId.fromU64_toU64, Except.bind, List.length_append, toLeBytes_length,
    Nat.add_assoc]

/-- The payload decoder returns the encoded signal unless the duration is too large. -/
theorem decodePayload_encoded (signal : ProtocolSignal) :
    decodePayload signal.tag signal.payload =
      match signal.duration? with
      | none => .ok (some (signal, 2 + signal.payload.length))
      | some duration =>
          (durationFromU128 duration.asNanos).map fun _ =>
            some (signal, 2 + signal.payload.length) := by
  rcases signal with signal | id | id
  · cases signal with
    | startupSync info =>
        exact (decode_single rfl info.sinceEpoch.asNanos_lt_u128).trans
          (durationFromU128_map info.sinceEpoch SyncInfo.mk _)
    | startup id timestamp | shutdown id timestamp | step id timestamp | ready id timestamp =>
        exact (decode_pair rfl timestamp.duration.asNanos_lt_u128).trans
          (durationFromU128_map timestamp.duration Timestamp.mk _)
    | activityFailed id error =>
        refine (decode_pair rfl error.toU8_lt).trans ?_
        rw [ActivityError.fromU8_toU8]
        rfl
    | terminate timestamp =>
        exact (decode_single rfl timestamp.duration.asNanos_lt_u128).trans
          (durationFromU128_map timestamp.duration Timestamp.mk _)
    | terminateAck id =>
        refine (decode_single rfl id.toU64_lt).trans ?_
        rw [GenericId.fromU64_toU64]
        rfl
  · refine (decode_single rfl id.toU64_lt).trans ?_
    rw [GenericId.fromU64_toU64]
    rfl
  · cases id with
    | activity id | agent id | worker id | relay id =>
        refine (decode_single rfl id.toU64_lt).trans ?_
        rw [GenericId.fromU64_toU64]
        rfl

/-- The decoder passes the declared payload to the payload decoder of the tag. -/
theorem tryDecode_append (signal : ProtocolSignal) (rest : List UInt8) :
    tryDecode (signal.encode ++ rest) =
      match SignalTag.tryFrom signal.tag.toByte with
      | .ok tag => decodePayload tag signal.payload
      | .error other => .error ("failed to parse unknown type ID " ++ toString other.toNat) := by
  have size := signal.payload_length_le
  have declared : (UInt8.ofNat signal.payload.length).toNat = signal.payload.length := by
    rw [UInt8.toNat_ofNat']
    omega
  simp only [encode_eq, List.cons_append, tryDecode, declared, List.length_append, List.take_left]
  refine (if_neg (by omega)).trans ?_
  rfl

/-- The decoder waits on every proper prefix of a frame. -/
theorem tryDecode_front (signal : ProtocolSignal) (front : List UInt8)
    (isPrefix : front <+: signal.encode) (proper : front ≠ signal.encode) :
    tryDecode front = .ok none := by
  have size := signal.payload_length_le
  have declared : (UInt8.ofNat signal.payload.length).toNat = signal.payload.length := by
    rw [UInt8.toNat_ofNat']
    omega
  rw [encode_eq] at isPrefix proper
  rcases front with _ | ⟨first, _ | ⟨second, front⟩⟩
  · rfl
  · rfl
  · rw [List.cons_prefix_cons, List.cons_prefix_cons] at isPrefix
    obtain ⟨rfl, rfl, isPrefix⟩ := isPrefix
    have short : front.length < signal.payload.length := by
      refine lt_of_le_of_ne isPrefix.length_le ?_
      intro same
      exact proper (by rw [isPrefix.eq_of_length same])
    rw [tryDecode, declared, if_pos short]

/-- A known signal with a small duration is a frame. -/
theorem encode_isFrame (signal : ProtocolSignal) (known : signal.Known) (small : signal.Small) :
    IsFrame tryDecode signal.encode signal where
  complete rest := by
    rw [tryDecode_append, SignalTag.tryFrom_toByte _ (signal.tag_ne_relay known), encode_length]
    simp only [decodePayload_encoded]
    cases carried : signal.duration? with
    | none => rfl
    | some duration =>
        simp only [durationFromU128_asNanos duration (small duration carried)]
        rfl
  incomplete := signal.tryDecode_front

/-- The known signals with small durations have frames of at most 26 bytes. -/
theorem framing :
    Framing tryDecode encode (fun signal => signal.Known ∧ signal.Small) 26 where
  empty := rfl
  frame signal valid := signal.encode_isFrame valid.1 valid.2
  nonempty signal _ := by
    rw [encode_length]
    omega
  bounded signal _ := by
    have size := signal.payload_length_le
    rw [encode_length]
    omega

/-- The decoder panics on the hello of a relay. -/
theorem tryDecode_relay (id : RelayId) :
    tryDecode (channelHello (.relay id)).encode =
      .error ("failed to parse unknown type ID " ++ toString (36 : UInt8).toNat) := by
  rw [← List.append_nil (channelHello (.relay id)).encode, tryDecode_append]
  rfl

/-- The decoder panics on a duration above `u64::MAX` nanoseconds. -/
theorem tryDecode_large (signal : ProtocolSignal) (known : signal.Known) (duration : Duration)
    (carried : signal.duration? = some duration) (large : ¬ duration.nanos ≤ 2 ^ 64 - 1) :
    tryDecode signal.encode = .error "input value too large" := by
  rw [← List.append_nil signal.encode, tryDecode_append,
    SignalTag.tryFrom_toByte _ (signal.tag_ne_relay known)]
  simp only [decodePayload_encoded, carried, durationFromU128_large duration.asNanos large]
  rfl

/-- The round trip holds exactly for the known signals with small durations. -/
theorem roundTrip_iff (signal : ProtocolSignal) :
    ((∀ rest, tryDecode (signal.encode ++ rest) = .ok (some (signal, signal.encode.length))) ∧
        ∀ front, front <+: signal.encode → front ≠ signal.encode → tryDecode front = .ok none) ↔
      (∀ id, signal ≠ .channelHello (.relay id)) ∧
        ∀ duration, signal.duration? = some duration → duration.nanos ≤ 2 ^ 64 - 1 := by
  constructor
  · rintro ⟨complete, -⟩
    have decoded := complete []
    rw [List.append_nil] at decoded
    have known : signal.Known := by
      rintro id rfl
      rw [tryDecode_relay] at decoded
      cases decoded
    refine ⟨known, ?_⟩
    intro duration carried
    by_contra large
    rw [signal.tryDecode_large known duration carried large] at decoded
    cases decoded
  · rintro ⟨known, small⟩
    have framed := signal.encode_isFrame known small
    exact ⟨framed.complete, framed.incomplete⟩

/-- The hello of relay zero has no round trip. -/
theorem roundTrip_relay_fails :
    ¬ ((∀ rest, tryDecode ((channelHello (.relay ⟨0⟩)).encode ++ rest) =
          .ok (some (channelHello (.relay ⟨0⟩), (channelHello (.relay ⟨0⟩)).encode.length))) ∧
        ∀ front, front <+: (channelHello (.relay ⟨0⟩)).encode →
          front ≠ (channelHello (.relay ⟨0⟩)).encode → tryDecode front = .ok none) := by
  rintro ⟨complete, -⟩
  have decoded := complete []
  rw [List.append_nil, tryDecode_relay] at decoded
  cases decoded

end ProtocolSignal

end Feo
