import Feo.Construction.Socket.Connection
import Feo.Proof.Socket.Codec

namespace Feo.ByteStream

/-- The stream after one read that took the given number of bytes. -/
def next (stream : ByteStream) (space count : Nat) (answer : Bool) : ByteStream where
  wire := stream.wire.drop count
  script := stream.script.tail
  closed := stream.closed
  offers := space :: stream.offers
  answered := some answer

theorem read_blocked (stream : ByteStream) (space : Nat) (blocked : stream.limit space = none) :
    stream.read space = (.failed .wouldBlock, stream.next space 0 false) := by
  simp only [read, blocked]
  rfl

theorem read_idle (stream : ByteStream) (space limit : Nat)
    (limited : stream.limit space = some limit) (idle : stream.wire = [] ∧ stream.closed = false) :
    stream.read space = (.failed .wouldBlock, stream.next space 0 false) := by
  simp only [read, limited, if_pos idle]
  rfl

theorem read_data (stream : ByteStream) (space limit : Nat)
    (limited : stream.limit space = some limit)
    (busy : ¬ (stream.wire = [] ∧ stream.closed = false)) :
    ∃ fits, stream.read space =
      (.data (stream.wire.take (min limit space)) fits,
        stream.next space (min limit space) true) := by
  simp only [read, limited, if_neg busy]
  exact ⟨le_trans (List.length_take_le _ _) (min_le_right _ _), rfl⟩

/-- The stream limits each chunk to a positive number of bytes. -/
theorem limit_pos (stream : ByteStream) (space limit : Nat) (room : 0 < space)
    (limited : stream.limit space = some limit) : 0 < limit := by
  unfold ByteStream.limit at limited
  split at limited
  · cases limited
  · cases limited
    exact Nat.succ_pos _
  · cases limited
    exact room

end Feo.ByteStream

namespace Feo.Connection

open Foundation

section Indices

variable {Stream : Type}

theorem window_length (connection : Connection Stream) (inside : connection.recvEnd ≤ bufferSize) :
    connection.window.length = connection.recvEnd - connection.recvBegin := by
  have size := connection.recvBuffer.property
  simp only [window, List.length_drop, List.length_take]
  omega

theorem slice_eq (connection : Connection Stream)
    (ordered : connection.recvBegin ≤ connection.recvEnd)
    (inside : connection.recvEnd ≤ bufferSize) : connection.slice = .ok connection.window := by
  rw [slice, if_pos ⟨ordered, inside⟩]

/-- New bytes behind the received bytes extend the unparsed bytes. -/
theorem overwrite_window (buffer : {bytes : List UInt8 // bytes.length = bufferSize})
    (first last total : Nat) (bytes : List UInt8) (fits : last + bytes.length ≤ bufferSize)
    (ordered : first ≤ last) (sum : total = last + bytes.length) :
    ((overwrite buffer last bytes fits).val.take total).drop first =
      (buffer.val.take last).drop first ++ bytes := by
  subst sum
  have size := buffer.property
  have front : (buffer.val.take last).length = last := by
    rw [List.length_take]
    omega
  have kept : (buffer.val.take last ++ bytes ++ buffer.val.drop (last + bytes.length)).take
      (last + bytes.length) = buffer.val.take last ++ bytes :=
    List.take_left' (by rw [List.length_append, front])
  rw [overwrite, kept, List.drop_append_of_le_length (by omega)]

/-- The shift keeps the unparsed bytes and moves them to the front. -/
theorem shiftBuffer_eq (connection : Connection Stream)
    (ordered : connection.recvBegin ≤ connection.recvEnd)
    (inside : connection.recvEnd ≤ bufferSize) :
    ∃ shifted, connection.shiftBuffer = .ok shifted ∧ shifted.window = connection.window ∧
      shifted.recvBegin = 0 ∧ shifted.recvEnd ≤ bufferSize ∧
      shifted.stream = connection.stream ∧
      shifted.streamReadable = connection.streamReadable ∧
      shifted.bufferReadable = connection.bufferReadable := by
  have size := connection.window_length inside
  have fits : 0 + connection.window.length ≤ bufferSize := by omega
  have moved := overwrite_window connection.recvBuffer 0 0
    (connection.recvEnd - connection.recvBegin) connection.window fits (Nat.le_refl 0) (by omega)
  rw [shiftBuffer, connection.slice_eq ordered inside]
  simp only [bind, Except.bind, dif_pos fits]
  refine ⟨_, rfl, ?_, rfl, ?_, rfl, rfl, rfl⟩
  · exact moved
  · change connection.recvEnd - connection.recvBegin ≤ bufferSize
    omega

end Indices

variable {M : Type} [EncodeDecode M]

/-- The connection still owes the remaining messages to its reader, and holds a last fragment. -/
structure Owes (Valid : M → Prop) (fragment : List UInt8)
    (connection : Connection ByteStream) (remaining : List M) : Prop where
  ordered : connection.recvBegin ≤ connection.recvEnd
  inside : connection.recvEnd ≤ bufferSize
  shifted : connection.recvBegin ≤ bufferSize / 2
  valid : ∀ message ∈ remaining, Valid message
  fragmented : Fragment EncodeDecode.encode Valid fragment
  bytes : connection.window ++ connection.stream.wire =
    remaining.flatMap EncodeDecode.encode ++ fragment
  parsed : connection.bufferReadable = false →
    EncodeDecode.tryDecode (M := M) connection.window = .ok none
  blocked : connection.streamReadable = false → connection.stream.answered ≠ some true
  offered : ∀ offer ∈ connection.stream.offers, 0 < offer

variable {Valid : M → Prop} {fragment : List UInt8} {bound : Nat}

/-- A fresh connection owes all messages on the wire. -/
theorem new_owes (framing : Framing (EncodeDecode.tryDecode (M := M))
    EncodeDecode.encode Valid bound) (messages : List M)
    (valid : ∀ message ∈ messages, Valid message)
    (fragmented : Fragment EncodeDecode.encode Valid fragment) (script : List Chunk)
    (closed : Bool) :
    Owes Valid fragment
      (new ⟨messages.flatMap EncodeDecode.encode ++ fragment, script, closed, [], none⟩)
      messages where
  ordered := Nat.le_refl 0
  inside := Nat.zero_le _
  shifted := Nat.zero_le _
  valid := valid
  fragmented := fragmented
  bytes := rfl
  parsed _ := framing.empty
  blocked _ := by simp [new]
  offered := by simp [new]

theorem Owes.setStreamReadable {connection : Connection ByteStream} {remaining : List M}
    (owes : Owes Valid fragment connection remaining) :
    Owes Valid fragment connection.setStreamReadable remaining where
  ordered := owes.ordered
  inside := owes.inside
  shifted := owes.shifted
  valid := owes.valid
  fragmented := owes.fragmented
  bytes := owes.bytes
  parsed := owes.parsed
  blocked impossible := nomatch impossible
  offered := owes.offered

/-- A parsed connection behind the first frame owes the other messages. -/
theorem Owes.consumed {connection parsed : Connection ByteStream} {message : M} {rest : List M}
    (owes : Owes Valid fragment connection (message :: rest))
    (readable : connection.bufferReadable = true) (ordered : parsed.recvBegin ≤ parsed.recvEnd)
    (inside : parsed.recvEnd ≤ bufferSize) (shifted : parsed.recvBegin ≤ bufferSize / 2)
    (split : parsed.window ++ connection.stream.wire =
      rest.flatMap EncodeDecode.encode ++ fragment)
    (sameStream : parsed.stream = connection.stream)
    (sameFlag : parsed.streamReadable = connection.streamReadable)
    (sameBuffer : parsed.bufferReadable = connection.bufferReadable) :
    Owes Valid fragment parsed rest where
  ordered := ordered
  inside := inside
  shifted := shifted
  valid other member := owes.valid other (List.mem_cons_of_mem _ member)
  fragmented := owes.fragmented
  bytes := by
    rw [sameStream]
    exact split
  parsed impossible := by
    rw [sameBuffer, readable] at impossible
    cases impossible
  blocked := by
    rw [sameFlag, sameStream]
    exact owes.blocked
  offered := by
    rw [sameStream]
    exact owes.offered

/-- The parser either returns the first remaining message or finds no complete frame. -/
theorem Owes.parseFromBuffer (framing : Framing (EncodeDecode.tryDecode (M := M))
    EncodeDecode.encode Valid bound) {connection : Connection ByteStream}
    {remaining : List M} (owes : Owes Valid fragment connection remaining)
    (readable : connection.bufferReadable = true) :
    (connection.parseFromBuffer (M := M) =
        .ok (none, { connection with bufferReadable := false }) ∧
      EncodeDecode.tryDecode (M := M) connection.window = .ok none ∧
      connection.window.length ≤ bound) ∨
    ∃ message rest parsed, remaining = message :: rest ∧
      connection.parseFromBuffer = .ok (some message, parsed) ∧ Owes Valid fragment parsed rest ∧
      parsed.stream = connection.stream ∧
      parsed.streamReadable = connection.streamReadable := by
  have sliced := connection.slice_eq owes.ordered owes.inside
  have size := connection.window_length owes.inside
  rcases framing.decode_window owes.valid owes.fragmented owes.bytes with
    ⟨waits, short, -⟩ | ⟨message, rest, same, long, decoded, split⟩
  · left
    refine ⟨?_, waits, short⟩
    simp only [Connection.parseFromBuffer, sliced, bind, Except.bind, waits]
    rfl
  · right
    subst same
    let consumed : Connection ByteStream :=
      { connection with
        recvBegin := connection.recvBegin + (EncodeDecode.encode message).length }
    have consumedWindow : consumed.window =
        connection.window.drop (EncodeDecode.encode message).length := by
      simp only [consumed, window, List.drop_drop]
    have ordered : consumed.recvBegin ≤ consumed.recvEnd := by
      change connection.recvBegin + (EncodeDecode.encode message).length ≤ connection.recvEnd
      have := owes.ordered
      omega
    have parses : connection.parseFromBuffer (M := M) =
        if consumed.recvBegin > bufferSize / 2 then do
          return (some message, ← consumed.shiftBuffer)
        else return (some message, consumed) := by
      simp only [Connection.parseFromBuffer, sliced, bind, Except.bind, decoded]
      rfl
    rw [← consumedWindow] at split
    by_cases half : consumed.recvBegin > bufferSize / 2
    · obtain ⟨shifted, shifts, sameWindow, front, inside, sameStream, sameFlag, sameBuffer⟩ :=
        consumed.shiftBuffer_eq ordered owes.inside
      refine ⟨message, rest, shifted, rfl, ?_, ?_, sameStream, sameFlag⟩
      · rw [parses, if_pos half, shifts]
        rfl
      · rw [← sameWindow] at split
        exact owes.consumed readable (by rw [front]; exact Nat.zero_le _) inside
          (by rw [front]; exact Nat.zero_le _) split sameStream sameFlag sameBuffer
    · refine ⟨message, rest, consumed, rfl, ?_, ?_, rfl, rfl⟩
      · rw [parses, if_neg half]
        rfl
      · exact owes.consumed readable ordered owes.inside (Nat.le_of_not_gt half) split rfl rfl rfl

/-- The bytes of one read stand behind the received bytes. -/
def fill (connection : Connection ByteStream) (stream : ByteStream) (bytes : List UInt8)
    (fits : connection.recvEnd + bytes.length ≤ bufferSize) : Connection ByteStream :=
  { connection with
    stream := stream
    recvBuffer := overwrite connection.recvBuffer connection.recvEnd bytes fits
    recvEnd := connection.recvEnd + bytes.length
    bufferReadable := true }

/-- The stream answers with all pending bytes and its end before it blocks. -/
def reachesEnd : List Chunk → Nat → Bool
  | [], _ => true
  | .wouldBlock :: _, _ => false
  | .upTo limit :: rest, pending =>
      decide (pending = 0) || reachesEnd rest (pending - (limit + 1))

/-- The read loop takes every byte on the wire into the free space and meets the end. -/
def drains (stream : ByteStream) (space : Nat) : Bool :=
  decide (stream.wire.length < space) && reachesEnd stream.script stream.wire.length

/-- The next read loop ends with the reset of a closed connection. -/
def resets (connection : Connection ByteStream) : Bool :=
  connection.stream.closed && drains connection.stream (bufferSize - connection.recvEnd)

/-- An operation keeps the peer and wakes no stream, and a closed stream only sleeps when asked. -/
structure Advances (before after : Connection ByteStream) : Prop where
  closed : after.stream.closed = before.stream.closed
  scripts : after.stream.script <:+ before.stream.script
  sleeps : after.streamReadable = true → before.streamReadable = true
  awake : before.streamReadable = true → before.stream.closed = true →
    Chunk.wouldBlock ∉ before.stream.script → after.streamReadable = true

theorem Advances.trans {first second third : Connection ByteStream}
    (earlier : Advances first second) (later : Advances second third) : Advances first third where
  closed := later.closed.trans earlier.closed
  scripts := later.scripts.trans earlier.scripts
  sleeps flagged := earlier.sleeps (later.sleeps flagged)
  awake flagged closed never := by
    refine later.awake (earlier.awake flagged closed never) (earlier.closed.trans closed) ?_
    exact fun member => never (earlier.scripts.subset member)

/-- An operation that keeps the stream and its flag advances. -/
theorem Advances.of_eq {before after : Connection ByteStream}
    (stream : after.stream = before.stream)
    (flag : after.streamReadable = before.streamReadable) : Advances before after where
  closed := by rw [stream]
  scripts := by simp only [stream, List.suffix_rfl]
  sleeps flagged := by rw [← flag, flagged]
  awake flagged _ _ := by rw [flag, flagged]

/-- The read loop stops on a full buffer, on a blocked stream, or on a closed one. -/
inductive Stopped (before after : Connection ByteStream) : Except IoErrorKind Unit → Prop where
  | full (resets : before.resets = false) (full : after.recvEnd = bufferSize)
      (readable : after.bufferReadable = true) : Stopped before after (.ok ())
  | blocked (resets : before.resets = false) (blocked : after.streamReadable = false)
      (progress : after.stream.wire = [] ∨ Chunk.wouldBlock ∈ before.stream.script ∧
        after.stream.script.length < before.stream.script.length) : Stopped before after (.ok ())
  | reset (resets : before.resets = true) (readable : after.streamReadable = true)
      (drained : after.stream.wire = []) : Stopped before after (.error .connectionReset)

theorem readLoop_blocked (connection : Connection ByteStream) (stream : ByteStream)
    (rounds : Nat) (inside : connection.recvEnd ≤ bufferSize)
    (answer : connection.stream.read (bufferSize - connection.recvEnd) =
      (.failed .wouldBlock, stream)) :
    connection.readLoop (rounds + 1) =
      .ok (.ok (), { connection with stream := stream, streamReadable := false }) := by
  rw [readLoop, dif_pos inside]
  simp only [Read.read, answer]

theorem readLoop_reset (connection : Connection ByteStream) (stream : ByteStream)
    (rounds : Nat) (inside : connection.recvEnd ≤ bufferSize) (bytes : List UInt8)
    (empty : bytes = []) (fits : bytes.length ≤ bufferSize - connection.recvEnd)
    (answer : connection.stream.read (bufferSize - connection.recvEnd) =
      (.data bytes fits, stream)) :
    connection.readLoop (rounds + 1) =
      .ok (.error .connectionReset, { connection with stream := stream }) := by
  subst empty
  rw [readLoop, dif_pos inside]
  simp only [Read.read, answer]

theorem readLoop_data (connection : Connection ByteStream) (stream : ByteStream)
    (rounds : Nat) (inside : connection.recvEnd ≤ bufferSize) (bytes : List UInt8)
    (nonempty : bytes ≠ []) (fits : bytes.length ≤ bufferSize - connection.recvEnd)
    (answer : connection.stream.read (bufferSize - connection.recvEnd) =
      (.data bytes fits, stream)) :
    connection.readLoop (rounds + 1) =
      if (connection.fill stream bytes (by omega)).recvEnd = bufferSize then
        .ok (.ok (), connection.fill stream bytes (by omega))
      else (connection.fill stream bytes (by omega)).readLoop rounds := by
  cases bytes with
  | nil => exact absurd rfl nonempty
  | cons byte rest =>
      rw [readLoop, dif_pos inside]
      simp only [Read.read, answer]
      rfl

/-- A chunk that does not block takes bytes until the wire is empty or the buffer is full. -/
theorem drains_chunk (stream : ByteStream) (space limit : Nat)
    (limited : stream.limit space = some limit) (pending : stream.wire.length ≠ 0) :
    drains stream space =
      (decide (min (min limit space) stream.wire.length < space) &&
        drains (stream.next space (min limit space) true)
          (space - min (min limit space) stream.wire.length)) := by
  have left : (stream.next space (min limit space) true).wire.length =
      stream.wire.length - min limit space := List.length_drop
  have script : (stream.next space (min limit space) true).script = stream.script.tail := rfl
  rw [drains, drains, left, script]
  by_cases fits : stream.wire.length < space
  · rw [decide_eq_true fits, decide_eq_true (by omega), decide_eq_true (by omega),
      Bool.true_and, Bool.true_and, Bool.true_and]
    unfold ByteStream.limit at limited
    split at limited
    · cases limited
    · next wanted rest written =>
        cases limited
        have same : stream.wire.length - (wanted + 1) =
            stream.wire.length - min (wanted + 1) space := by omega
        rw [written, reachesEnd, decide_eq_false pending, Bool.false_or, same, List.tail_cons]
    · next written =>
        rw [written]
        rfl
  · rw [decide_eq_false fits, Bool.false_and]
    symm
    rw [Bool.and_eq_false_iff, Bool.and_eq_false_iff, decide_eq_false_iff_not,
      decide_eq_false_iff_not]
    omega

/-- An empty wire drains unless the stream blocks. -/
theorem drains_empty (stream : ByteStream) (space limit : Nat) (room : 0 < space)
    (limited : stream.limit space = some limit) (drained : stream.wire = []) :
    drains stream space = true := by
  rw [drains, drained, List.length_nil, decide_eq_true room, Bool.true_and]
  unfold ByteStream.limit at limited
  split at limited
  · cases limited
  · next written =>
      rw [written]
      rfl
  · next written =>
      rw [written]
      rfl

/-- A blocked stream does not drain. -/
theorem drains_blocked (stream : ByteStream) (space : Nat) (blocked : stream.limit space = none) :
    drains stream space = false ∧ stream.script.tail.length < stream.script.length ∧
      Chunk.wouldBlock ∈ stream.script := by
  unfold ByteStream.limit at blocked
  split at blocked
  · next written =>
      rw [drains, written]
      exact ⟨Bool.and_false _, Nat.lt_succ_self _, List.mem_cons_self⟩
  · cases blocked
  · cases blocked

/-- The bytes of a read keep the debt. -/
theorem Owes.fill {connection : Connection ByteStream} {remaining : List M}
    (owes : Owes Valid fragment connection remaining) (space count : Nat) (room : 0 < space)
    (flagged : connection.streamReadable = true)
    (fits : connection.recvEnd + (connection.stream.wire.take count).length ≤ bufferSize) :
    Owes Valid fragment (connection.fill (connection.stream.next space count true)
      (connection.stream.wire.take count) fits) remaining where
  ordered := Nat.le_trans owes.ordered (Nat.le_add_right _ _)
  inside := fits
  shifted := owes.shifted
  valid := owes.valid
  fragmented := owes.fragmented
  bytes := by
    rw [← owes.bytes]
    have window : (connection.fill (connection.stream.next space count true)
        (connection.stream.wire.take count) fits).window =
        connection.window ++ connection.stream.wire.take count :=
      overwrite_window connection.recvBuffer connection.recvBegin connection.recvEnd _ _ fits
        owes.ordered rfl
    rw [window, List.append_assoc]
    change _ ++ (_ ++ connection.stream.wire.drop count) = _
    rw [List.take_append_drop]
  parsed impossible := nomatch impossible
  blocked impossible := absurd (flagged.symm.trans impossible) (by decide)
  offered offer member := by
    rcases List.mem_cons.mp member with rfl | earlier
    · exact room
    · exact owes.offered offer earlier

/-- The answer of a blocked stream keeps the debt. -/
theorem Owes.block {connection : Connection ByteStream} {remaining : List M}
    (owes : Owes Valid fragment connection remaining) (space : Nat) (room : 0 < space) :
    Owes Valid fragment { connection with
      stream := connection.stream.next space 0 false
      streamReadable := false } remaining where
  ordered := owes.ordered
  inside := owes.inside
  shifted := owes.shifted
  valid := owes.valid
  fragmented := owes.fragmented
  bytes := owes.bytes
  parsed := owes.parsed
  blocked _ impossible := nomatch Option.some.inj impossible
  offered offer member := by
    rcases List.mem_cons.mp member with rfl | earlier
    · exact room
    · exact owes.offered offer earlier

/-- The end of the stream keeps the debt. -/
theorem Owes.reset {connection : Connection ByteStream} {remaining : List M}
    (owes : Owes Valid fragment connection remaining) (space count : Nat) (room : 0 < space)
    (flagged : connection.streamReadable = true) (drained : connection.stream.wire = []) :
    Owes Valid fragment { connection with stream := connection.stream.next space count true }
      remaining where
  ordered := owes.ordered
  inside := owes.inside
  shifted := owes.shifted
  valid := owes.valid
  fragmented := owes.fragmented
  bytes := by
    rw [← owes.bytes]
    change _ ++ connection.stream.wire.drop count = _
    rw [drained, List.drop_nil]
    rfl
  parsed := owes.parsed
  blocked impossible := absurd (flagged.symm.trans impossible) (by decide)
  offered offer member := by
    rcases List.mem_cons.mp member with rfl | earlier
    · exact room
    · exact owes.offered offer earlier

/-- A blocked answer advances the connection. -/
theorem block_advances (connection : Connection ByteStream) (space : Nat)
    (cause : Chunk.wouldBlock ∈ connection.stream.script ∨ connection.stream.closed = false) :
    Advances connection { connection with
      stream := connection.stream.next space 0 false
      streamReadable := false } where
  closed := rfl
  scripts := List.tail_suffix _
  sleeps impossible := nomatch impossible
  awake _ closed never := by
    rcases cause with member | opened
    · exact absurd member never
    · rw [opened] at closed
      cases closed

/-- A stop after some rounds is a stop of the whole loop. -/
theorem Stopped.of_later {before next after : Connection ByteStream}
    {outcome : Except IoErrorKind Unit} (stopped : Stopped next after outcome)
    (moved : Advances before next) (same : next.resets = before.resets) :
    Stopped before after outcome := by
  have shorter := moved.scripts.length_le
  cases stopped with
  | full resets full readable => exact .full (same ▸ resets) full readable
  | blocked resets blocked progress =>
      refine .blocked (same ▸ resets) blocked (progress.imp id ?_)
      exact fun less => ⟨moved.scripts.subset less.1, Nat.lt_of_lt_of_le less.2 shorter⟩
  | reset resets readable drained => exact .reset (same ▸ resets) readable drained

/-- The loop returns, keeps the debt, and stops for one of its three reasons. -/
def Ends (Valid : M → Prop) (fragment : List UInt8) (remaining : List M)
    (connection : Connection ByteStream)
    (run : Panicking (Except IoErrorKind Unit × Connection ByteStream)) : Prop :=
  ∃ outcome final, run = .ok (outcome, final) ∧ Owes Valid fragment final remaining ∧
    Advances connection final ∧ Stopped connection final outcome

/-- A blocked stream ends the loop. -/
theorem Owes.ends_blocked {connection : Connection ByteStream} {remaining : List M}
    (owes : Owes Valid fragment connection remaining) (rounds : Nat)
    (free : connection.recvEnd < bufferSize)
    (limited : connection.stream.limit (bufferSize - connection.recvEnd) = none) :
    Ends Valid fragment remaining connection (connection.readLoop (rounds + 1)) := by
  obtain ⟨undrained, progress, member⟩ := drains_blocked connection.stream _ limited
  refine ⟨_, _, readLoop_blocked _ _ rounds owes.inside
    (connection.stream.read_blocked _ limited), owes.block _ (Nat.sub_pos_of_lt free),
    block_advances _ _ (.inl member), .blocked ?_ rfl (.inr ⟨member, progress⟩)⟩
  rw [resets, undrained, Bool.and_false]

/-- An empty wire ends the loop: a closed stream resets, and an open one blocks. -/
theorem Owes.ends_drained {connection : Connection ByteStream} {remaining : List M}
    (owes : Owes Valid fragment connection remaining) (rounds : Nat)
    (free : connection.recvEnd < bufferSize) (flagged : connection.streamReadable = true)
    {limit : Nat}
    (limited : connection.stream.limit (bufferSize - connection.recvEnd) = some limit)
    (drained : connection.stream.wire = []) :
    Ends Valid fragment remaining connection (connection.readLoop (rounds + 1)) := by
  have room := Nat.sub_pos_of_lt free
  by_cases closed : connection.stream.closed = false
  · refine ⟨_, _, readLoop_blocked _ _ rounds owes.inside
      (connection.stream.read_idle _ limit limited ⟨drained, closed⟩),
      owes.block _ room, block_advances _ _ (.inr closed), .blocked ?_ rfl (.inl drained)⟩
    rw [resets, closed, Bool.false_and]
  · obtain ⟨fits, answer⟩ := connection.stream.read_data _ limit limited
      (fun idle => closed idle.2)
    refine ⟨_, _, readLoop_reset _ _ rounds owes.inside _ ?_ fits answer,
      owes.reset _ _ room flagged drained,
      ⟨rfl, List.tail_suffix _, fun same => same, fun same _ _ => same⟩, .reset ?_ flagged ?_⟩
    · rw [drained, List.take_nil]
    · rw [resets, Bool.eq_true_of_not_eq_false closed, Bool.true_and]
      exact drains_empty _ _ _ room limited drained
    · change connection.stream.wire.drop _ = []
      rw [drained, List.drop_nil]

/-- A round that reads bytes fills the buffer or leaves the rest to the next round. -/
theorem Owes.round {connection : Connection ByteStream} {remaining : List M}
    (owes : Owes Valid fragment connection remaining) (rounds : Nat)
    (free : connection.recvEnd < bufferSize) (flagged : connection.streamReadable = true)
    {limit : Nat}
    (limited : connection.stream.limit (bufferSize - connection.recvEnd) = some limit)
    (undrained : connection.stream.wire ≠ []) :
    ∃ next, connection.readLoop (rounds + 1) =
        (if next.recvEnd = bufferSize then .ok (.ok (), next) else next.readLoop rounds) ∧
      Owes Valid fragment next remaining ∧ Advances connection next ∧
      connection.recvEnd < next.recvEnd ∧ next.streamReadable = true ∧
      next.bufferReadable = true ∧
      connection.resets = (decide (next.recvEnd < bufferSize) && next.resets) := by
  have room := Nat.sub_pos_of_lt free
  have positive := connection.stream.limit_pos _ limit room limited
  obtain ⟨fits, answer⟩ := connection.stream.read_data _ limit limited
    (fun idle => undrained idle.1)
  have pending : connection.stream.wire.length ≠ 0 :=
    fun empty => undrained (List.length_eq_zero_iff.mp empty)
  have chunk := drains_chunk connection.stream _ limit limited pending
  generalize size : min limit (bufferSize - connection.recvEnd) = count at fits answer chunk
  have taken : (connection.stream.wire.take count).length =
      min count connection.stream.wire.length := List.length_take
  have nonempty : connection.stream.wire.take count ≠ [] := by
    intro empty
    rw [empty, List.length_nil] at taken
    omega
  have filled := owes.fill (bufferSize - connection.recvEnd) count room flagged (by omega)
  refine ⟨_, readLoop_data _ _ rounds owes.inside _ nonempty fits answer, filled,
    ⟨rfl, List.tail_suffix _, fun same => same, fun same _ _ => same⟩, ?_, flagged, rfl, ?_⟩
  · change _ < connection.recvEnd + (connection.stream.wire.take count).length
    omega
  · change connection.resets =
      (decide (connection.recvEnd + (connection.stream.wire.take count).length < bufferSize) &&
        (connection.stream.closed && drains _
          (bufferSize - (connection.recvEnd + (connection.stream.wire.take count).length))))
    rw [resets, chunk, ← taken, Nat.sub_sub, Bool.and_left_comm,
      decide_eq_decide.mpr Nat.lt_sub_iff_add_lt']
    rfl

/-- The read loop keeps the debt and stops for one of its three reasons. -/
theorem Owes.readLoop {remaining : List M} (rounds : Nat) :
    ∀ {connection : Connection ByteStream}, Owes Valid fragment connection remaining →
      connection.recvEnd < bufferSize → connection.streamReadable = true →
      bufferSize - connection.recvEnd ≤ rounds →
      Ends Valid fragment remaining connection (connection.readLoop rounds) := by
  induction rounds with
  | zero =>
      intro connection _ free _ enough
      omega
  | succ rounds hypothesis =>
      intro connection owes free flagged enough
      cases limited : connection.stream.limit (bufferSize - connection.recvEnd) with
      | none => exact owes.ends_blocked rounds free limited
      | some limit =>
          by_cases drained : connection.stream.wire = []
          · exact owes.ends_drained rounds free flagged limited drained
          · obtain ⟨next, loop, owed, moved, more, awake, readable, same⟩ :=
              owes.round rounds free flagged limited drained
            rw [loop]
            by_cases full : next.recvEnd = bufferSize
            · rw [if_pos full]
              refine ⟨_, _, rfl, owed, moved, .full ?_ full readable⟩
              rw [same, decide_eq_false (by omega), Bool.false_and]
            · rw [if_neg full]
              have inside := owed.inside
              rw [decide_eq_true (by omega), Bool.true_and] at same
              obtain ⟨outcome, final, run, kept, further, stopped⟩ :=
                hypothesis owed (by omega) awake (by omega)
              exact ⟨outcome, final, run, kept, moved.trans further,
                stopped.of_later moved same.symm⟩

/-- The next call of `read` finds no message in the buffer and the end of the stream behind it. -/
def Fails (M : Type) [EncodeDecode M] (connection : Connection ByteStream) : Prop :=
  connection.streamReadable = true ∧ connection.resets = true ∧
    EncodeDecode.tryDecode (M := M) connection.window = .ok none

/-- A call of `read` serves the next message, waits for the stream, or reports a reset. -/
inductive Served (Valid : M → Prop) (fragment : List UInt8)
    (before after : Connection ByteStream) :
    List M → Except IoErrorKind (Option M) → Prop where
  | message {message : M} {rest : List M} (owes : Owes Valid fragment after rest)
      (succeeds : ¬ before.Fails M) :
      Served Valid fragment before after (message :: rest) (.ok (some message))
  | nothing {remaining : List M} (owes : Owes Valid fragment after remaining)
      (succeeds : ¬ before.Fails M)
      (waits : EncodeDecode.tryDecode (M := M) after.window = .ok none)
      (blocked : after.streamReadable = false) (unreadable : after.bufferReadable = false)
      (progress : before.streamReadable = false ∧ after.stream = before.stream ∨
        after.stream.wire = [] ∨ Chunk.wouldBlock ∈ before.stream.script ∧
          after.stream.script.length < before.stream.script.length) :
      Served Valid fragment before after remaining (.ok none)
  | reset {remaining : List M} (owes : Owes Valid fragment after remaining)
      (fails : before.Fails M) (flagged : after.streamReadable = true)
      (drained : after.stream.wire = []) :
      Served Valid fragment before after remaining (.error .connectionReset)

/-- An attempt to parse serves a message or leaves the buffer without a complete frame. -/
theorem Owes.parseIfReadable (framing : Framing (EncodeDecode.tryDecode (M := M))
    EncodeDecode.encode Valid bound) {connection : Connection ByteStream}
    {remaining : List M} (owes : Owes Valid fragment connection remaining) :
    (∃ next, connection.parseIfReadable (M := M) = .ok (none, next) ∧
      next = { connection with bufferReadable := false } ∧ Owes Valid fragment next remaining ∧
      EncodeDecode.tryDecode (M := M) next.window = .ok none ∧
      next.window.length ≤ bound) ∨
    ∃ message rest next, remaining = message :: rest ∧
      connection.parseIfReadable = .ok (some message, next) ∧ Owes Valid fragment next rest ∧
      next.stream = connection.stream ∧ next.streamReadable = connection.streamReadable ∧
      EncodeDecode.tryDecode (M := M) connection.window ≠ .ok none := by
  have cleared (waits : EncodeDecode.tryDecode (M := M) connection.window = .ok none) :
      Owes Valid fragment { connection with bufferReadable := false } remaining :=
    { owes with parsed := fun _ => waits }
  cases readable : connection.bufferReadable with
  | false =>
      have waits := owes.parsed readable
      have short : connection.window.length ≤ bound := by
        rcases framing.decode_window owes.valid owes.fragmented owes.bytes with
          ⟨-, short, -⟩ | ⟨message, rest, -, -, decoded, -⟩
        · exact short
        · rw [waits] at decoded
          cases decoded
      have same : connection = { connection with bufferReadable := false } := by
        rw [← readable]
      refine .inl ⟨_, ?_, rfl, cleared waits, waits, short⟩
      rw [Connection.parseIfReadable, if_neg (by rw [readable]; decide), ← same]
  | true =>
      rw [Connection.parseIfReadable, if_pos readable]
      rcases owes.parseFromBuffer framing readable with
        ⟨parses, waits, short⟩ | ⟨message, rest, next, same, parses, owed, sameStream, sameFlag⟩
      · exact .inl ⟨_, parses, rfl, cleared waits, waits, short⟩
      · refine .inr ⟨message, rest, next, same, parses, owed, sameStream, sameFlag, ?_⟩
        intro waits
        have sliced := connection.slice_eq owes.ordered owes.inside
        simp only [Connection.parseFromBuffer, sliced, bind, Except.bind, waits] at parses
        cases parses

theorem read_parsed {connection next : Connection ByteStream} {message : M}
    (parses : connection.parseIfReadable = .ok (some message, next)) :
    connection.read = .ok (.ok (some message), next) := by
  rw [Connection.read, parses]
  rfl

theorem read_failed {connection parsed failed : Connection ByteStream} {kind : IoErrorKind}
    (parses : connection.parseIfReadable (M := M) = .ok (none, parsed))
    (reads : parsed.readIfReadable = .ok (.error kind, failed)) :
    connection.read (M := M) = .ok (.error kind, failed) := by
  rw [Connection.read, parses]
  simp only [bind, Except.bind, reads]
  rfl

theorem read_filled {connection parsed filled next : Connection ByteStream}
    {message : Option M}
    (parses : connection.parseIfReadable (M := M) = .ok (none, parsed))
    (reads : parsed.readIfReadable = .ok (.ok (), filled))
    (again : filled.parseIfReadable = .ok (message, next)) :
    connection.read = .ok (.ok message, next) := by
  rw [Connection.read, parses]
  simp only [bind, Except.bind, reads, again]
  rfl

/-- An unflagged stream is not read. -/
theorem read_unflagged {connection parsed : Connection ByteStream}
    (parses : connection.parseIfReadable (M := M) = .ok (none, parsed))
    (same : parsed = { connection with bufferReadable := false })
    (unflagged : parsed.streamReadable = false) :
    connection.read (M := M) = .ok (.ok none, parsed) := by
  have reads : parsed.readIfReadable = .ok (.ok (), parsed) := by
    rw [readIfReadable, unflagged]
    rfl
  have again : parsed.parseIfReadable (M := M) = .ok (none, parsed) := by
    rw [Connection.parseIfReadable, same]
    rfl
  exact read_filled parses reads again

/-- A full buffer that was parsed before has room for a complete frame. -/
theorem Owes.decodes_of_full (framing : Framing (EncodeDecode.tryDecode (M := M))
    EncodeDecode.encode Valid bound) (roomy : bound + bufferSize / 2 < bufferSize)
    {connection : Connection ByteStream} {remaining : List M}
    (owes : Owes Valid fragment connection remaining) (full : connection.recvEnd = bufferSize) :
    EncodeDecode.tryDecode (M := M) connection.window ≠ .ok none := by
  intro waits
  have size := connection.window_length owes.inside
  have shifted := owes.shifted
  rcases framing.decode_window owes.valid owes.fragmented owes.bytes with
    ⟨-, short, -⟩ | ⟨message, rest, -, -, decoded, -⟩
  · omega
  · rw [waits] at decoded
    cases decoded

/-- A call after a parse without a message reads the stream if it is flagged. -/
theorem Owes.read_unparsed (framing : Framing (EncodeDecode.tryDecode (M := M))
    EncodeDecode.encode Valid bound) (roomy : bound + bufferSize / 2 < bufferSize)
    {connection parsed : Connection ByteStream} {remaining : List M}
    (parses : connection.parseIfReadable (M := M) = .ok (none, parsed))
    (same : parsed = { connection with bufferReadable := false })
    (owes : Owes Valid fragment parsed remaining) (flagged : parsed.streamReadable = true)
    (waits : EncodeDecode.tryDecode (M := M) parsed.window = .ok none)
    (short : parsed.window.length ≤ bound) :
    ∃ result next, connection.read = .ok (result, next) ∧ Advances connection next ∧
      Served Valid fragment connection next remaining result := by
  have size := parsed.window_length owes.inside
  have ordered := owes.ordered
  have shifted := owes.shifted
  have sameStream : parsed.stream = connection.stream := by rw [same]
  have sameFlag : parsed.streamReadable = connection.streamReadable := by rw [same]
  have fails : connection.Fails M ↔ parsed.resets = true := by
    rw [same] at waits flagged ⊢
    exact ⟨fun fails => fails.2.1, fun resets => ⟨flagged, resets, waits⟩⟩
  obtain ⟨outcome, filled, run, debt, further, stopped⟩ :=
    owes.readLoop (bufferSize - parsed.recvEnd + 1) (by omega) flagged (by omega)
  have reads : parsed.readIfReadable = .ok (outcome, filled) := by
    rw [readIfReadable, if_pos flagged]
    exact run
  have advances := (Advances.of_eq sameStream sameFlag).trans further
  cases stopped with
  | reset resets readable drained =>
      exact ⟨_, filled, read_failed parses reads, advances,
        .reset debt (fails.mpr resets) readable drained⟩
  | full resets full readable =>
      have succeeds : ¬ connection.Fails M := by
        rw [fails, resets]
        decide
      rcases debt.parseIfReadable framing with
        ⟨next, -, same, -, waits, -⟩ | ⟨message, rest, next, rfl, again, owed, kept, flag, -⟩
      · rw [same] at waits
        exact absurd waits (debt.decodes_of_full framing roomy full)
      · exact ⟨_, next, read_filled parses reads again, advances.trans (.of_eq kept flag),
          .message owed succeeds⟩
  | blocked resets blocked progress =>
      have succeeds : ¬ connection.Fails M := by
        rw [fails, resets]
        decide
      rcases debt.parseIfReadable framing with
        ⟨next, again, rfl, owed, waits, -⟩ | ⟨message, rest, next, rfl, again, owed, kept, flag, -⟩
      · rw [sameStream] at progress
        exact ⟨_, _, read_filled parses reads again, advances.trans (.of_eq rfl rfl),
          .nothing owed succeeds waits blocked rfl (.inr progress)⟩
      · exact ⟨_, next, read_filled parses reads again, advances.trans (.of_eq kept flag),
          .message owed succeeds⟩

/-- Each call of `read` keeps the debt. -/
theorem Owes.read (framing : Framing (EncodeDecode.tryDecode (M := M))
    EncodeDecode.encode Valid bound) (roomy : bound + bufferSize / 2 < bufferSize)
    {connection : Connection ByteStream} {remaining : List M}
    (owes : Owes Valid fragment connection remaining) :
    ∃ result next, connection.read = .ok (result, next) ∧ Advances connection next ∧
      Served Valid fragment connection next remaining result := by
  rcases owes.parseIfReadable framing with
    ⟨parsed, parses, same, owed, waits, short⟩ |
    ⟨message, rest, next, rfl, parses, owed, sameStream, sameFlag, decodes⟩
  · cases flagged : parsed.streamReadable with
    | true => exact owed.read_unparsed framing roomy parses same flagged waits short
    | false =>
        have sameStream : parsed.stream = connection.stream := by rw [same]
        have sameFlag : connection.streamReadable = false := by
          rw [same] at flagged
          exact flagged
        have succeeds : ¬ connection.Fails M := by
          rw [Fails, sameFlag]
          exact fun impossible => nomatch impossible.1
        exact ⟨_, parsed, read_unflagged parses same flagged,
          .of_eq sameStream (flagged.trans sameFlag.symm),
          .nothing owed succeeds waits flagged (by rw [same]) (.inl ⟨sameFlag, sameStream⟩)⟩
  · exact ⟨.ok (some message), next, read_parsed parses, .of_eq sameStream sameFlag,
      .message owed fun fails => decodes fails.2.2⟩

end Feo.Connection
