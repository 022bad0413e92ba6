import Feo.Proof.Socket.Reassembly

namespace Feo.Connection

open Foundation

variable {M : Type} [EncodeDecode M] {Valid : M → Prop} {bound : Nat}

/-- Every reset among the results comes after all messages. -/
def ResetsLast (messages : List M)
    (results : List (Except IoErrorKind (Option M))) : Prop :=
  AtEach (fun front result => result = .error .connectionReset → delivered front = messages)
    results

/-- The call meets the end of the stream while there are bytes of unreturned messages. -/
def Loses (M : Type) [EncodeDecode M] (connection : Connection ByteStream) : Prop :=
  connection.window ++ connection.stream.wire ≠ [] ∧ connection.Fails M

/-- No scheduled call meets the end of the stream before all messages are returned. -/
def NeverLoses (M : Type) [EncodeDecode M] (connection : Connection ByteStream)
    (flags : List Bool) : Prop :=
  AtEach (fun front flag => ∀ results middle,
    connection.calls (M := M) front = .ok (results, middle) →
      ¬ Loses M (if flag then middle.setStreamReadable else middle)) flags

/-- A connection owes nothing exactly when it has no bytes left. -/
theorem Owes.paid_iff (framing : Framing (EncodeDecode.tryDecode (M := M))
    EncodeDecode.encode Valid bound) {connection : Connection ByteStream}
    {remaining : List M} (owes : Owes Valid [] connection remaining) :
    connection.window ++ connection.stream.wire = [] ↔ remaining = [] := by
  rw [owes.bytes, List.append_nil]
  cases remaining with
  | nil => simp
  | cons message rest =>
      have size := framing.nonempty message (owes.valid message List.mem_cons_self)
      have nonempty : EncodeDecode.encode message ≠ [] := List.length_pos_iff.mp size
      simp [nonempty]

/-- The calls on a connection deliver what it owes, and lose messages only at a losing call. -/
theorem Owes.calls_closed (framing : Framing (EncodeDecode.tryDecode (M := M))
    EncodeDecode.encode Valid bound) (roomy : bound + bufferSize / 2 < bufferSize)
    {connection : Connection ByteStream} {remaining : List M}
    (owes : Owes Valid [] connection remaining) (flags : List Bool) :
    ∃ results final rest, connection.calls flags = .ok (results, final) ∧
      remaining = delivered results ++ rest ∧ Owes Valid [] final rest ∧
      (ResetsLast remaining results ↔ NeverLoses M connection flags) := by
  induction flags using List.reverseRecOn with
  | nil =>
      refine ⟨[], connection, remaining, rfl, rfl, owes, ?_⟩
      rw [ResetsLast, NeverLoses]
      simp only [atEach_nil]
  | append_singleton flags flag hypothesis =>
      obtain ⟨results, middle, rest, run, order, owed, same⟩ := hypothesis
      obtain ⟨result, final, called, -, served⟩ := owed.call framing roomy flag
      have whole := calls_snoc run called
      have complete : delivered results = remaining ↔ rest = [] := by
        rw [order, List.self_eq_append_right]
      have flagged : Owes Valid [] (if flag then middle.setStreamReadable else middle) rest := by
        cases flag with
        | false => exact owed
        | true => exact owed.setStreamReadable
      have losing : Loses M (if flag then middle.setStreamReadable else middle) ↔
          rest ≠ [] ∧ Fails M (if flag then middle.setStreamReadable else middle) := by
        rw [Loses, Ne, flagged.paid_iff framing]
      have condition : NeverLoses M connection (flags ++ [flag]) ↔
          NeverLoses M connection flags ∧
            ¬ Loses M (if flag then middle.setStreamReadable else middle) := by
        rw [NeverLoses, NeverLoses, atEach_concat, run]
        refine and_congr_right fun _ => ⟨fun never => never results middle rfl, ?_⟩
        intro safe _ _ reached
        cases reached
        exact safe
      have step : ResetsLast remaining (results ++ [result]) ↔
          ResetsLast remaining results ∧
            (result = .error .connectionReset → delivered results = remaining) := by
        rw [ResetsLast, ResetsLast, atEach_concat]
      have extended (last : (result = .error .connectionReset → delivered results = remaining) ↔
          ¬ (rest ≠ [] ∧ Fails M (if flag then middle.setStreamReadable else middle))) :
          ResetsLast remaining (results ++ [result]) ↔
            NeverLoses M connection (flags ++ [flag]) := by
        rw [condition, losing, step, same, last]
      cases served with
      | message debt succeeds =>
          refine ⟨_, final, _, whole, ?_, debt, extended ?_⟩
          · rw [order, delivered_append, List.append_assoc]
            rfl
          · exact ⟨fun _ fails => succeeds fails.2, fun _ => by simp⟩
      | nothing debt succeeds =>
          refine ⟨_, final, rest, whole, ?_, debt, extended ?_⟩
          · rw [order, delivered_append]
            simp [delivered, Except.toOption]
          · exact ⟨fun _ fails => succeeds fails.2, fun _ => by simp⟩
      | reset debt fails =>
          refine ⟨_, final, rest, whole, ?_, debt, extended ?_⟩
          · rw [order, delivered_append]
            simp [delivered, Except.toOption]
          · rw [complete]
            exact ⟨fun paid lost => lost.1 (paid rfl), fun kept _ => by
              by_contra left
              exact kept ⟨left, fails⟩⟩

end Feo.Connection

namespace Feo.ProtocolSignal

open Connection Foundation

/-- A closed connection resets after all signals exactly when no call meets the end too early. -/
theorem closed_connection_complete_iff (signals : List ProtocolSignal)
    (valid : ∀ signal ∈ signals, signal.Known ∧ signal.Small) (script : List Chunk)
    (flags : List Bool) :
    ∃ results final,
      (new (sentStream signals script true)).calls flags = .ok (results, final) ∧
      (ResetsLast signals results ↔
        NeverLoses ProtocolSignal (new (sentStream signals script true)) flags) := by
  obtain ⟨results, final, rest, run, -, -, same⟩ :=
    (sentStream_owes signals valid script true).calls_closed framing (by decide) flags
  exact ⟨results, final, run, same⟩

/-- The first of two calls meets the end of a stream with one signal, unless the end is not there
yet when the signal is read. -/
theorem closed_connection_complete_one :
    (∃ results final,
      (new (sentStream [activityHello ⟨5⟩] [] true)).calls [true, true] = .ok (results, final) ∧
      (ResetsLast [activityHello ⟨5⟩] results ↔
        NeverLoses ProtocolSignal (new (sentStream [activityHello ⟨5⟩] [] true)) [true, true])) ∧
    ∃ final,
      (new (sentStream [activityHello ⟨5⟩] [.upTo 3, .wouldBlock, .upTo 99, .wouldBlock]
        true)).calls [true, true, true] =
          .ok ([.ok none, .ok (some (activityHello ⟨5⟩)), .error .connectionReset], final) ∧
      ResetsLast [activityHello ⟨5⟩]
        [.ok none, .ok (some (activityHello ⟨5⟩)), .error .connectionReset] ∧
      NeverLoses ProtocolSignal (new (sentStream [activityHello ⟨5⟩]
        [.upTo 3, .wouldBlock, .upTo 99, .wouldBlock] true)) [true, true, true] := by
  have valid : ∀ signal ∈ [activityHello ⟨5⟩], signal.Known ∧ signal.Small := by
    simp [Known, Small, duration?]
  refine ⟨closed_connection_complete_iff [activityHello ⟨5⟩] valid [] [true, true], ?_⟩
  obtain ⟨results, final, run, same⟩ := closed_connection_complete_iff [activityHello ⟨5⟩] valid
    [.upTo 3, .wouldBlock, .upTo 99, .wouldBlock] [true, true, true]
  have evaluated : ((new (sentStream [activityHello ⟨5⟩]
      [.upTo 3, .wouldBlock, .upTo 99, .wouldBlock] true)).calls [true, true, true]).map
        Prod.fst =
      .ok [.ok none, .ok (some (activityHello ⟨5⟩)), .error .connectionReset] := by
    rfl
  rw [run] at evaluated
  cases evaluated
  have last : ResetsLast [activityHello ⟨5⟩]
      [.ok none, .ok (some (activityHello ⟨5⟩)), .error .connectionReset] := by
    rw [ResetsLast, atEach_iff_getElem]
    decide
  exact ⟨final, run, last, same.mp last⟩

/-- A reset overtakes the only signal of a stream that closed behind it. -/
theorem closed_connection_loses_one :
    ¬ ∃ results final,
      (new (sentStream [activityHello ⟨5⟩] [] true)).calls [true, true] = .ok (results, final) ∧
      ResetsLast [activityHello ⟨5⟩] results := by
  rintro ⟨results, final, run, complete⟩
  have evaluated : ((new (sentStream [activityHello ⟨5⟩] [] true)).calls [true, true]).map
      Prod.fst = .ok [.error .connectionReset, .ok (some (activityHello ⟨5⟩))] := by
    rfl
  rw [run] at evaluated
  cases evaluated
  have empty := complete [] _ _ rfl rfl
  cases empty

end Feo.ProtocolSignal
