import RCanopus.ConnManager
import RCanopus.Delivery
import RCanopus.PeerConnection

/-!
# The listener thread

What `ConnManager::listener` does with a readable descriptor: it receives one message from a peer,
or it drains the pipe that the client on the leader writes to.

* `recvMessage_safe_iff`: which streams of a peer keep `recvMessage_caller_free_mem` in its buffer.
* `selfPipe_iff`: for how many waiting bytes the pipe is drained.
-/

namespace RCanopus

/-! ## One message -/

/-- How `recvMessage_caller_free_mem` ends. -/
inductive RecvMessageOutcome where
  | returned (t : WireFormat) (buffer : List UInt8) (conn : Connection)
  /-- `EXCEPTION_RECV` -/
  | exceptionRecv
  /-- `EXCEPTION_MESSAGE_INVALID_TYPE` -/
  | invalidType
  /-- A decoder accesses a field that is not in the buffer. -/
  | outOfBuffer

/-- The first bytes of the memory from a pointer on. -/
def firstBytes (n : Nat) (memory : Nat → UInt8) : List UInt8 := (List.range n).map memory

/--
`recvMessage_caller_free_mem`. The memory of `headerBuf` and of the payload holds anything before
it is filled. The result is `none` when one of the two calls of `PeerConnection::recv` does not end
within `fuel` iterations.
-/
def recvMessageCallerFreeMem (h : Endian) (fuel : Nat) (conn : Connection)
    (memory : Nat → UInt8) : Option RecvMessageOutcome :=
  match PeerConnection.recv fuel conn sizeofMessageHeader memory with
  | none => none
  | some .exceptionRecv => some .exceptionRecv
  | some (.returned headerBuf conn) =>
    match MessageHeaderBE.deserialize h (firstBytes sizeofMessageHeader headerBuf) with
    | none => some .outOfBuffer
    | some pHeader =>
      let extraLen := payloadLenAt h pHeader
      match PeerConnection.recv fuel conn extraLen memory with
      | none => none
      | some .exceptionRecv => some .exceptionRecv
      | some (.returned payload conn) =>
        match WireFormat.ofMsgType (msgTypeAt h pHeader) with
        | none => some .invalidType
        | some t =>
          match t.partialDeserialize h (pHeader ++ firstBytes extraLen payload) with
          | none => some .outOfBuffer
          | some buffer => some (.returned t buffer conn)

namespace Connection

variable (conn : Connection)

/-- The header that a stream begins with. -/
def header : List UInt8 := firstBytes sizeofMessageHeader conn.stream

/-- The length of the payload that the stream claims. -/
def payloadLen : Nat := payloadLenAt .big conn.header

/-- The bytes that the stream claims as one message. -/
def message : List UInt8 := firstBytes (sizeofMessageHeader + conn.payloadLen) conn.stream

/-- The struct of the type that the stream claims. -/
def messageFormat : Option WireFormat := WireFormat.ofMsgType (msgTypeAt .big conn.header)

/-- The claimed length covers the fixed fields of the type and the participants it lists. -/
def Covers (t : WireFormat) : Prop :=
  t.size + 2 * t.listed .big conn.message ≤ sizeofMessageHeader + conn.payloadLen

/--
The peer closes the connection inside the header, or inside the payload, which the second call of
`PeerConnection::recv` waits for.
-/
def ClosesInMessage (memory : Nat → UInt8) : Prop :=
  conn.ClosesBefore sizeofMessageHeader
    ∨ ∃ fuel headerBuf conn', PeerConnection.recv fuel conn sizeofMessageHeader memory
          = some (.returned headerBuf conn')
        ∧ conn'.ClosesBefore conn.payloadLen

end Connection

/--
A safe end: an exception, or a buffer as long as its header says, with the fixed fields and the
participants in it.
-/
def RecvMessageOutcome.Safe (h : Endian) : RecvMessageOutcome → Prop
  | .returned t buffer _ => buffer.length = messageSizeAt h buffer ∧ t.Holds h buffer
  | .exceptionRecv => True
  | .invalidType => True
  | .outOfBuffer => False

section

variable {h : Endian} {fuel : Nat} {conn : Connection} {memory : Nat → UInt8}

@[simp] theorem length_firstBytes (n : Nat) (memory : Nat → UInt8) :
    (firstBytes n memory).length = n := by
  simp [firstBytes]

/-- A longer beginning of the same stream. -/
theorem firstBytes_append (n k : Nat) (stream : Nat → UInt8) :
    firstBytes (n + k) stream = firstBytes n stream ++ firstBytes k fun i => stream (n + i) := by
  unfold firstBytes
  rw [List.range_add, List.map_append, List.map_map]
  rfl

theorem firstBytes_congr {n : Nat} {memory' : Nat → UInt8} (heq : ∀ i < n, memory i = memory' i) :
    firstBytes n memory = firstBytes n memory' :=
  List.map_congr_left fun i hi => heq i (List.mem_range.mp hi)

namespace Connection

@[simp] theorem length_header : conn.header.length = sizeofMessageHeader := length_firstBytes _ _

theorem header_within : ∀ f ∈ headerFields, f.Within conn.header :=
  WireFormat.headerFields_within (Nat.le_of_eq conn.length_header.symm)

/-- The payload follows the header on the stream. -/
theorem message_eq :
    conn.message = conn.header
      ++ firstBytes conn.payloadLen fun i => conn.stream (sizeofMessageHeader + i) :=
  firstBytes_append sizeofMessageHeader conn.payloadLen conn.stream

theorem length_message : conn.message.length = sizeofMessageHeader + conn.payloadLen :=
  length_firstBytes _ _

end Connection

/-- What `deserialize` reads of the header is what the stream claims. -/
theorem payloadLenAt_header :
    payloadLenAt h (turnFields h headerFields conn.header) = conn.payloadLen := by
  unfold Connection.payloadLen payloadLenAt
  rw [u32At_turnFields conn.header_within WireFormat.headerFields_disjoint (by decide)]

theorem ofMsgType_header :
    WireFormat.ofMsgType (msgTypeAt h (turnFields h headerFields conn.header))
      = conn.messageFormat := by
  unfold Connection.messageFormat msgTypeAt
  rw [(u16At_turnFields conn.header_within WireFormat.headerFields_disjoint (by decide)).2]

/-- Decoding the header first is decoding the whole message. -/
theorem decode_message (t : WireFormat) :
    t.decode h conn.message = t.partialDeserialize h (turnFields h headerFields conn.header
      ++ firstBytes conn.payloadLen fun i => conn.stream (sizeofMessageHeader + i)) := by
  have hlen : sizeofMessageHeader ≤ conn.message.length := by
    rw [conn.length_message]
    exact Nat.le_add_right _ _
  unfold WireFormat.decode
  rw [WireFormat.deserialize_eq (WireFormat.headerFields_within hlen), Option.bind_some,
    conn.message_eq, turnFields_append_right conn.header_within]

/-- What happens to the payload once both parts are there. -/
def decodePayload (h : Endian) (conn conn' : Connection) : RecvMessageOutcome :=
  match conn.messageFormat with
  | none => .invalidType
  | some t =>
    match t.decode h conn.message with
    | none => .outOfBuffer
    | some buffer => .returned t buffer conn'

/-- With the header received, the second call waits for the payload that the stream claims. -/
theorem recvMessage_header {headerBuf : Nat → UInt8} {conn' : Connection}
    (hheader : PeerConnection.recv fuel conn sizeofMessageHeader memory
      = some (.returned headerBuf conn')) :
    recvMessageCallerFreeMem h fuel conn memory
      = (PeerConnection.recv fuel conn' conn.payloadLen memory).map fun
        | .exceptionRecv => .exceptionRecv
        | .returned _ conn'' => decodePayload h conn conn'' := by
  obtain ⟨hbytes, -, hrest⟩ := recv_delivered hheader
  have hheaderBuf : firstBytes sizeofMessageHeader headerBuf = conn.header :=
    firstBytes_congr hbytes
  unfold recvMessageCallerFreeMem
  rw [hheader]
  dsimp only
  rw [hheaderBuf, WireFormat.deserialize_eq conn.header_within]
  dsimp only
  rw [payloadLenAt_header, ofMsgType_header]
  cases hpayload : PeerConnection.recv fuel conn' conn.payloadLen memory with
  | none => rfl
  | some r =>
    cases r with
    | exceptionRecv => rfl
    | returned payload conn'' =>
      obtain ⟨hbytes', -, -⟩ := recv_delivered hpayload
      dsimp only
      rw [firstBytes_congr hbytes', hrest, Option.map_some]
      unfold decodePayload
      cases conn.messageFormat with
      | none => rfl
      | some t =>
        dsimp only
        rw [decode_message]
        split <;> rfl

/-- Whenever the function ends, a part is missing or the claimed message was decoded. -/
theorem recvMessage_cases {r : RecvMessageOutcome}
    (hr : recvMessageCallerFreeMem h fuel conn memory = some r) :
    r = .exceptionRecv ∨ ∃ conn', r = decodePayload h conn conn' := by
  cases hheader : PeerConnection.recv fuel conn sizeofMessageHeader memory with
  | none =>
    unfold recvMessageCallerFreeMem at hr
    rw [hheader] at hr
    exact absurd hr (by simp)
  | some r' =>
    cases r' with
    | exceptionRecv =>
      unfold recvMessageCallerFreeMem at hr
      rw [hheader] at hr
      exact Or.inl (Option.some.inj hr).symm
    | returned headerBuf conn' =>
      rw [recvMessage_header hheader] at hr
      obtain ⟨r', -, rfl⟩ := Option.map_eq_some_iff.mp hr
      cases r' with
      | exceptionRecv => exact Or.inl rfl
      | returned payload conn'' => exact Or.inr ⟨conn'', rfl⟩

theorem decodePayload_ne_exceptionRecv (conn' : Connection) :
    decodePayload h conn conn' ≠ .exceptionRecv := by
  unfold decodePayload
  cases conn.messageFormat with
  | none => simp
  | some t =>
    dsimp only
    cases t.decode h conn.message <;> simp

/-- The decoders stay in the buffer exactly when it covers what they read. -/
theorem decodePayload_safe {conn' : Connection} :
    (decodePayload h conn conn').Safe h
      ↔ ∀ t, conn.messageFormat = some t → conn.Covers t := by
  unfold decodePayload
  cases hformat : conn.messageFormat with
  | none => simp [RecvMessageOutcome.Safe]
  | some t =>
    have hholds : t.Holds .big conn.message ↔ conn.Covers t := by
      unfold WireFormat.Holds Connection.Covers
      rw [conn.length_message]
    dsimp only
    cases hdecode : t.decode h conn.message with
    | none =>
      refine iff_of_false id fun hall => ?_
      rw [WireFormat.decode_eq (hholds.mpr (hall t rfl))] at hdecode
      exact absurd hdecode (by simp)
    | some buffer =>
      obtain ⟨hlen, hbuffer⟩ := WireFormat.holds_decode hdecode
      have hsafe : (RecvMessageOutcome.returned t buffer conn').Safe h ↔ conn.Covers t := by
        rw [← hholds, ← hbuffer]
        refine ⟨And.right, fun hin => ⟨?_, hin⟩⟩
        rw [WireFormat.decode_eq (hbuffer.mp hin)] at hdecode
        unfold messageSizeAt payloadLenAt
        rw [hlen, ← Option.some.inj hdecode, u32At_turnFields
          (WireFormat.fields_within (hbuffer.mp hin)) (WireFormat.fields_disjoint _ _ _),
          conn.length_message, conn.message_eq, u32At_append_right]
        · rfl
        · rw [conn.length_header]
          decide
        · refine List.mem_append_left _ (List.mem_append_left _ ?_)
          decide
      rw [hsafe]
      simp

/-- The two calls of `PeerConnection::recv` end unless the peer closes the connection. -/
theorem recvMessage_ends_iff :
    (∃ fuel r, recvMessageCallerFreeMem h fuel conn memory = some r)
      ↔ ¬ conn.ClosesInMessage memory := by
  constructor
  · rintro ⟨fuel, r, hr⟩ hcloses
    cases hheader : PeerConnection.recv fuel conn sizeofMessageHeader memory with
    | none =>
      unfold recvMessageCallerFreeMem at hr
      rw [hheader] at hr
      exact absurd hr (by simp)
    | some r' =>
      -- the peer closes before the header is there, or before the payload is
      rcases hcloses with hcloses | ⟨fuel', headerBuf, conn', hheader', hcloses⟩
      · exact (recv_ends_iff conn _ memory).mp ⟨fuel, r', hheader, recv_delivered hheader⟩ hcloses
      · have hsame : some r' = some (.returned headerBuf conn') := by
          rw [← recvLoop_more (Nat.le_max_left fuel fuel') hheader]
          exact recvLoop_more (Nat.le_max_right fuel fuel') hheader'
        rw [hsame] at hheader
        rw [recvMessage_header hheader] at hr
        obtain ⟨r'', hpayload, -⟩ := Option.map_eq_some_iff.mp hr
        exact (recv_ends_iff conn' _ memory).mp ⟨fuel, r'', hpayload, recv_delivered hpayload⟩
          hcloses
  · intro hopen
    obtain ⟨fuel, r, hheader, -⟩ :=
      (recv_ends_iff conn sizeofMessageHeader memory).mpr fun hcloses => hopen (Or.inl hcloses)
    cases r with
    | exceptionRecv =>
      refine ⟨fuel, .exceptionRecv, ?_⟩
      unfold recvMessageCallerFreeMem
      rw [hheader]
    | returned headerBuf conn' =>
      obtain ⟨fuel', r', hpayload, -⟩ := (recv_ends_iff conn' conn.payloadLen memory).mpr
        fun hcloses => hopen (Or.inr ⟨fuel, headerBuf, conn', hheader, hcloses⟩)
      have hmore : PeerConnection.recv (max fuel fuel') conn' conn.payloadLen memory = some r' :=
        recvLoop_more (Nat.le_max_right fuel fuel') hpayload
      have hboth := recvMessage_header (h := h)
        (recvLoop_more (Nat.le_max_left fuel fuel') hheader)
      rw [hmore, Option.map_some] at hboth
      exact ⟨_, _, hboth⟩

/--
**Receiving a message** stays in the buffer exactly when it throws, or when the claimed length
covers the fixed fields of the claimed type and the claimed participants. It ends exactly when the
peer does not close the connection inside the message.
-/
theorem recvMessage_safe_iff (h : Endian) (conn : Connection) (memory : Nat → UInt8) :
    (∀ fuel r, recvMessageCallerFreeMem h fuel conn memory = some r →
      (r.Safe h ↔ r = .exceptionRecv ∨ ∀ t, conn.messageFormat = some t → conn.Covers t))
    ∧ ((∃ fuel r, recvMessageCallerFreeMem h fuel conn memory = some r)
      ↔ ¬ conn.ClosesInMessage memory) := by
  refine ⟨fun fuel r hr => ?_, recvMessage_ends_iff⟩
  rcases recvMessage_cases hr with rfl | ⟨conn', rfl⟩
  · exact iff_of_true trivial (Or.inl rfl)
  · rw [decodePayload_safe]
    refine ⟨Or.inr, ?_⟩
    rintro (hexception | hcovers)
    · exact absurd hexception (decodePayload_ne_exceptionRecv conn')
    · exact hcovers

/-- A header that claims an empty payload for `MESSAGE_HELLO`. -/
def helloHeader : List UInt8 := [0, 1, 0, 1, 0, 0, 0, 0]

/-- A peer that sends it again and again. -/
def helloConnection : Connection where
  results := fun _ => 8
  stream := fun i => helloHeader.getD (i % 8) 0
  closed := fun _ _ _ hzero => absurd hzero (by decide)

/-- `BGid` and `SLid` are not in the buffer of 8 bytes. -/
theorem recvMessage_helloConnection :
    recvMessageCallerFreeMem .little 2 helloConnection (fun _ => 0) = some .outOfBuffer
      ∧ ¬ RecvMessageOutcome.outOfBuffer.Safe .little := ⟨rfl, id⟩

end

/-! ## The pipe of the leader -/

/-- The bytes in `leader_send_to_self_pipe`, and the queue of the dispatcher. -/
structure SelfPipe where
  pipe : List UInt8
  recvQueue : List QueueElement

/-- What `read` of the non-blocking pipe returns. -/
structure PipeRead where
  readsize : Int
  /-- `errno` is `EAGAIN`. -/
  again : Bool
  pipe : List UInt8

/-- `read`, with room for `PIPE_READ_BUFFER` bytes. -/
def readPipe (pipe : List UInt8) : PipeRead :=
  if pipe = [] then { readsize := -1, again := true, pipe := [] }
  else
    { readsize := (pipe.take pipeReadBuffer).length
      again := false
      pipe := pipe.drop pipeReadBuffer }

/-- How `listener` leaves the pipe. -/
inductive ListenOutcome where
  | ok (s : SelfPipe)
  /-- `EXCEPTION_RECV` -/
  | exceptionRecv (s : SelfPipe)

/--
The loop `do .. while(!finished)` that drains the pipe. An `ssize_t` and a `size_t` are compared as
`size_t`.
-/
def drainLoop : Nat → SelfPipe → Option ListenOutcome
  | 0, _ => none
  | fuel + 1, s =>
    let read := readPipe s.pipe
    let s := { s with pipe := read.pipe }
    let finished : Option Bool :=
      if read.readsize = -1 ∧ read.again then some true
      else if sizeOfInt read.readsize < pipeReadBuffer then some true
      else none
    match finished with
    | none => some (.exceptionRecv s)
    | some true => some (.ok s)
    | some false => drainLoop fuel s

/-- The element that wakes the dispatcher up. -/
def wakeUp : QueueElement where
  upPeers := [none]
  pMessage := .empty emptyMessage

/-- What `listener` does when the pipe is readable. -/
def listenSelfPipe (fuel : Nat) (s : SelfPipe) : Option ListenOutcome :=
  match drainLoop fuel s with
  | none => none
  | some (.exceptionRecv s) => some (.exceptionRecv s)
  | some (.ok s) => some (.ok { s with recvQueue := s.recvQueue ++ [wakeUp] })

/-- One tick of `mockClientOnLeader` writes the number of its cycle. -/
def SelfPipe.tick (h : Endian) (s : SelfPipe) (cycle : UInt16) : SelfPipe :=
  { s with pipe := s.pipe ++ u16Bytes h cycle }

/-- The pipe is drained, and one wake-up is queued. -/
def SelfPipe.Drained (s : SelfPipe) (o : ListenOutcome) : Prop :=
  o = .ok { pipe := [], recvQueue := s.recvQueue ++ [wakeUp] }

section

variable {s : SelfPipe}

/-- Every iteration finishes or throws. It throws when it has filled the buffer. -/
theorem drainLoop_succ (fuel : Nat) (s : SelfPipe) :
    drainLoop (fuel + 1) s
      = if s.pipe.length < pipeReadBuffer then some (.ok { s with pipe := [] })
        else some (.exceptionRecv { s with pipe := s.pipe.drop pipeReadBuffer }) := by
  unfold drainLoop readPipe
  by_cases hempty : s.pipe = []
  · rw [if_pos hempty, hempty]
    rfl
  · have hread : sizeOfInt ((s.pipe.take pipeReadBuffer).length : Int)
        = min pipeReadBuffer s.pipe.length := by
      rw [List.length_take]
      refine sizeOfInt_natCast ?_
      unfold pipeReadBuffer
      omega
    have hagain : ¬ (((s.pipe.take pipeReadBuffer).length : Int) = -1 ∧ false = true) :=
      fun hboth => Bool.noConfusion hboth.2
    rw [if_neg hempty]
    dsimp only
    rw [if_neg hagain, hread]
    by_cases hshort : s.pipe.length < pipeReadBuffer
    · rw [if_pos (by omega), if_pos hshort, List.drop_eq_nil_of_le (Nat.le_of_lt hshort)]
    · rw [if_neg (by omega), if_neg hshort]

theorem listenSelfPipe_short (fuel : Nat) (hshort : s.pipe.length < pipeReadBuffer) :
    listenSelfPipe (fuel + 1) s
      = some (.ok { pipe := [], recvQueue := s.recvQueue ++ [wakeUp] }) := by
  unfold listenSelfPipe
  rw [drainLoop_succ, if_pos hshort]

theorem listenSelfPipe_full (fuel : Nat) (hfull : pipeReadBuffer ≤ s.pipe.length) :
    listenSelfPipe (fuel + 1) s
      = some (.exceptionRecv { s with pipe := s.pipe.drop pipeReadBuffer }) := by
  unfold listenSelfPipe
  rw [drainLoop_succ, if_neg (Nat.not_lt.mpr hfull)]

/--
**The pipe is drained**, with one wake-up for all the bytes in it, exactly when they do not fill
the buffer.
-/
theorem selfPipe_iff (s : SelfPipe) :
    (∃ fuel o, listenSelfPipe fuel s = some o ∧ s.Drained o)
      ↔ s.pipe.length < pipeReadBuffer := by
  constructor
  · rintro ⟨fuel, o, hrun, hdrained⟩
    cases fuel with
    | zero => exact absurd hrun (by simp [listenSelfPipe, drainLoop])
    | succ fuel =>
      by_contra hfull
      rw [listenSelfPipe_full fuel (Nat.not_lt.mp hfull)] at hrun
      unfold SelfPipe.Drained at hdrained
      rw [hdrained] at hrun
      exact absurd hrun (by simp)
  · intro hshort
    exact ⟨1, _, listenSelfPipe_short 0 hshort, rfl⟩

/-- What `n` ticks leave in an empty pipe. -/
def ticks (h : Endian) (n : Nat) : SelfPipe :=
  (List.range n).foldl (fun s cycle => s.tick h (UInt16.ofNat (cycle + 1)))
    { pipe := [], recvQueue := [] }

theorem length_ticks (h : Endian) (n : Nat) : (ticks h n).pipe.length = 2 * n := by
  induction n with
  | zero => rfl
  | succ n ih =>
    have hsucc : ticks h (n + 1) = (ticks h n).tick h (UInt16.ofNat (n + 1)) := by
      unfold ticks
      rw [List.range_succ, List.foldl_append]
      rfl
    rw [hsucc]
    unfold SelfPipe.tick
    rw [List.length_append, length_u16Bytes, ih]
    omega

/-- After 32 ticks the listener throws instead. -/
theorem selfPipe_thirtyTwoTicks :
    (ticks .little 32).pipe.length = 64
      ∧ ¬ ∃ fuel o, listenSelfPipe fuel (ticks .little 32) = some o
        ∧ (ticks .little 32).Drained o := by
  have hlen := length_ticks .little 32
  refine ⟨hlen, ?_⟩
  rintro ⟨fuel, o, hrun, hdrained⟩
  cases fuel with
  | zero => exact absurd hrun (by simp [listenSelfPipe, drainLoop])
  | succ fuel =>
    rw [listenSelfPipe_full fuel (Nat.le_of_eq hlen.symm)] at hrun
    unfold SelfPipe.Drained at hdrained
    rw [hdrained] at hrun
    exact absurd hrun (by simp)

end

end RCanopus
