import RCanopus.Network
import RCanopus.Listener
import Mathlib.Algebra.Order.BigOperators.Group.List

/-!
# The links between the servers

`sender()` writes one message after the other to the sockets, `PeerConnection::send` in as many
pieces as the operating system takes, and the listener at the other end receives them in as many
pieces as it gets. Between them there is a stream of bytes without any boundaries.

* `link_refines_send`: what arrives is what `Cluster.send` puts into the inbox, in that order.
-/

namespace RCanopus

/-! ## The sender thread -/

variable {Peer : Type} [DecidableEq Peer]

/-- The loop of `sender()` over the elements it takes from its two queues. -/
def senderLoop (h : Endian) (fuel : Nat) :
    List (RawQueueElement Peer) → SenderState Peer → Option (SenderState Peer)
  | [], s => some s
  | element :: rest, s =>
    (sender h fuel element s).bind fun s =>
      if s.status = .running then senderLoop h fuel rest s else some s

/-- The bytes for one peer among those that were sent. -/
def bytesFor (y : Peer) (sent : List (Peer × List UInt8)) : List UInt8 :=
  (sent.filter (·.1 = y)).flatMap Prod.snd

/-- The bytes that are on the socket to a peer. -/
def SenderState.socket (s : SenderState Peer) (y : Peer) : List UInt8 := bytesFor y s.sent

/-- What an element puts on the socket to a peer, when every call returns. -/
def RawQueueElement.bytesTo (h : Endian) (y : Peer) (e : RawQueueElement Peer) : List UInt8 :=
  bytesFor y (senderCalls h e).sends

/-- The copies of an element for a peer: one for each time that it is listed. -/
def RawQueueElement.copiesTo (h : Endian) (y : Peer) (e : RawQueueElement Peer) :
    List (List UInt8) :=
  (e.upPeers.filter (· = some y)).map fun _ => (e.clone h).pMessage

/-! ## Streams of messages -/

/-- The bytes are those of some messages, one behind the other. -/
inductive Frames (h : Endian) : List UInt8 → List (List UInt8) → Prop where
  | nil : Frames h [] []
  | cons {wire rest p : List UInt8} {messages : List (List UInt8)}
    (hwire : ∀ rest, recvMessage h (wire ++ rest) = some (p, rest))
    (hrest : Frames h rest messages) : Frames h (wire ++ rest) (p :: messages)

theorem Frames.append {h : Endian} {w w' : List UInt8} {l l' : List (List UInt8)}
    (hw : Frames h w l) (hw' : Frames h w' l') : Frames h (w ++ w') (l ++ l') := by
  induction hw with
  | nil => exact hw'
  | cons hwire _ ih =>
    rw [List.append_assoc, List.cons_append]
    exact .cons hwire ih

section Sending

variable {h : Endian} {fuel : Nat} {e : RawQueueElement Peer} {s s' : SenderState Peer} {y : Peer}
  {elements : List (RawQueueElement Peer)} {t : WireFormat}

theorem filter_sendToPeers (buffer : List UInt8) (peers : List (Option Peer)) (y : Peer) :
    (sendToPeers buffer peers).filter (·.1 = y)
      = (peers.filter (· = some y)).map fun _ => (y, buffer) := by
  induction peers with
  | nil => rfl
  | cons peer rest ih =>
    cases peer with
    | none => simp [sendToPeers, ih]
    | some q =>
      by_cases hq : q = y
      · subst hq
        simp [sendToPeers, ih]
      · simp [sendToPeers, ih, hq]

/-- What a well-formed element puts on a socket are its copies. -/
theorem frames_bytesTo (hwell : e.WellFormed h t) (y : Peer) :
    Frames h (e.bytesTo h y) (e.copiesTo h y) := by
  obtain ⟨wire, he, hrecv⟩ := senderCalls_eq hwell
  unfold RawQueueElement.bytesTo RawQueueElement.copiesTo bytesFor
  rw [he]
  dsimp only
  rw [filter_sendToPeers]
  induction e.upPeers.filter (· = some y) with
  | nil => exact .nil
  | cons _ _ ih => exact .cons hrecv ih

theorem frames_elements (hwell : ∀ e ∈ elements, ∃ t, e.WellFormed h t) (y : Peer) :
    Frames h (elements.flatMap (·.bytesTo h y)) (elements.flatMap (·.copiesTo h y)) := by
  induction elements with
  | nil => exact .nil
  | cons e rest ih =>
    obtain ⟨t, ht⟩ := hwell e List.mem_cons_self
    rw [List.flatMap_cons, List.flatMap_cons]
    exact (frames_bytesTo ht y).append (ih fun e he => hwell e (List.mem_cons_of_mem _ he))

theorem bytesFor_append (y : Peer) (sent sent' : List (Peer × List UInt8)) :
    bytesFor y (sent ++ sent') = bytesFor y sent ++ bytesFor y sent' := by
  unfold bytesFor
  rw [List.filter_append, List.flatMap_append]

/-- The sockets got some bytes, or a beginning of them when the thread does not run on. -/
structure Sent (s s' : SenderState Peer) (bytes : Peer → List UInt8) : Prop where
  all : s'.status = .running → ∀ y, s'.socket y = s.socket y ++ bytes y
  some : ∀ y, s'.socket y <+: s.socket y ++ bytes y

theorem Sent.trans {s'' : SenderState Peer} {bytes bytes' : Peer → List UInt8}
    (h : Sent s s' bytes) (hs' : s'.status = .running) (h' : Sent s' s'' bytes') :
    Sent s s'' fun y => bytes y ++ bytes' y where
  all := fun hs'' y => by rw [h'.all hs'', h.all hs', List.append_assoc]
  some := fun y => by
    rw [← List.append_assoc, ← h.all hs']
    exact h'.some y

/-- A beginning of what was to be sent. -/
theorem Sent.more {bytes : Peer → List UInt8} (h : Sent s s' bytes) (hs' : s'.status ≠ .running)
    (bytes' : Peer → List UInt8) : Sent s s' fun y => bytes y ++ bytes' y where
  all := fun hs => absurd hs hs'
  some := fun y => by
    rw [← List.append_assoc]
    exact (h.some y).trans (List.prefix_append _ _)

/-- What one call that did not return has put on a socket is a beginning of its buffer. -/
theorem Transmitted.bytesFor {sends sent : List (Peer × List UInt8)} {status : SenderStatus}
    (h : Transmitted sends sent status) (y : Peer) :
    RCanopus.bytesFor y sent <+: RCanopus.bytesFor y sends := by
  by_cases hs : status = .running
  · obtain rfl := h.all hs
    exact List.prefix_rfl
  · obtain ⟨done, pPeer, buffer, rest, written, rfl, rfl, hwritten⟩ := h.cut hs
    rw [bytesFor_append, bytesFor_append, List.prefix_append_right_inj]
    unfold RCanopus.bytesFor
    by_cases hy : pPeer = y
    · rw [List.filter_cons_of_pos (by simpa using hy), List.filter_cons_of_pos (by simpa using hy),
        List.filter_nil, List.flatMap_singleton, List.flatMap_cons]
      exact hwritten.trans (List.prefix_append _ _)
    · rw [List.filter_cons_of_neg (by simpa using hy)]
      exact List.nil_prefix

/-- What one iteration has put on the sockets. -/
theorem sender_socket (hwell : e.WellFormed h t) (hs : s.status = .running)
    (hrun : sender h fuel e s = some s') : Sent s s' (e.bytesTo h) := by
  obtain ⟨-, sent, hsent, htransmitted⟩ := sender_sent hwell hs hrun
  have hsocket : ∀ y, s'.socket y = s.socket y ++ bytesFor y sent := fun y => by
    unfold SenderState.socket
    rw [hsent, bytesFor_append]
  refine ⟨fun hstatus y => ?_, fun y => ?_⟩
  · rw [hsocket, htransmitted.all hstatus]
    rfl
  · rw [hsocket]
    exact (List.prefix_append_right_inj _).mpr (htransmitted.bytesFor y)

/-- The self copies of an element. -/
def RawQueueElement.ownCopies (h : Endian) (e : RawQueueElement Peer) :
    List (RawQueueElement Peer) :=
  if none ∈ e.upPeers then [{ e.clone h with upPeers := [none] }] else []

/-- What the thread has sent when it is through with some elements, or does not run on. -/
theorem senderLoop_sent (hwell : ∀ e ∈ elements, ∃ t, e.WellFormed h t) (hs : s.status = .running)
    (hrun : senderLoop h fuel elements s = some s') :
    Sent s s' (fun y => elements.flatMap (·.bytesTo h y))
      ∧ s'.recvQueue <+: s.recvQueue ++ elements.flatMap (·.ownCopies h)
      ∧ (s'.status = .running →
        s'.recvQueue = s.recvQueue ++ elements.flatMap (·.ownCopies h)) := by
  induction elements generalizing s with
  | nil =>
    obtain rfl := Option.some.inj hrun
    refine ⟨⟨fun _ y => (List.append_nil _).symm, fun y => List.prefix_append _ _⟩, ?_, fun _ => ?_⟩
    · exact List.prefix_append _ _
    · exact (List.append_nil _).symm
  | cons e rest ih =>
    obtain ⟨t, ht⟩ := hwell e List.mem_cons_self
    obtain ⟨wire, he, -⟩ := senderCalls_eq ht
    have hown : (senderCalls h e).recvQueue = e.ownCopies h := by rw [he]; rfl
    unfold senderLoop at hrun
    obtain ⟨s₁, hfirst, hrest⟩ := Option.bind_eq_some_iff.mp hrun
    have hsent : Sent s s₁ (e.bytesTo h) := sender_socket ht hs hfirst
    have hqueue : s₁.recvQueue = s.recvQueue ++ e.ownCopies h :=
      hown ▸ (sender_sent ht hs hfirst).1
    simp only [List.flatMap_cons]
    split at hrest
    · next hrunning =>
      obtain ⟨hsent', hpre, hall⟩ :=
        ih (fun e he => hwell e (List.mem_cons_of_mem _ he)) hrunning hrest
      refine ⟨hsent.trans hrunning hsent', ?_, fun hs' => ?_⟩
      · rw [← List.append_assoc, ← hqueue]
        exact hpre
      · rw [← List.append_assoc, ← hqueue]
        exact hall hs'
    · next hrunning =>
      obtain rfl := Option.some.inj hrest
      refine ⟨hsent.more hrunning _, ?_, fun hs' => absurd hs' hrunning⟩
      rw [hqueue, ← List.append_assoc]
      exact List.prefix_append _ _

/-- When every call sends something the thread gets through all elements. -/
theorem senderLoop_open (hwell : ∀ e ∈ elements, ∃ t, e.WellFormed h t) (hs : s.status = .running)
    (hopen : s.calls.Open)
    (hfuel : ∀ c ∈ elements.flatMap fun e => (senderCalls h e).sends, c.2.length < fuel) :
    ∃ s', senderLoop h fuel elements s = some s' ∧ s'.status = .running := by
  induction elements generalizing s with
  | nil => exact ⟨s, rfl, hs⟩
  | cons e rest ih =>
    obtain ⟨t, ht⟩ := hwell e List.mem_cons_self
    rw [List.flatMap_cons] at hfuel
    obtain ⟨s₁, hfirst, hstatus, hopen₁⟩ :=
      sender_open ht hopen fun c hc => hfuel c (List.mem_append_left _ hc)
    have hrunning : s₁.status = .running := hstatus.trans hs
    unfold senderLoop
    rw [hfirst, Option.bind_some, if_pos hrunning]
    exact ih (fun e he => hwell e (List.mem_cons_of_mem _ he)) hrunning hopen₁
      fun c hc => hfuel c (List.mem_append_right _ hc)

omit [DecidableEq Peer] in
/-- There is fuel for any buffers. -/
theorem exists_fuel (sends : List (Peer × List UInt8)) :
    ∃ fuel, ∀ c ∈ sends, c.2.length < fuel := by
  refine ⟨(sends.map fun c => c.2.length).sum + 1, fun c hc => Nat.lt_succ_of_le ?_⟩
  exact List.le_sum_of_mem (List.mem_map_of_mem hc)

end Sending

/-! ## The listener -/

/--
The listener receives some messages from one socket. The result is `none` when an exception stops
it, or when a call of `PeerConnection::recv` does not end within `fuel` iterations.
-/
def receiveMessages (h : Endian) (fuel : Nat) :
    Nat → Connection → (Nat → Nat → UInt8) → Option (List (List UInt8) × Connection)
  | 0, conn, _ => some ([], conn)
  | n + 1, conn, memory =>
    match recvMessageCallerFreeMem h fuel conn (memory 0) with
    | some (.returned _ buffer conn) =>
      (receiveMessages h fuel n conn fun k => memory (k + 1)).map fun r => (buffer :: r.1, r.2)
    | _ => none

namespace Connection

/-- The stream begins with some bytes. -/
def Starts (conn : Connection) (bytes : List UInt8) : Prop :=
  firstBytes bytes.length conn.stream = bytes

/-- There are never more than some bytes to receive. -/
def AtMost (conn : Connection) (bytes : Nat) : Prop := ∀ k, conn.got k ≤ bytes

/-- The calls neither fail nor find the connection closed. -/
def Open (conn : Connection) : Prop := ∀ i, 0 < conn.results i

variable {conn conn' : Connection} {n fuel received bytes : Nat} {dest dest' : Nat → UInt8}

/-- What is left of a stream. -/
theorem Starts.drop {w w' : List UInt8} (h : conn.Starts (w ++ w'))
    (hconn : conn'.stream = fun i => conn.stream (w.length + i)) :
    conn.Starts w ∧ conn'.Starts w' := by
  unfold Starts at h ⊢
  rw [List.length_append, firstBytes_append] at h
  obtain ⟨hw, hw'⟩ := List.append_inj h (length_firstBytes _ _)
  rw [hconn]
  exact ⟨hw, hw'⟩

theorem Open.advance (h : conn.Open) (k : Nat) : (conn.advance k).Open := fun i => h (i + 1)

/-- What the loop has taken was there, and is not there any more. -/
theorem AtMost.recvLoop (h : conn.AtMost bytes) (hle : received ≤ n)
    (hloop : recvLoop n fuel conn received dest = some (.returned dest' conn')) :
    n - received ≤ bytes ∧ conn'.AtMost (bytes - (n - received)) := by
  induction fuel generalizing conn received dest bytes with
  | zero => exact absurd hloop (by simp [RCanopus.recvLoop])
  | succ fuel ih =>
    rcases Nat.lt_or_ge received n with hlt | hge
    · rcases lt_or_ge (conn.results 0) 0 with hneg | hpos
      · rw [recvLoop_error hlt hneg] at hloop
        exact absurd hloop (by simp)
      · rw [recvLoop_next fuel dest hlt hpos rfl] at hloop
        generalize hk : min (conn.results 0).toNat (n - received) = k at hloop
        have hfirst : (conn.results 0).toNat ≤ bytes := by
          simpa [got, List.range_succ] using h 1
        have hrest : (conn.advance k).AtMost (bytes - k) := fun j => by
          have := conn.got_succ k j
          have := h (j + 1)
          omega
        obtain ⟨hle', hmost⟩ := ih hrest (by omega) hloop
        refine ⟨by omega, ?_⟩
        rwa [show bytes - (n - received) = bytes - k - (n - (received + k)) by omega]
    · rw [recvLoop_full hge] at hloop
      obtain ⟨-, rfl⟩ := RecvOutcome.returned.inj (Option.some.inj hloop)
      rw [show n - received = 0 by omega]
      exact ⟨Nat.zero_le _, h⟩

/-- On an open connection the loop returns. -/
theorem Open.recvLoop {r : RecvOutcome} (h : conn.Open)
    (hloop : recvLoop n fuel conn received dest = some r) :
    ∃ dest' conn', r = .returned dest' conn' ∧ conn'.Open := by
  induction fuel generalizing conn received dest with
  | zero => exact absurd hloop (by simp [RCanopus.recvLoop])
  | succ fuel ih =>
    rcases Nat.lt_or_ge received n with hlt | hge
    · rw [recvLoop_next fuel dest hlt (Int.le_of_lt (h 0)) rfl] at hloop
      exact ih (h.advance _) hloop
    · rw [recvLoop_full hge] at hloop
      exact ⟨dest, conn, (Option.some.inj hloop).symm, h⟩

theorem Open.not_closesBefore (h : conn.Open) (n : Nat) : ¬ conn.ClosesBefore n := by
  rintro ⟨k, -, hclosed, -⟩
  exact absurd (h k) (by rw [hclosed]; exact lt_irrefl _)

end Connection

section Receiving

variable {h : Endian} {fuel : Nat} {conn conn' : Connection} {memory : Nat → UInt8}
  {buffer p w wire : List UInt8} {t : WireFormat} {messages buffers : List (List UInt8)}

/-- What follows on the socket does not matter. -/
theorem recvMessage_append {rest : List UInt8} (hp : recvMessage h w = some (p, rest))
    (more : List UInt8) : recvMessage h (w ++ more) = some (p, rest ++ more) := by
  have hrecv : ∀ {n : Nat} {s a b : List UInt8}, recv n s = some (a, b) →
      recv n (s ++ more) = some (a, b ++ more) := fun {n s a b} hs => by
    unfold recv at hs ⊢
    split at hs
    · next hle =>
      obtain ⟨rfl, rfl⟩ := Prod.mk.inj (Option.some.inj hs)
      rw [if_pos (by rw [List.length_append]; omega), List.take_append_of_le_length hle,
        List.drop_append_of_le_length hle]
    · exact absurd hs (by simp)
  unfold recvMessage at hp ⊢
  simp only [Option.bind_eq_bind, Option.bind_eq_some_iff, Option.pure_def] at hp ⊢
  obtain ⟨⟨headerBuf, s⟩, hheader, pHeader, hdes, ⟨payload, s'⟩, hpayload, t, ht, b, hb, hres⟩ := hp
  refine ⟨_, hrecv hheader, pHeader, hdes, _, hrecv hpayload, t, ht, b, hb, ?_⟩
  simp only [Option.some.injEq, Prod.mk.injEq] at hres ⊢
  exact ⟨hres.1, by rw [hres.2]⟩

/-- The bytes of a whole message on a stream. -/
theorem recvMessage_message :
    recvMessage h conn.message
      = (conn.messageFormat.bind fun t => t.decode h conn.message).map fun b => (b, []) := by
  have hmessage := conn.message_eq
  have hdecoded := @decode_message h conn
  have hlen : (firstBytes conn.payloadLen fun i =>
      conn.stream (sizeofMessageHeader + i)).length = conn.payloadLen := length_firstBytes _ _
  generalize (firstBytes conn.payloadLen fun i => conn.stream (sizeofMessageHeader + i)) = rest
    at hmessage hdecoded hlen
  have hfirst : recv sizeofMessageHeader conn.message = some (conn.header, rest) := by
    unfold recv
    rw [if_pos (by rw [conn.length_message]; omega), hmessage, ← conn.length_header,
      List.take_left, List.drop_left]
  have hsecond : recv conn.payloadLen rest = some (rest, []) := by
    unfold recv
    rw [← hlen, if_pos (Nat.le_refl _), List.take_length, List.drop_length]
  unfold recvMessage
  simp only [Option.bind_eq_bind, hfirst, Option.bind_some,
    WireFormat.deserialize_eq conn.header_within, payloadLenAt_header, hsecond,
    ofMsgType_header, ← hdecoded]
  cases conn.messageFormat with
  | none => rfl
  | some t =>
    rw [Option.bind_some, Option.bind_some]
    cases t.decode h conn.message with
    | none => rfl
    | some b => rfl

theorem decodePayload_returned {conn₂ : Connection}
    (hr : decodePayload h conn conn₂ = .returned t buffer conn') :
    conn' = conn₂ ∧ recvMessage h conn.message = some (buffer, []) := by
  rw [recvMessage_message]
  unfold decodePayload at hr
  cases hformat : conn.messageFormat with
  | none =>
    rw [hformat] at hr
    exact absurd hr (by simp)
  | some t' =>
    rw [hformat] at hr
    dsimp only at hr
    cases hdecode : t'.decode h conn.message with
    | none =>
      rw [hdecode] at hr
      exact absurd hr (by simp)
    | some b =>
      rw [hdecode] at hr
      obtain ⟨-, rfl, rfl⟩ := RecvMessageOutcome.returned.inj hr
      exact ⟨rfl, by rw [Option.bind_some, hdecode]; rfl⟩

/-- The two calls of `PeerConnection::recv` behind a message that was returned. -/
theorem recvMessage_calls
    (hr : recvMessageCallerFreeMem h fuel conn memory = some (.returned t buffer conn')) :
    ∃ headerBuf payload conn₁,
      PeerConnection.recv fuel conn sizeofMessageHeader memory = some (.returned headerBuf conn₁)
      ∧ PeerConnection.recv fuel conn₁ conn.payloadLen memory = some (.returned payload conn')
      ∧ recvMessage h conn.message = some (buffer, []) := by
  cases hheader : PeerConnection.recv fuel conn sizeofMessageHeader memory with
  | none =>
    unfold recvMessageCallerFreeMem at hr
    rw [hheader] at hr
    exact absurd hr (by simp)
  | some r =>
    cases r with
    | exceptionRecv =>
      unfold recvMessageCallerFreeMem at hr
      rw [hheader] at hr
      exact absurd hr (by simp)
    | returned headerBuf conn₁ =>
      rw [recvMessage_header hheader] at hr
      obtain ⟨r, hpayload, hr⟩ := Option.map_eq_some_iff.mp hr
      cases r with
      | exceptionRecv => exact absurd hr (by simp)
      | returned payload conn₂ =>
        obtain ⟨rfl, hdecode⟩ := decodePayload_returned hr
        exact ⟨headerBuf, payload, conn₁, rfl, hpayload, hdecode⟩

/-- What one call has taken off the stream. -/
theorem recvMessage_taken
    (hr : recvMessageCallerFreeMem h fuel conn memory = some (.returned t buffer conn')) :
    (conn'.stream = fun i => conn.stream (conn.message.length + i))
      ∧ ∀ bytes, conn.AtMost bytes → conn.message.length ≤ bytes
        ∧ conn'.AtMost (bytes - conn.message.length) := by
  obtain ⟨headerBuf, payload, conn₁, hheader, hpayload, -⟩ := recvMessage_calls hr
  obtain ⟨-, -, hstream⟩ := recv_delivered hheader
  obtain ⟨-, -, hstream'⟩ := recv_delivered hpayload
  rw [conn.length_message]
  refine ⟨?_, fun bytes hmost => ?_⟩
  · rw [hstream', hstream]
    funext i
    rw [Nat.add_assoc]
  · obtain ⟨hle, hmost₁⟩ := hmost.recvLoop (Nat.zero_le _) hheader
    obtain ⟨hle', hmost'⟩ := hmost₁.recvLoop (Nat.zero_le _) hpayload
    refine ⟨by omega, ?_⟩
    rwa [show bytes - (sizeofMessageHeader + conn.payloadLen)
      = bytes - (sizeofMessageHeader - 0) - (conn.payloadLen - 0) by omega]

/-- **Nothing but what was sent.** -/
theorem receiveMessages_frames {sent : List UInt8} {n : Nat} {memory : Nat → Nat → UInt8}
    (hframes : Frames h sent messages) (hw : w <+: sent) (hstarts : conn.Starts w)
    (hmost : conn.AtMost w.length)
    (hr : receiveMessages h fuel n conn memory = some (buffers, conn')) :
    buffers <+: messages ∧ buffers.length = n := by
  induction n generalizing conn sent messages w memory buffers with
  | zero =>
    obtain ⟨rfl, -⟩ := Prod.mk.inj (Option.some.inj hr)
    exact ⟨List.nil_prefix, rfl⟩
  | succ n ih =>
    unfold receiveMessages at hr
    split at hr
    · next t buffer conn₁ hfirst =>
      obtain ⟨⟨buffers, conn₂⟩, hrest, heq⟩ := Option.map_eq_some_iff.mp hr
      obtain ⟨rfl, rfl⟩ := Prod.mk.inj heq
      obtain ⟨-, -, -, -, -, hmessage⟩ := recvMessage_calls hfirst
      obtain ⟨hstream, htaken⟩ := recvMessage_taken hfirst
      obtain ⟨hle, hmost₁⟩ := htaken w.length hmost
      -- the bytes of the message are the first of those that were sent
      have hfirstBytes : conn.message = w.take conn.message.length := by
        have hfull : firstBytes w.length conn.stream = w := hstarts
        rw [← Nat.add_sub_cancel' hle, firstBytes_append] at hfull
        conv_rhs => rw [← hfull]
        rw [List.take_left' (length_firstBytes _ _), conn.length_message]
        rfl
      obtain ⟨w', rfl⟩ : ∃ w', w = conn.message ++ w' :=
        ⟨w.drop conn.message.length, by
          conv_lhs => rw [← List.take_append_drop conn.message.length w, ← hfirstBytes]⟩
      obtain ⟨more, rfl⟩ := hw
      have hpos : 0 < conn.message.length := by
        rw [conn.length_message]
        exact Nat.add_pos_left (by decide) _
      generalize hsent : conn.message ++ w' ++ more = sent at hframes
      cases hframes with
      | nil =>
        have := congrArg List.length hsent
        simp only [List.length_append, List.length_nil] at this
        omega
      | @cons wire rest p messages hwire hrest' =>
        -- both decode the same bytes, so they are the same message
        have hboth := recvMessage_append hmessage (w' ++ more)
        rw [← List.append_assoc, hsent, hwire rest, Option.some.injEq, Prod.mk.injEq,
          List.nil_append] at hboth
        obtain ⟨rfl, rfl⟩ := hboth
        obtain ⟨-, hstarts₁⟩ := hstarts.drop hstream
        rw [List.length_append, Nat.add_sub_cancel_left] at hmost₁
        obtain ⟨hpre, hlen⟩ := ih hrest' (List.prefix_append _ _) hstarts₁ hmost₁ hrest
        exact ⟨List.cons_prefix_cons.mpr ⟨rfl, hpre⟩, by rw [List.length_cons, hlen]⟩
    · exact absurd hr (by simp)

/-- A message that a stream begins with is what the stream claims as one message. -/
theorem message_eq_wire (hstarts : conn.Starts wire) (hp : recvMessage h wire = some (p, [])) :
    conn.message = wire := by
  unfold recvMessage at hp
  simp only [Option.bind_eq_bind, Option.bind_eq_some_iff, Option.pure_def] at hp
  obtain ⟨⟨headerBuf, s⟩, hheader, pHeader, hdes, ⟨payload, s'⟩, hpayload, t, -, b, -, hres⟩ := hp
  simp only [Option.some.injEq, Prod.mk.injEq] at hres
  obtain ⟨-, rfl⟩ := hres
  unfold recv at hheader hpayload
  split at hheader
  · next hle =>
    obtain ⟨rfl, rfl⟩ := Prod.mk.inj (Option.some.inj hheader)
    have hfull : firstBytes wire.length conn.stream = wire := hstarts
    have htake : wire.take sizeofMessageHeader = conn.header := by
      rw [← Nat.add_sub_cancel' hle, firstBytes_append] at hfull
      rw [← hfull, List.take_left' (length_firstBytes _ _)]
      rfl
    dsimp only at hdes
    rw [htake, WireFormat.deserialize_eq conn.header_within] at hdes
    obtain rfl := Option.some.inj hdes
    dsimp only at hpayload
    rw [payloadLenAt_header] at hpayload
    split at hpayload
    · next hle' =>
      have hdrop := (Prod.mk.inj (Option.some.inj hpayload)).2
      rw [List.drop_drop, List.drop_eq_nil_iff] at hdrop
      rw [List.length_drop] at hle'
      conv_rhs => rw [← hfull]
      rw [show wire.length = sizeofMessageHeader + conn.payloadLen by omega]
      rfl
    · exact absurd hpayload (by simp)
  · exact absurd hheader (by simp)

theorem recvMessage_more {r : RecvMessageOutcome} {fuel' : Nat} (hle : fuel ≤ fuel')
    (hr : recvMessageCallerFreeMem h fuel conn memory = some r) :
    recvMessageCallerFreeMem h fuel' conn memory = some r := by
  cases hheader : PeerConnection.recv fuel conn sizeofMessageHeader memory with
  | none =>
    unfold recvMessageCallerFreeMem at hr
    rw [hheader] at hr
    exact absurd hr (by simp)
  | some r' =>
    have hheader' : PeerConnection.recv fuel' conn sizeofMessageHeader memory = some r' :=
      recvLoop_more hle hheader
    cases r' with
    | exceptionRecv =>
      unfold recvMessageCallerFreeMem at hr ⊢
      rw [hheader] at hr
      rw [hheader']
      exact hr
    | returned headerBuf conn₁ =>
      rw [recvMessage_header hheader] at hr
      obtain ⟨r'', hpayload, hr⟩ := Option.map_eq_some_iff.mp hr
      rw [recvMessage_header hheader']
      exact Option.map_eq_some_iff.mpr ⟨r'', recvLoop_more hle hpayload, hr⟩

theorem receiveMessages_more {n fuel' : Nat} {memory : Nat → Nat → UInt8}
    {r : List (List UInt8) × Connection} (hle : fuel ≤ fuel')
    (hr : receiveMessages h fuel n conn memory = some r) :
    receiveMessages h fuel' n conn memory = some r := by
  induction n generalizing conn memory r with
  | zero => exact hr
  | succ n ih =>
    unfold receiveMessages at hr ⊢
    split at hr
    · next t buffer conn₁ hfirst =>
      rw [recvMessage_more hle hfirst]
      obtain ⟨r', hrest, heq⟩ := Option.map_eq_some_iff.mp hr
      exact Option.map_eq_some_iff.mpr ⟨r', ih hrest, heq⟩
    · exact absurd hr (by simp)

/-- On an open connection a message that the stream begins with is returned. -/
theorem recvMessage_open (hopen : conn.Open) (hstarts : conn.Starts wire)
    (hp : recvMessage h wire = some (p, [])) (memory : Nat → UInt8) :
    ∃ fuel t conn', recvMessageCallerFreeMem h fuel conn memory = some (.returned t p conn')
      ∧ conn'.Open := by
  obtain ⟨fuel, r, hheader⟩ := recvLoop_ends conn 0 memory (hopen.not_closesBefore _)
  obtain ⟨headerBuf, conn₁, rfl, hopen₁⟩ := hopen.recvLoop (n := sizeofMessageHeader) hheader
  obtain ⟨fuel', r', hpayload⟩ := recvLoop_ends conn₁ 0 memory (hopen₁.not_closesBefore _)
  obtain ⟨payload, conn₂, rfl, hopen₂⟩ := hopen₁.recvLoop (n := conn.payloadLen) hpayload
  have hboth := recvMessage_header (h := h)
    (recvLoop_more (Nat.le_max_left fuel fuel') hheader)
  have hmore : PeerConnection.recv (max fuel fuel') conn₁ conn.payloadLen memory
      = some (.returned payload conn₂) := recvLoop_more (Nat.le_max_right fuel fuel') hpayload
  rw [hmore, Option.map_some] at hboth
  have hmessage := hp
  rw [← message_eq_wire hstarts hp, recvMessage_message] at hmessage
  obtain ⟨b, hb, heq⟩ := Option.map_eq_some_iff.mp hmessage
  obtain ⟨rfl, -⟩ := Prod.mk.inj heq
  obtain ⟨t, ht, hdecode⟩ := Option.bind_eq_some_iff.mp hb
  refine ⟨max fuel fuel', t, conn₂, hboth.trans ?_, hopen₂⟩
  unfold decodePayload
  rw [ht]
  dsimp only
  rw [hdecode]

/-- **Everything that was sent.** -/
theorem receiveMessages_open {sent : List UInt8} (hframes : Frames h sent messages)
    (hstarts : conn.Starts sent) (hopen : conn.Open) (memory : Nat → Nat → UInt8) :
    ∃ fuel conn', receiveMessages h fuel messages.length conn memory = some (messages, conn') := by
  induction hframes generalizing conn memory with
  | nil => exact ⟨0, conn, rfl⟩
  | @cons wire rest p messages hwire hrest ih =>
    have hp : recvMessage h wire = some (p, []) := by simpa using hwire []
    have hstarts' : conn.Starts wire :=
      (hstarts.drop (rfl : (conn.advance wire.length).stream = _)).1
    obtain ⟨fuel, t, conn₁, hfirst, hopen₁⟩ := recvMessage_open hopen hstarts' hp (memory 0)
    have hstream := (recvMessage_taken hfirst).1
    rw [message_eq_wire hstarts' hp] at hstream
    obtain ⟨fuel', conn₂, hmore⟩ :=
      ih (hstarts.drop hstream).2 hopen₁ fun k => memory (k + 1)
    refine ⟨max fuel fuel', conn₂, ?_⟩
    rw [List.length_cons]
    unfold receiveMessages
    rw [recvMessage_more (Nat.le_max_left fuel fuel') hfirst]
    dsimp only
    rw [receiveMessages_more (Nat.le_max_right fuel fuel') hmore]
    rfl

end Receiving

/-! ## What a link does -/

/-- An element of the model as `sender()` finds it in memory. -/
def QueueElement.raw (h : Endian) (e : QueueElement) : RawQueueElement RCanopus.Peer where
  upPeers := e.upPeers
  pMessage := e.pMessage.bytes h

section Link

variable {h : Endian} {x y : RCanopus.Peer} {e : QueueElement}

theorem clone_raw {t : WireFormat} (hm : e.pMessage.WellFormed h t) :
    ((e.raw h).clone h).pMessage = e.pMessage.copy.bytes h := by
  unfold RawQueueElement.clone QueueElement.raw
  dsimp only
  rw [Message.messageSizeAt_bytes, Message.take_bytes hm]

theorem copiesTo_raw {t : WireFormat} (hm : e.pMessage.WellFormed h t) (hy : y ≠ x) :
    (e.raw h).copiesTo h y
      = (Cluster.deliveries x e y).map fun e => e.pMessage.bytes h := by
  unfold RawQueueElement.copiesTo Cluster.deliveries
  rw [clone_raw hm, if_neg fun h => hy h.1, List.nil_append, List.map_map]
  rfl

theorem ownCopies_raw {t : WireFormat} (hm : e.pMessage.WellFormed h t)
    (hself : some x ∉ e.upPeers) :
    ((e.raw h).ownCopies h).map (·.pMessage)
      = (Cluster.deliveries x e x).map fun e => e.pMessage.bytes h := by
  have hnone : e.upPeers.filter (· = some x) = [] :=
    List.filter_eq_nil_iff.mpr fun p hp heq => hself (of_decide_eq_true heq ▸ hp)
  unfold RawQueueElement.ownCopies Cluster.deliveries
  rw [hnone, List.map_nil, List.append_nil]
  by_cases hmem : none ∈ e.upPeers
  · have hmem' : none ∈ (e.raw h).upPeers := hmem
    rw [if_pos hmem', if_pos ⟨rfl, hmem⟩]
    simp only [List.map_cons, List.map_nil, clone_raw hm]
  · have hmem' : none ∉ (e.raw h).upPeers := hmem
    rw [if_neg hmem', if_neg fun hc => hmem hc.2]
    rfl

end Link

/--
What the listener of the leader does with the bytes in the pipe is what the step of the model does:
it queues the same elements and empties the pipe, or it throws and queues nothing.
-/
def ListensAs (s : SelfPipe) (node node' : Node) : Prop :=
  (∃ s' woken, listenSelfPipe 1 s = some (.ok s') ∧ s'.recvQueue = s.recvQueue ++ woken
      ∧ node'.inbox = node.inbox ++ woken ∧ node'.pipe = s'.pipe.length
      ∧ node'.listenerEnded = none)
    ∨ ∃ s', listenSelfPipe 1 s = some (.exceptionRecv s') ∧ s'.recvQueue = s.recvQueue
      ∧ node'.inbox = node.inbox ∧ node'.listenerEnded = some node.inbox.length

theorem pipeReadable_listensAs {d : Deployment} {bg : Nat} {σ σ' : Cluster} {s : SelfPipe}
    (hl : Cluster.pipeReadable d bg σ = some σ') (hs : s.pipe.length = (σ (bg, 0)).pipe) :
    ListensAs s (σ (bg, 0)) (σ' (bg, 0)) := by
  obtain ⟨-, -, hruns, ⟨hshort, rfl⟩ | ⟨hfull, rfl⟩⟩ := Cluster.pipeReadable_cases hl
  · rw [← hs] at hshort
    refine Or.inl ⟨_, [wakeUp], listenSelfPipe_short 0 hshort, rfl, ?_⟩
    rw [Function.update_self]
    exact ⟨rfl, rfl, hruns⟩
  · rw [← hs] at hfull
    refine Or.inr ⟨_, listenSelfPipe_full 0 hfull, rfl, ?_⟩
    rw [Function.update_self]
    exact ⟨rfl, rfl⟩

/-- The memory of the messages that arrive from `x` at `y` when `x` sends some elements. -/
def arrivals (h : Endian) (x y : RCanopus.Peer) (elements : List QueueElement) :
    List (List UInt8) :=
  (elements.flatMap fun e => Cluster.deliveries x e y).map fun e => e.pMessage.bytes h

/--
**The links are those of the model.** `x` sends well-formed elements, in pieces of any size, and no
element names `x` itself as a remote peer. Whatever the listener of `y` gets off the bytes that are
on the socket, in pieces of any size, is what `Cluster.send` delivers, in the same order, each
message once and none of them made up, also when a call of `PeerConnection::send` does not return in
the middle of a message. When all return and the connection stays open, all messages arrive; and
when every call of the operating system sends something, the sender gets through all elements. The
self copies and what the pipe of the leader brings are those of the model as well.
-/
theorem link_refines_send {h : Endian} {x : RCanopus.Peer} {elements : List QueueElement}
    (hwell : ∀ e ∈ elements, ∃ t, e.pMessage.WellFormed h t)
    (hself : ∀ e ∈ elements, some x ∉ e.upPeers) (calls : SendCalls) :
    (∀ (fuel : Nat) (s : SenderState RCanopus.Peer),
      senderLoop h fuel (elements.map (·.raw h)) (.start calls) = some s →
      (∀ y ≠ x, ∀ (conn conn' : Connection) (fuel n : Nat) memory buffers,
        conn.Starts (s.socket y) → conn.AtMost (s.socket y).length →
        receiveMessages h fuel n conn memory = some (buffers, conn') →
        buffers <+: arrivals h x y elements ∧ buffers.length = n)
      ∧ s.recvQueue.map (·.pMessage) <+: arrivals h x x elements
      ∧ (s.status = .running →
        s.recvQueue.map (·.pMessage) = arrivals h x x elements
          ∧ ∀ y ≠ x, ∀ (conn : Connection) memory, conn.Starts (s.socket y) → conn.Open →
            ∃ fuel conn', receiveMessages h fuel (arrivals h x y elements).length conn memory
              = some (arrivals h x y elements, conn')))
    ∧ (calls.Open → ∃ fuel s,
      senderLoop h fuel (elements.map (·.raw h)) (.start calls) = some s
        ∧ s.status = .running)
    ∧ ∀ (d : Deployment) (bg : Nat) (σ σ' : Cluster), Cluster.pipeReadable d bg σ = some σ' →
      ∀ s : SelfPipe, s.pipe.length = (σ (bg, 0)).pipe →
        ListensAs s (σ (bg, 0)) (σ' (bg, 0)) := by
  have hraw : ∀ e ∈ elements.map (·.raw h), ∃ t, e.WellFormed h t := fun e he => by
    obtain ⟨m, hm, rfl⟩ := List.mem_map.mp he
    obtain ⟨t, ht⟩ := hwell m hm
    exact ⟨t, ht.element m.upPeers⟩
  have hcopies : ∀ y ≠ x,
      (elements.map (·.raw h)).flatMap (·.copiesTo h y) = arrivals h x y elements := fun y hy => by
    unfold arrivals
    rw [List.flatMap_map, List.map_flatMap]
    refine List.flatMap_congr fun e he => ?_
    obtain ⟨t, ht⟩ := hwell e he
    exact copiesTo_raw ht hy
  have hown : ((elements.map (·.raw h)).flatMap (·.ownCopies h)).map (·.pMessage)
      = arrivals h x x elements := by
    unfold arrivals
    rw [List.flatMap_map, List.map_flatMap, List.map_flatMap]
    refine List.flatMap_congr fun e he => ?_
    obtain ⟨t, ht⟩ := hwell e he
    exact ownCopies_raw ht (hself e he)
  have hframes : ∀ y ≠ x, Frames h ((elements.map (·.raw h)).flatMap (·.bytesTo h y))
      (arrivals h x y elements) := fun y hy => hcopies y hy ▸ frames_elements hraw y
  refine ⟨fun fuel s hrun => ?_, fun hopen => ?_,
    fun d bg σ σ' hl s hs => pipeReadable_listensAs hl hs⟩
  · obtain ⟨hsent, hpre, hall⟩ := senderLoop_sent hraw rfl hrun
    refine ⟨fun y hy conn conn' fuel n memory buffers hstarts hmost hr => ?_, ?_,
      fun hs => ⟨?_, fun y hy conn memory hstarts hopen => ?_⟩⟩
    · exact receiveMessages_frames (hframes y hy) (hsent.some y) hstarts hmost hr
    · rw [← hown]
      exact hpre.map _
    · rw [hall hs, ← hown]
      rfl
    · refine receiveMessages_open (hframes y hy) ?_ hopen memory
      rwa [show s.socket y = _ from hsent.all hs y] at hstarts
  · obtain ⟨fuel, hfuel⟩ :=
      exists_fuel ((elements.map (·.raw h)).flatMap fun e => (senderCalls h e).sends)
    obtain ⟨s, hrun, hstatus⟩ := senderLoop_open (s := .start calls) hraw rfl hopen hfuel
    exact ⟨fuel, s, hrun, hstatus⟩

/-- A full commit for the sender itself and for one other SL. -/
def twoCopies : QueueElement where
  upPeers := [none, some (0, 1)]
  pMessage := .round2FullCommit (fullCommitMessage 0 1 1)

/-- The operating system takes 20 bytes at a time: both copies arrive. -/
theorem twoCopies_arrive : ∃ (fuel : Nat) (s : SenderState RCanopus.Peer),
    senderLoop .little fuel [twoCopies.raw .little] (.start ⟨fun _ => 20, true⟩) = some s
      ∧ s.recvQueue.map (·.pMessage) = [twoCopies.pMessage.bytes .little]
      ∧ ∀ conn memory, Connection.Starts conn (s.socket (0, 1)) → conn.Open →
        ∃ fuel conn', receiveMessages .little fuel 1 conn memory
          = some ([twoCopies.pMessage.bytes .little], conn') := by
  have hwell : ∀ e ∈ [twoCopies], ∃ t, e.pMessage.WellFormed .little t := fun e he => by
    rw [List.mem_singleton.mp he]
    exact ⟨.round2FullCommit, by decide +kernel, rfl, by decide +kernel⟩
  have hself : ∀ e ∈ [twoCopies], some ((0, 0) : RCanopus.Peer) ∉ e.upPeers := by decide
  obtain ⟨hsafe, hends, -⟩ := link_refines_send (x := (0, 0)) hwell hself ⟨fun _ => 20, true⟩
  obtain ⟨fuel, s, hs, hstatus⟩ := hends ⟨fun _ => (by decide : (0 : Int) < 20), rfl⟩
  obtain ⟨hqueue, harrive⟩ := (hsafe fuel s hs).2.2 hstatus
  exact ⟨fuel, s, hs, hqueue, harrive (0, 1) (by decide)⟩

end RCanopus
