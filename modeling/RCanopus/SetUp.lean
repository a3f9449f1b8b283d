import RCanopus.Cluster
import Mathlib.Data.List.Nodup
import Mathlib.Data.List.Perm.Subperm

/-!
# Connection set-up

Of two servers one connects to the other, which listens. The listening side accepts as many
connections as servers are to connect to it. A failed `accept` uses up one of these, and a HELLO
may come from any server.

* `connects_once`: of two different servers exactly one is active.
* `setUp_iff`: the set-up is complete exactly when all of the expected servers have announced
  themselves, each on a connection of its own.
-/

namespace RCanopus

/-! ## Who connects to whom -/

/-- `isPassiveConnection`. -/
def isPassiveConnection (conf : Config) (peer : Peer) : Bool :=
  if conf.bGid < peer.1 then true
  else if peer.1 = conf.bGid then decide (conf.sLid < peer.2)
  else false

/-- `isActiveConnection`. -/
def isActiveConnection (conf : Config) (peer : Peer) : Bool := !isPassiveConnection conf peer

/-- The two loops over all servers, without the own one. -/
def remotePeers (conf : Config) : List Peer :=
  ((List.range conf.numBG).flatMap fun bg =>
    (List.range (conf.numSL bg)).map fun sl => (bg, sl)).filter (· ≠ (conf.bGid, conf.sLid))

/-- The servers that the constructor connects to. -/
def activePeers (conf : Config) : List Peer := (remotePeers conf).filter (isActiveConnection conf)

/-- The servers that are to connect. -/
def passivePeers (conf : Config) : List Peer := (remotePeers conf).filter (isPassiveConnection conf)

/-- `expectedConnections`. -/
def expectedConnections (conf : Config) : Nat :=
  (remotePeers conf).countP (isPassiveConnection conf)

/-- The HELLO that the constructor sends on an active connection. -/
def helloMessage (conf : Config) : MessageHello where
  header := { version := versionLatest, payloadLen := 4 }
  bGid := UInt16.ofNat conf.bGid
  sLid := UInt16.ofNat conf.sLid

/-! ## Listening -/

/-- What a call of `recvMessage_caller_free_mem` ends with. -/
inductive RecvResult where
  | message (m : Message)
  /-- `EXCEPTION_MESSAGE_INVALID_TYPE` -/
  | invalidType
  /-- `EXCEPTION_MESSAGE_INVALID_VERSION` -/
  | invalidVersion
  | otherException

/-- A socket that `accept` returned, and what the calls on it will end with. -/
structure AcceptedSocket where
  fd : Int
  setsockopt : Int
  received : Nat → RecvResult

/-- How loop 1 ends. -/
inductive HelloOutcome where
  | hello (m : MessageHello)
  /-- An exception that the `switch` has no case for: `buffer` is used although it is null. -/
  | nullPointer

/-- Loop 1. The result is `none` when `fuel` iterations did not end it. -/
def helloLoop : Nat → (Nat → RecvResult) → Option HelloOutcome
  | 0, _ => none
  | fuel + 1, received =>
    match received 0 with
    | .invalidType => helloLoop fuel fun k => received (k + 1)
    | .invalidVersion => helloLoop fuel fun k => received (k + 1)
    | .otherException => some .nullPointer
    | .message (.hello m) => some (.hello m)
    | .message _ => helloLoop fuel fun k => received (k + 1)

/-- How `listenForIncomingConnections` ends. -/
inductive SetUpOutcome where
  /-- The assignments to an `fdSocket`, in their order. -/
  | returned (code : Int) (fdSockets : List (Peer × Int))
  /-- `EXCEPTION_SOCKET_OPT` -/
  | socketOpt
  | nullPointer
  /-- A HELLO from a server that is not in the configuration. -/
  | outOfTable

/-- The server that a HELLO names. -/
def MessageHello.peer (m : MessageHello) : Peer := (m.bGid.toNat, m.sLid.toNat)

/--
Loop 0, with some iterations left. `none` stands for -1 among the results of `accept`, and as the
result it says that `fuel` iterations of some loop 1 did not end it.
-/
def acceptLoop (conf : Config) (fuel : Nat) :
    Nat → (Nat → Option AcceptedSocket) → List (Peer × Int) → Option SetUpOutcome
  | 0, _, fdSockets => some (.returned 0 fdSockets)
  | left + 1, accept, fdSockets =>
    match accept 0 with
    | none => acceptLoop conf fuel left (fun i => accept (i + 1)) fdSockets
    | some newSocket =>
      if newSocket.setsockopt = -1 then some .socketOpt
      else
        match helloLoop fuel newSocket.received with
        | none => none
        | some .nullPointer => some .nullPointer
        | some (.hello pHello) =>
          if pHello.peer.1 < conf.numBG ∧ pHello.peer.2 < conf.numSL pHello.peer.1 then
            acceptLoop conf fuel left (fun i => accept (i + 1))
              (fdSockets ++ [(pHello.peer, newSocket.fd)])
          else some .outOfTable

/-- `listenForIncomingConnections`. `listening` is the result of `listen`. -/
def listenForIncomingConnections (conf : Config) (fuel : Nat) (listening : Int)
    (accept : Nat → Option AcceptedSocket) : Option SetUpOutcome :=
  if listening = -1 then some (.returned (-1) [])
  else acceptLoop conf fuel (expectedConnections conf) accept []

/-! ## What it is for -/

/-- The first HELLO on a socket names a server. -/
def Announces (socket : AcceptedSocket) (peer : Peer) : Prop :=
  ∃ k m, socket.received k = .message (.hello m) ∧ m.peer = peer
    ∧ ∀ j < k, ∀ m', socket.received j ≠ .message (.hello m')

/-- Each passive connection was set once, to a socket with a HELLO of that server. -/
def SetUpComplete (conf : Config) (accept : Nat → Option AcceptedSocket)
    (fdSockets : List (Peer × Int)) : Prop :=
  ∀ peer ∈ passivePeers conf, ∃ fd, fdSockets.filter (fun a => a.1 = peer) = [(peer, fd)]
    ∧ ∃ i socket k m, accept i = some socket ∧ socket.fd = fd
      ∧ socket.received k = .message (.hello m) ∧ m.peer = peer

/--
No `accept` fails, and the sockets are from different servers, all of which are to connect: their
first HELLOs say so.
-/
def AllAnnounced (conf : Config) (accept : Nat → Option AcceptedSocket) : Prop :=
  ∃ peerOf : Nat → Peer,
    (∀ i < expectedConnections conf,
      peerOf i ∈ passivePeers conf ∧ ∃ socket, accept i = some socket ∧ Announces socket (peerOf i))
      ∧ ∀ i < expectedConnections conf, ∀ j < expectedConnections conf,
        peerOf i = peerOf j → i = j

/-! ## Of two servers one is active -/

section

variable {conf : Config} {x y : Peer}

theorem mem_remotePeers : y ∈ remotePeers conf
    ↔ (y.1 < conf.numBG ∧ y.2 < conf.numSL y.1) ∧ y ≠ (conf.bGid, conf.sLid) := by
  unfold remotePeers
  rw [List.mem_filter, List.mem_flatMap, decide_eq_true_iff]
  refine and_congr_left' ⟨?_, fun h => ?_⟩
  · rintro ⟨bg, hbg, hy⟩
    obtain ⟨sl, hsl, rfl⟩ := List.mem_map.mp hy
    exact ⟨List.mem_range.mp hbg, List.mem_range.mp hsl⟩
  · exact ⟨y.1, List.mem_range.mpr h.1, List.mem_map.mpr ⟨y.2, List.mem_range.mpr h.2, rfl⟩⟩

/-- Passive towards all that come later in the order of BGs and SLs. -/
theorem isPassiveConnection_iff : isPassiveConnection conf y = true
    ↔ conf.bGid < y.1 ∨ y.1 = conf.bGid ∧ conf.sLid < y.2 := by
  unfold isPassiveConnection
  split
  · simp_all
  · split
    · simp_all
    · simp_all

/-- The other side of a passive connection is active, and no other is. -/
theorem isActive_iff (hne : x ≠ y) : isActiveConnection (conf.ofSL x.1 x.2) y = true
    ↔ isPassiveConnection (conf.ofSL y.1 y.2) x = true := by
  have hne : x.1 = y.1 → x.2 ≠ y.2 := fun h1 h2 => hne (Prod.ext h1 h2)
  unfold isActiveConnection
  rw [Bool.not_eq_true', ← Bool.not_eq_true, isPassiveConnection_iff, isPassiveConnection_iff]
  simp only [Config.ofSL_bGid, Config.ofSL_sLid]
  omega

theorem nodup_remotePeers : (remotePeers conf).Nodup := by
  refine List.Pairwise.filter _ (List.nodup_flatMap.mpr ⟨fun bg _ => ?_, ?_⟩)
  · exact List.nodup_range.map fun sl sl' h => (Prod.mk.inj h).2
  · refine List.nodup_range.imp fun {bg bg'} hne => ?_
    intro peer hbg hbg'
    obtain ⟨sl, -, rfl⟩ := List.mem_map.mp hbg
    obtain ⟨sl', -, heq⟩ := List.mem_map.mp hbg'
    exact hne (Prod.mk.inj heq).1.symm

theorem length_passivePeers : (passivePeers conf).length = expectedConnections conf :=
  List.countP_eq_length_filter.symm

/-- The other side of a passive connection is active, and no other is. -/
theorem mem_activePeers_iff (hne : x ≠ y) (hx : x.1 < conf.numBG ∧ x.2 < conf.numSL x.1)
    (hy : y.1 < conf.numBG ∧ y.2 < conf.numSL y.1) :
    y ∈ activePeers (conf.ofSL x.1 x.2) ↔ x ∈ passivePeers (conf.ofSL y.1 y.2) := by
  have hremote : y ∈ remotePeers (conf.ofSL x.1 x.2) := mem_remotePeers.mpr ⟨hy, hne.symm⟩
  have hremote' : x ∈ remotePeers (conf.ofSL y.1 y.2) := mem_remotePeers.mpr ⟨hx, hne⟩
  unfold activePeers passivePeers
  rw [List.mem_filter, List.mem_filter, and_iff_right hremote, and_iff_right hremote']
  exact isActive_iff hne

/-- Of two different servers exactly one connects to the other. -/
theorem connects_once (hne : x ≠ y) (hx : x.1 < conf.numBG ∧ x.2 < conf.numSL x.1)
    (hy : y.1 < conf.numBG ∧ y.2 < conf.numSL y.1) :
    Xor (y ∈ activePeers (conf.ofSL x.1 x.2)) (x ∈ activePeers (conf.ofSL y.1 y.2)) := by
  have hremote : x ∈ remotePeers (conf.ofSL y.1 y.2) := mem_remotePeers.mpr ⟨hx, hne⟩
  rw [mem_activePeers_iff hne hx hy]
  unfold activePeers passivePeers isActiveConnection
  rw [List.mem_filter, List.mem_filter, and_iff_right hremote, and_iff_right hremote]
  cases isPassiveConnection (conf.ofSL y.1 y.2) x <;> simp [Xor]

end

/-! ## What listening does -/

section

variable {conf : Config} {fuel left : Nat} {accept : Nat → Option AcceptedSocket}
  {fdSockets fdSockets' : List (Peer × Int)} {peer peer' : Peer}

theorem Announces.unique {socket : AcceptedSocket} (h : Announces socket peer)
    (h' : Announces socket peer') : peer = peer' := by
  obtain ⟨k, m, hm, rfl, hfirst⟩ := h
  obtain ⟨k', m', hm', rfl, hfirst'⟩ := h'
  rcases Nat.lt_trichotomy k k' with hlt | rfl | hlt
  · exact absurd hm (hfirst' k hlt m)
  · rw [hm] at hm'
    rw [Message.hello.inj (RecvResult.message.inj hm')]
  · exact absurd hm' (hfirst k' hlt m')

/-- Loop 1 ends with the first HELLO. -/
theorem helloLoop_hello {received : Nat → RecvResult} {m : MessageHello}
    (h : helloLoop fuel received = some (.hello m)) :
    ∃ k, received k = .message (.hello m) ∧ ∀ j < k, ∀ m', received j ≠ .message (.hello m') := by
  induction fuel generalizing received with
  | zero => cases h
  | succ fuel ih =>
    have hlater : helloLoop fuel (fun k => received (k + 1)) = some (.hello m) →
        (∀ m', received 0 ≠ .message (.hello m')) →
        ∃ k, received k = .message (.hello m)
          ∧ ∀ j < k, ∀ m', received j ≠ .message (.hello m') := fun hloop hzero => by
      obtain ⟨k, hk, hfirst⟩ := ih hloop
      refine ⟨k + 1, hk, fun j hj => ?_⟩
      cases j with
      | zero => exact hzero
      | succ j => exact hfirst j (Nat.lt_of_succ_lt_succ hj)
    unfold helloLoop at h
    split at h
    · next hzero => exact hlater h (by simp [hzero])
    · next hzero => exact hlater h (by simp [hzero])
    · cases h
    · next m' hzero =>
      cases h
      exact ⟨0, hzero, fun j hj => absurd hj (Nat.not_lt_zero j)⟩
    · next hother hzero =>
      refine hlater h fun m' hm' => hother m' ?_
      exact RecvResult.message.inj (hzero.symm.trans hm')

/-- What iteration `i` assigns: nothing when `accept` fails, or else what the first HELLO names. -/
def Assigns (accept : Nat → Option AcceptedSocket) (i : Nat) : Option (Peer × Int) → Prop
  | none => accept i = none
  | some (peer, fd) => ∃ socket, accept i = some socket ∧ socket.fd = fd ∧ Announces socket peer

/-- **Loop 0**: when it ends with 0, each iteration has assigned one socket or none. -/
theorem acceptLoop_returned (h : acceptLoop conf fuel left accept fdSockets
    = some (.returned 0 fdSockets')) :
    ∃ assigned : Nat → Option (Peer × Int), (∀ i < left, Assigns accept i (assigned i))
      ∧ fdSockets' = fdSockets ++ (List.range left).filterMap assigned := by
  induction left generalizing accept fdSockets with
  | zero =>
    cases h
    exact ⟨fun _ => none, fun i hi => absurd hi (Nat.not_lt_zero i), (List.append_nil _).symm⟩
  | succ left ih =>
    -- the first socket is put in front of what the other iterations assign
    have hnext : ∀ (first : Option (Peer × Int)) fds, Assigns accept 0 first →
        fds = fdSockets ++ first.toList →
        acceptLoop conf fuel left (fun i => accept (i + 1)) fds = some (.returned 0 fdSockets') →
        ∃ assigned : Nat → Option (Peer × Int), (∀ i < left + 1, Assigns accept i (assigned i))
          ∧ fdSockets' = fdSockets ++ (List.range (left + 1)).filterMap assigned := by
      rintro first fds hfirst rfl hloop
      obtain ⟨assigned, hassigned, hfds⟩ := ih hloop
      refine ⟨fun i => Nat.casesOn i first assigned, fun i hi => ?_, ?_⟩
      · cases i with
        | zero => exact hfirst
        | succ i => exact hassigned i (Nat.lt_of_succ_lt_succ hi)
      · rw [hfds, List.range_succ_eq_map, List.filterMap_cons, List.filterMap_map,
          List.append_assoc]
        cases first <;> rfl
    unfold acceptLoop at h
    split at h
    · next hnone => exact hnext none fdSockets hnone (List.append_nil _).symm h
    · next socket hsocket =>
      split at h
      · cases h
      split at h
      · cases h
      · cases h
      · next m hm =>
        split at h
        · obtain ⟨k, hk, hfirst⟩ := helloLoop_hello hm
          exact hnext (some (m.peer, socket.fd)) _
            ⟨socket, hsocket, rfl, k, m, hk, rfl, hfirst⟩ rfl h
        · cases h

/-- An assignment to each of some slots is the only one when no slot is assigned twice. -/
theorem exists_filter_eq {l : List (Peer × Int)} (hnodup : (l.map Prod.fst).Nodup)
    (hmem : peer ∈ l.map Prod.fst) :
    ∃ fd, l.filter (fun a => a.1 = peer) = [(peer, fd)] ∧ (peer, fd) ∈ l := by
  obtain ⟨⟨p, fd⟩, hin, rfl⟩ := List.mem_map.mp hmem
  refine ⟨fd, ?_, hin⟩
  induction l with
  | nil => cases hin
  | cons a l ih =>
    rw [List.map_cons, List.nodup_cons] at hnodup
    rcases List.mem_cons.mp hin with rfl | hin
    · rw [List.filter_cons_of_pos (by simp), List.filter_eq_nil_iff.mpr]
      intro b hb heq
      exact hnodup.1 (List.mem_map.mpr ⟨b, hb, of_decide_eq_true heq⟩)
    · have hne : a.1 ≠ p := fun heq =>
        hnodup.1 (heq ▸ List.mem_map.mpr ⟨(p, fd), hin, rfl⟩)
      rw [List.filter_cons_of_neg (by simpa using hne)]
      exact ih hnodup.2 hin (List.mem_map.mpr ⟨(p, fd), hin, rfl⟩)

/-- Complete is the same as that the servers assigned to are the passive ones, each once. -/
theorem setUpComplete_iff (h : acceptLoop conf fuel left accept [] = some (.returned 0 fdSockets))
    (hleft : left = (passivePeers conf).length) :
    SetUpComplete conf accept fdSockets
      ↔ (passivePeers conf).Perm (fdSockets.map Prod.fst) := by
  obtain ⟨assigned, hassigned, hfds⟩ := acceptLoop_returned h
  rw [List.nil_append] at hfds
  have hnodup : (passivePeers conf).Nodup := nodup_remotePeers.filter _
  constructor
  · intro hcomplete
    refine List.Subperm.perm_of_length_le (List.subperm_of_subset hnodup fun peer hpeer => ?_) ?_
    · obtain ⟨fd, hfilter, -⟩ := hcomplete peer hpeer
      have hin : (peer, fd) ∈ fdSockets.filter (fun a => a.1 = peer) :=
        hfilter ▸ List.mem_cons_self
      exact List.mem_map.mpr ⟨_, List.mem_of_mem_filter hin, rfl⟩
    · rw [List.length_map, hfds, ← hleft]
      exact (List.length_filterMap_le _ _).trans_eq List.length_range
  · intro hperm peer hpeer
    obtain ⟨fd, hfilter, hin⟩ := exists_filter_eq (hperm.nodup_iff.mp hnodup)
      (hperm.mem_iff.mp hpeer)
    rw [hfds] at hin
    obtain ⟨i, hi, hfd⟩ := List.mem_filterMap.mp hin
    have hi := hassigned i (List.mem_range.mp hi)
    rw [hfd] at hi
    obtain ⟨socket, hsocket, rfl, k, m, hm, hpeer, -⟩ := hi
    exact ⟨socket.fd, hfilter, i, socket, k, m, hsocket, rfl, hm, hpeer⟩

/-- When all iterations assign, the servers are those that they assign to. -/
theorem map_fst_filterMap {n : Nat} {assigned : Nat → Option (Peer × Int)} {peerOf : Nat → Peer}
    (h : ∀ i < n, (assigned i).map Prod.fst = some (peerOf i)) :
    ((List.range n).filterMap assigned).map Prod.fst = (List.range n).map peerOf := by
  rw [List.map_filterMap, List.filterMap_congr (g := some ∘ peerOf), List.filterMap_eq_map]
  exact fun i hi => h i (List.mem_range.mp hi)

theorem setUpComplete_iff_allAnnounced
    (h : acceptLoop conf fuel (expectedConnections conf) accept []
      = some (.returned 0 fdSockets)) :
    SetUpComplete conf accept fdSockets ↔ AllAnnounced conf accept := by
  rw [setUpComplete_iff h length_passivePeers.symm]
  obtain ⟨assigned, hassigned, hfds⟩ := acceptLoop_returned h
  rw [List.nil_append] at hfds
  have hnodup : (passivePeers conf).Nodup := nodup_remotePeers.filter _
  constructor
  · intro hperm
    -- as many assignments as iterations, so none of them is missing
    have hlen : ((List.range (expectedConnections conf)).filterMap assigned).length
        = (List.range (expectedConnections conf)).length := by
      rw [← hfds, List.length_range, ← length_passivePeers, hperm.length_eq, List.length_map]
    have hpeerOf : ∀ i < expectedConnections conf, (assigned i).map Prod.fst
        = some (((assigned i).map Prod.fst).getD (0, 0)) := fun i hi => by
      obtain ⟨a, ha⟩ := Option.isSome_iff_exists.mp
        (List.filterMap_length_eq_length.mp hlen i (List.mem_range.mpr hi))
      rw [ha]
      rfl
    have hpeers := map_fst_filterMap hpeerOf
    rw [← hfds] at hpeers
    rw [hpeers] at hperm
    refine ⟨_, fun i hi => ⟨hperm.mem_iff.mpr (List.mem_map_of_mem (List.mem_range.mpr hi)), ?_⟩,
      fun i hi j hj heq => List.inj_on_of_nodup_map (hperm.nodup_iff.mp hnodup)
        (List.mem_range.mpr hi) (List.mem_range.mpr hj) heq⟩
    have hi' := hassigned i hi
    obtain ⟨a, ha, hpeer⟩ := Option.map_eq_some_iff.mp (hpeerOf i hi)
    rw [ha] at hi'
    obtain ⟨socket, hsocket, -, hannounces⟩ := hi'
    exact ⟨socket, hsocket, hpeer ▸ hannounces⟩
  · rintro ⟨peerOf, hannounced, hinj⟩
    have hpeerOf : ∀ i < expectedConnections conf,
        (assigned i).map Prod.fst = some (peerOf i) := fun i hi => by
      obtain ⟨-, socket, hsocket, hannounces⟩ := hannounced i hi
      have hi' := hassigned i hi
      cases ha : assigned i with
      | none =>
        rw [ha] at hi'
        exact absurd (hsocket.symm.trans hi') (Option.some_ne_none socket)
      | some a =>
        rw [ha] at hi'
        obtain ⟨socket', hsocket', -, hannounces'⟩ := hi'
        obtain rfl := Option.some.inj (hsocket'.symm.trans hsocket)
        rw [Option.map_some, hannounces'.unique hannounces]
    rw [hfds, map_fst_filterMap hpeerOf]
    refine (List.Subperm.perm_of_length_le (List.subperm_of_subset ?_ fun peer hpeer => ?_) ?_).symm
    · refine List.Nodup.map_on (fun i hi j hj heq => ?_) List.nodup_range
      exact hinj i (List.mem_range.mp hi) j (List.mem_range.mp hj) heq
    · obtain ⟨i, hi, rfl⟩ := List.mem_map.mp hpeer
      exact (hannounced i (List.mem_range.mp hi)).1
    · rw [List.length_map, List.length_range, length_passivePeers]

/--
**Connection set-up.** Of two different servers exactly one connects to the other. When listening
returns 0, all passive connections are set exactly when all of these servers have announced
themselves.
-/
theorem setUp_iff (conf : Config) :
    (∀ x y : Peer, x ≠ y → (x.1 < conf.numBG ∧ x.2 < conf.numSL x.1) →
      (y.1 < conf.numBG ∧ y.2 < conf.numSL y.1) →
      Xor (y ∈ activePeers (conf.ofSL x.1 x.2)) (x ∈ activePeers (conf.ofSL y.1 y.2)))
    ∧ ∀ fuel listening accept fdSockets,
      listenForIncomingConnections conf fuel listening accept = some (.returned 0 fdSockets) →
        (SetUpComplete conf accept fdSockets ↔ AllAnnounced conf accept) := by
  refine ⟨fun x y hne hx hy => connects_once hne hx hy, fun fuel listening accept fdSockets h => ?_⟩
  unfold listenForIncomingConnections at h
  split at h
  · exact absurd (SetUpOutcome.returned.inj (Option.some.inj h)).1 (by decide)
  · exact setUpComplete_iff_allAnnounced h

/-- The HELLO of a server announces it, when its ids are in range for the message. -/
theorem announces_helloMessage {socket : AcceptedSocket} (hbg : peer.1 < 2 ^ 16)
    (hsl : peer.2 < 2 ^ 16)
    (h : socket.received 0 = .message (.hello (helloMessage (conf.ofSL peer.1 peer.2)))) :
    Announces socket peer := by
  refine ⟨0, _, h, ?_, fun j hj => absurd hj (Nat.not_lt_zero j)⟩
  unfold MessageHello.peer helloMessage
  exact Prod.ext (UInt16.toNat_ofNat_of_lt hbg) (UInt16.toNat_ofNat_of_lt hsl)

end

/-! ## Two servers -/

/-- The first SL of a BG of two. -/
def firstOfTwo : Config where
  rgBGInfo :=
    [{ failure := 0
       addr :=
        [{ sinAddr := 0x7F000001, sinPort := 7000 }, { sinAddr := 0x7F000001, sinPort := 7001 }] }]
  bGid := 0
  sLid := 0
  globalFailures := 0

/-- The connection of the other SL. -/
def fromSecond : AcceptedSocket where
  fd := 5
  setsockopt := 0
  received := fun _ => .message (.hello (helloMessage (firstOfTwo.ofSL 0 1)))

/-- The set-up of the first SL when the other one connects. -/
theorem firstOfTwo_setUp :
    listenForIncomingConnections firstOfTwo 1 0 (fun _ => some fromSecond)
        = some (.returned 0 [((0, 1), 5)])
      ∧ SetUpComplete firstOfTwo (fun _ => some fromSecond) [((0, 1), 5)] := by
  have hlisten : listenForIncomingConnections firstOfTwo 1 0 (fun _ => some fromSecond)
      = some (.returned 0 [((0, 1), 5)]) := rfl
  have hpassive : (0, 1) ∈ passivePeers firstOfTwo := by decide
  have hannounces : Announces fromSecond (0, 1) :=
    announces_helloMessage (by decide) (by decide) rfl
  refine ⟨hlisten, ((setUp_iff firstOfTwo).2 _ _ _ _ hlisten).mpr ⟨fun _ => (0, 1), ?_, ?_⟩⟩
  · exact fun i _ => ⟨hpassive, fromSecond, rfl, hannounces⟩
  · intro i hi j hj _
    have hone : expectedConnections firstOfTwo = 1 := by decide
    omega

/-- Its only `accept` fails, and it is done without a connection. -/
theorem firstOfTwo_not_setUp : ¬ ∀ conf fuel listening accept fdSockets,
    listenForIncomingConnections conf fuel listening accept = some (.returned 0 fdSockets) →
      SetUpComplete conf accept fdSockets := fun h => by
  obtain ⟨fd, hfilter, -⟩ := h firstOfTwo 0 0 (fun _ => none) [] rfl (0, 1) (by decide)
  cases hfilter

end RCanopus
