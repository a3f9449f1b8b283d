import RCanopus.Bytes

/-!
# Sending and receiving bytes, `PeerConnection.cpp`

`PeerConnection::send` and `PeerConnection::recv` call the operating system until all bytes are sent
or received. They leave the loop for a negative result, but a result of 0 is taken for progress.

* `Connection`: what the peer and the operating system do when bytes are received.
* `send_open`: the loop of `PeerConnection::send` ends when every call sends something.
* `recv_ends_iff`: that of `PeerConnection::recv` ends exactly when the peer does not close the
  connection before.
-/

namespace RCanopus

/-! ## `PeerConnection::send` -/

/--
What a thread meets when it sends: the results of the operating system's `send`, call by call, and
whether control comes back from the end of `PeerConnection::send`, which is declared `bool` and has
no `return` statement.
-/
structure SendCalls where
  results : Nat → Int
  returns : Bool

namespace SendCalls

/-- After one call of the operating system. -/
def next (calls : SendCalls) : SendCalls where
  results := fun i => calls.results (i + 1)
  returns := calls.returns

/-- Every call sends something, and `PeerConnection::send` comes back. -/
structure Open (calls : SendCalls) : Prop where
  positive : ∀ i, 0 < calls.results i
  returns : calls.returns = true

theorem Open.next {calls : SendCalls} (h : calls.Open) : calls.next.Open where
  positive := fun i => h.positive (i + 1)
  returns := h.returns

end SendCalls

/-- How `PeerConnection::send` ends, with what it has put on the socket. -/
inductive SendOutcome where
  | returned (written : List UInt8) (calls : SendCalls)
  /-- `EXCEPTION_SEND` -/
  | exceptionSend (written : List UInt8)
  /-- Control has left the function at its end and does not come back. -/
  | lost (written : List UInt8)

/--
The loop of `PeerConnection::send`. The operating system takes no more than it was given. The result
is `none` when `fuel` iterations did not end it.
-/
def sendLoop (src : List UInt8) (size : Nat) :
    Nat → SendCalls → Nat → List UInt8 → Option SendOutcome
  | 0, _, _, _ => none
  | fuel + 1, calls, sizeSent, written =>
    if sizeSent < size then
      let ret := min (calls.results 0) ((size - sizeSent : Nat) : Int)
      if ret < 0 then some (.exceptionSend written)
      else
        sendLoop src size fuel calls.next (sizeSent + ret.toNat)
          (written ++ (src.drop sizeSent).take ret.toNat)
    else if calls.returns then some (.returned written calls)
    else some (.lost written)

/-- `PeerConnection::send`. -/
def PeerConnection.send (fuel : Nat) (calls : SendCalls) (src : List UInt8) (size : Nat) :
    Option SendOutcome :=
  sendLoop src size fuel calls 0 []

/-- All of the buffer was written, or a beginning of it. -/
def Written (src : List UInt8) : SendOutcome → Prop
  | .returned written _ => written = src
  | .exceptionSend written => written <+: src
  | .lost written => written = src

section

variable {src written : List UInt8} {fuel sizeSent : Nat} {calls : SendCalls} {o : SendOutcome}

theorem sendLoop_written (hle : sizeSent ≤ src.length)
    (h : sendLoop src src.length fuel calls sizeSent (src.take sizeSent) = some o) :
    Written src o := by
  induction fuel generalizing calls sizeSent with
  | zero => exact absurd h (by simp [sendLoop])
  | succ fuel ih =>
    unfold sendLoop at h
    split at h
    · next hlt =>
      dsimp only at h
      split at h
      · rw [← Option.some.inj h]
        exact List.take_prefix _ _
      · next hret =>
        rw [← List.take_add] at h
        exact ih (by omega) h
    · next hge =>
      have htake : src.take sizeSent = src := List.take_of_length_le (Nat.not_lt.mp hge)
      split at h
      · rw [← Option.some.inj h]
        exact htake
      · rw [← Option.some.inj h]
        exact htake

/-- What `PeerConnection::send` has put on the socket when it ends. -/
theorem send_written (h : PeerConnection.send fuel calls src src.length = some o) :
    Written src o :=
  sendLoop_written (Nat.zero_le _) (by rw [List.take_zero]; exact h)

/-- Each call brings the loop closer to its end. -/
theorem sendLoop_open (hopen : calls.Open) (hfuel : src.length - sizeSent < fuel) :
    ∃ written' calls', sendLoop src src.length fuel calls sizeSent written
      = some (.returned written' calls') ∧ calls'.Open := by
  induction fuel generalizing calls sizeSent written with
  | zero => exact absurd hfuel (Nat.not_lt_zero _)
  | succ fuel ih =>
    unfold sendLoop
    split
    · next hlt =>
      have hpos := hopen.positive 0
      dsimp only
      rw [if_neg (by omega)]
      exact ih hopen.next (by omega)
    · rw [if_pos hopen.returns]
      exact ⟨_, _, rfl, hopen⟩

/-- **The send loop** ends, with the whole buffer on the socket, when every call sends something. -/
theorem send_open (hopen : calls.Open) (hfuel : src.length < fuel) :
    ∃ calls', PeerConnection.send fuel calls src src.length = some (.returned src calls')
      ∧ calls'.Open := by
  obtain ⟨written, calls', hrun, hopen'⟩ : ∃ written calls',
      PeerConnection.send fuel calls src src.length = some (.returned written calls')
        ∧ calls'.Open := sendLoop_open hopen hfuel
  obtain rfl : written = src := send_written hrun
  exact ⟨calls', hrun, hopen'⟩

end

/-! ## `PeerConnection::recv` -/

/--
A connection from one call of the operating system's `recv` on: what the calls return and the
bytes that the peer sends. Once the peer has closed the connection all results are 0.
-/
structure Connection where
  results : Nat → Int
  stream : Nat → UInt8
  closed : ∀ i j, i ≤ j → results i = 0 → results j = 0

namespace Connection

variable (conn : Connection)

/-- The next result, with room for some bytes. There are never more than fit. -/
def nextResult (space : Nat) : Int := min (conn.results 0) space

/-- The connection after a call that has returned some bytes. -/
def advance (bytes : Nat) : Connection where
  results := fun i => conn.results (i + 1)
  stream := fun i => conn.stream (bytes + i)
  closed := fun i j hij => conn.closed (i + 1) (j + 1) (Nat.succ_le_succ hij)

/-- How many bytes the first `k` calls return, when there is room for them. -/
def got (k : Nat) : Nat := ((List.range k).map fun i => (conn.results i).toNat).sum

/-- The peer closes the connection before it has sent `n` bytes, and no call fails before. -/
def ClosesBefore (n : Nat) : Prop :=
  ∃ k, (∀ i < k, 0 < conn.results i) ∧ conn.results k = 0 ∧ conn.got k < n

end Connection

/-- How `PeerConnection::recv` ends: it throws `EXCEPTION_RECV`, or it has filled `dest`. -/
inductive RecvOutcome where
  | returned (dest : Nat → UInt8) (conn : Connection)
  | exceptionRecv

/-- The memory after the operating system has put `size` bytes at an offset. -/
def writeAt (dest : Nat → UInt8) (offset size : Nat) (bytes : Nat → UInt8) : Nat → UInt8 :=
  fun i => if offset ≤ i ∧ i < offset + size then bytes (i - offset) else dest i

/--
The loop of `PeerConnection::recv`. `dest` is the memory from the pointer on. The result is `none`
when `fuel` iterations did not end it.
-/
def recvLoop (bytesToReceive : Nat) :
    Nat → Connection → Nat → (Nat → UInt8) → Option RecvOutcome
  | 0, _, _, _ => none
  | fuel + 1, conn, received, dest =>
    if received < bytesToReceive then
      let ret := conn.nextResult (bytesToReceive - received)
      if ret < 0 then some .exceptionRecv
      else
        recvLoop bytesToReceive fuel (conn.advance ret.toNat) (received + ret.toNat)
          (writeAt dest received ret.toNat conn.stream)
    else some (.returned dest conn)

/-- `PeerConnection::recv`. -/
def PeerConnection.recv (fuel : Nat) (conn : Connection) (bytesToReceive : Nat)
    (dest : Nat → UInt8) : Option RecvOutcome :=
  recvLoop bytesToReceive fuel conn 0 dest

/-- The call throws, or it returns with the next `n` bytes and has not touched other memory. -/
def Delivered (conn : Connection) (n : Nat) (dest : Nat → UInt8) : RecvOutcome → Prop
  | .exceptionRecv => True
  | .returned dest' conn' =>
    (∀ i < n, dest' i = conn.stream i) ∧ (∀ i, n ≤ i → dest' i = dest i)
      ∧ conn'.stream = fun i => conn.stream (n + i)

section

variable {conn : Connection} {n received fuel : Nat} {dest : Nat → UInt8}

/-! ## One iteration -/

theorem recvLoop_full (h : n ≤ received) :
    recvLoop n (fuel + 1) conn received dest = some (.returned dest conn) := by
  unfold recvLoop
  rw [if_neg (Nat.not_lt.mpr h)]

theorem recvLoop_error (h : received < n) (hret : conn.results 0 < 0) :
    recvLoop n (fuel + 1) conn received dest = some .exceptionRecv := by
  have hneg : conn.nextResult (n - received) < 0 := lt_of_le_of_lt (min_le_left _ _) hret
  unfold recvLoop
  rw [if_pos h]
  dsimp only
  rw [if_pos hneg]

/-- What an iteration gets: some bytes, but not more than are missing. -/
theorem recvLoop_next (fuel : Nat) (dest : Nat → UInt8) {bytes : Nat} (h : received < n)
    (hret : 0 ≤ conn.results 0) (hbytes : bytes = min (conn.results 0).toNat (n - received)) :
    recvLoop n (fuel + 1) conn received dest
      = recvLoop n fuel (conn.advance bytes) (received + bytes)
          (writeAt dest received bytes conn.stream) := by
  have hnext : ¬ conn.nextResult (n - received) < 0 := by
    unfold Connection.nextResult
    omega
  have htoNat : (conn.nextResult (n - received)).toNat = bytes := by
    unfold Connection.nextResult
    omega
  conv_lhs => unfold recvLoop
  rw [if_pos h]
  dsimp only
  rw [if_neg hnext, htoNat]

/-- A result of 0 changes nothing but the number of calls. -/
theorem writeAt_zero (bytes : Nat → UInt8) : writeAt dest received 0 bytes = dest := by
  funext i
  unfold writeAt
  rw [if_neg (by omega)]

/-! ## A closed connection -/

/-- Once the connection is closed the loop goes on forever. -/
theorem recvLoop_closed (h : received < n) (hclosed : conn.results 0 = 0) :
    recvLoop n fuel conn received dest = none := by
  induction fuel generalizing conn with
  | zero => rfl
  | succ fuel ih =>
    have hzero : 0 = min (conn.results 0).toNat (n - received) := by
      rw [hclosed]
      exact (Nat.zero_min _).symm
    rw [recvLoop_next fuel dest h (Int.le_of_eq hclosed.symm) hzero, writeAt_zero, Nat.add_zero]
    exact ih (conn.closed 0 1 (Nat.zero_le 1) hclosed)

theorem Connection.got_succ (conn : Connection) (bytes k : Nat) :
    conn.got (k + 1) = (conn.results 0).toNat + (conn.advance bytes).got k := by
  unfold got advance
  rw [List.range_succ_eq_map, List.map_cons, List.sum_cons, List.map_map]
  rfl

/-- The connection is closed later: the loop gets to that call and no further. -/
theorem recvLoop_closesBefore (h : conn.ClosesBefore (n - received)) :
    recvLoop n fuel conn received dest = none := by
  obtain ⟨k, hpos, hclosed, hgot⟩ := h
  induction k generalizing conn received fuel dest with
  | zero => exact recvLoop_closed (by omega) hclosed
  | succ k ih =>
    have hfirst := hpos 0 (Nat.succ_pos k)
    cases fuel with
    | zero => rfl
    | succ fuel =>
      have hsucc := conn.got_succ (min (conn.results 0).toNat (n - received)) k
      rw [recvLoop_next fuel dest (by omega) (Int.le_of_lt hfirst) rfl]
      refine ih (fun i hi => hpos (i + 1) (Nat.succ_lt_succ hi)) hclosed ?_
      omega

/-! ## An open connection -/

/-- A call that has returned some bytes does not close the connection. -/
theorem Connection.not_closesBefore_advance {missing bytes : Nat} (hpos : 0 < conn.results 0)
    (hbytes : bytes = min (conn.results 0).toNat missing)
    (hopen : ¬ conn.ClosesBefore missing) :
    ¬ (conn.advance bytes).ClosesBefore (missing - bytes) := by
  rintro ⟨k, hk, hclosed, hgot⟩
  have hsucc := conn.got_succ bytes k
  refine hopen ⟨k + 1, fun i hi => ?_, hclosed, by omega⟩
  cases i with
  | zero => exact hpos
  | succ i => exact hk i (Nat.lt_of_succ_lt_succ hi)

/-- What the loop leaves behind when `received` bytes were there before. -/
def Filled (conn : Connection) (n received : Nat) (dest : Nat → UInt8) : RecvOutcome → Prop
  | .exceptionRecv => True
  | .returned dest' conn' =>
    (∀ i, received ≤ i → i < n → dest' i = conn.stream (i - received))
      ∧ (∀ i, i < received ∨ n ≤ i → dest' i = dest i)
      ∧ conn'.stream = fun i => conn.stream (n - received + i)

/-- The bytes of one call and those of the calls after it. -/
theorem Filled.next {bytes : Nat} {r : RecvOutcome} (hle : received + bytes ≤ n)
    (hr : Filled (conn.advance bytes) n (received + bytes)
      (writeAt dest received bytes conn.stream) r) : Filled conn n received dest r := by
  cases r with
  | exceptionRecv => trivial
  | returned dest' conn' =>
    obtain ⟨hfilled, hkept, hrest⟩ := hr
    refine ⟨?_, ?_, ?_⟩
    · intro i hi hin
      rcases Nat.lt_or_ge i (received + bytes) with hnew | hlater
      · rw [hkept i (Or.inl hnew)]
        exact if_pos ⟨hi, hnew⟩
      · rw [hfilled i hlater hin]
        refine congrArg conn.stream ?_
        omega
    · intro i hi
      rw [hkept i (by omega)]
      exact if_neg (by omega)
    · rw [hrest]
      funext i
      refine congrArg conn.stream ?_
      omega

/-- Whenever the loop ends, it has filled in what was missing. -/
theorem recvLoop_filled {r : RecvOutcome} (hle : received ≤ n)
    (h : recvLoop n fuel conn received dest = some r) : Filled conn n received dest r := by
  induction fuel generalizing conn received dest with
  | zero => exact absurd h (by simp [recvLoop])
  | succ fuel ih =>
    rcases Nat.lt_or_ge received n with hlt | hge
    · rcases lt_or_ge (conn.results 0) 0 with hneg | hret
      · rw [recvLoop_error hlt hneg] at h
        rw [← Option.some.inj h]
        trivial
      · rw [recvLoop_next fuel dest hlt hret rfl] at h
        exact (ih (by omega) h).next (by omega)
    · rw [recvLoop_full hge] at h
      rw [← Option.some.inj h]
      refine ⟨fun i hi hin => by omega, fun i _ => rfl, ?_⟩
      funext i
      refine congrArg conn.stream ?_
      omega

/-- Without an early close every call brings the loop closer to its end. -/
theorem recvLoop_ends (conn : Connection) (received : Nat) (dest : Nat → UInt8)
    (hopen : ¬ conn.ClosesBefore (n - received)) :
    ∃ fuel r, recvLoop n fuel conn received dest = some r := by
  -- by induction on the number of bytes that are missing
  obtain ⟨missing, hmissing⟩ : ∃ missing, n - received = missing := ⟨_, rfl⟩
  induction missing using Nat.strong_induction_on generalizing conn received dest with
  | _ missing ih =>
    rcases Nat.lt_or_ge received n with hlt | hge
    · rcases Int.lt_trichotomy (conn.results 0) 0 with hneg | hzero | hpos
      · exact ⟨1, _, recvLoop_error hlt hneg⟩
      · refine absurd ⟨0, fun i hi => absurd hi (Nat.not_lt_zero i), hzero, ?_⟩ hopen
        show 0 < n - received
        omega
      · obtain ⟨bytes, hbytes⟩ :
            ∃ bytes, bytes = min (conn.results 0).toNat (n - received) := ⟨_, rfl⟩
        have hopen' := Connection.not_closesBefore_advance hpos hbytes hopen
        rw [Nat.sub_sub] at hopen'
        obtain ⟨fuel, r, hrun⟩ := ih (n - (received + bytes)) (by omega)
          (conn.advance bytes) (received + bytes) (writeAt dest received bytes conn.stream)
          hopen' rfl
        exact ⟨fuel + 1, r, (recvLoop_next fuel dest hlt (Int.le_of_lt hpos) hbytes).trans hrun⟩
    · exact ⟨1, _, recvLoop_full hge⟩

/-- More fuel does not change the result. -/
theorem recvLoop_more {r : RecvOutcome} {fuel' : Nat} (hle : fuel ≤ fuel')
    (h : recvLoop n fuel conn received dest = some r) :
    recvLoop n fuel' conn received dest = some r := by
  induction fuel generalizing conn received dest fuel' with
  | zero => exact absurd h (by simp [recvLoop])
  | succ fuel ih =>
    obtain ⟨fuel', rfl⟩ : ∃ k, fuel' = k + 1 := ⟨fuel' - 1, by omega⟩
    unfold recvLoop at h ⊢
    split at h
    next hmissing =>
      rw [if_pos hmissing]
      dsimp only at h ⊢
      split at h
      next hneg => rw [if_pos hneg, h]
      next hneg =>
        rw [if_neg hneg]
        exact ih (Nat.le_of_succ_le_succ hle) h
    next hfull => rw [if_neg hfull, h]

/-- What `PeerConnection::recv` has done when it ends. -/
theorem recv_delivered {r : RecvOutcome} (h : PeerConnection.recv fuel conn n dest = some r) :
    Delivered conn n dest r := by
  have hr := recvLoop_filled (Nat.zero_le n) h
  cases r with
  | exceptionRecv => trivial
  | returned dest' conn' =>
    obtain ⟨hfilled, hkept, hrest⟩ := hr
    exact ⟨fun i hi => hfilled i (Nat.zero_le i) hi, fun i hi => hkept i (Or.inr hi), hrest⟩

/--
**The receive loop** ends, with an exception or with the next bytes in order, exactly when the peer
does not close the connection before it has sent them all and no call has failed.
-/
theorem recv_ends_iff (conn : Connection) (n : Nat) (dest : Nat → UInt8) :
    (∃ fuel r, PeerConnection.recv fuel conn n dest = some r ∧ Delivered conn n dest r)
      ↔ ¬ conn.ClosesBefore n := by
  constructor
  · rintro ⟨fuel, r, hrun, -⟩ hclosed
    have hnone : recvLoop n fuel conn 0 dest = none := recvLoop_closesBefore hclosed
    unfold PeerConnection.recv at hrun
    rw [hnone] at hrun
    exact absurd hrun (by simp)
  · intro hopen
    obtain ⟨fuel, r, hrun⟩ := recvLoop_ends conn 0 dest hopen
    exact ⟨fuel, r, hrun, recv_delivered hrun⟩

/-- A peer that closes the connection before it has sent anything. -/
def closedConnection : Connection where
  results := fun _ => 0
  stream := fun _ => 0
  closed := fun _ _ _ _ => rfl

/-- The loop waits forever for the 8 bytes of a header. -/
theorem recv_closedConnection :
    (∀ fuel, PeerConnection.recv fuel closedConnection 8 (fun _ => 0) = none)
      ∧ ¬ ∃ fuel r, PeerConnection.recv fuel closedConnection 8 (fun _ => 0) = some r
        ∧ Delivered closedConnection 8 (fun _ => 0) r := by
  have hnone : ∀ fuel, PeerConnection.recv fuel closedConnection 8 (fun _ => 0) = none :=
    fun fuel => recvLoop_closed (by decide) rfl
  refine ⟨hnone, ?_⟩
  rintro ⟨fuel, r, hrun, -⟩
  rw [hnone] at hrun
  exact absurd hrun (by simp)

end

end RCanopus
