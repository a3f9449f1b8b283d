import RCanopus.Lib.Slice
import RCanopus.Message

/-!
# The codecs of `message.cpp`

`serialize` and `partialDeserialize` convert the fields of a message in place. Here a message is
the buffer that holds it, and an access outside the buffer is `none`.

## Structure

* `serialize` and `decode`, one function for each struct of `message.h`.
* `serialize_eq` and `decode_eq`: both turn the bytes of a list of fields around. The two lists of
  one struct are permutations of each other.
-/

namespace RCanopus

/-! ## Fields -/

/--
`toBE`. On a little-endian host `htons` and `htonl` turn the bytes of the field around, and on the
other they do nothing.
-/
def toBE (h : Endian) (field : Slice) (p : List UInt8) : Option (List UInt8) :=
  if field.Within p then
    some (match h with
      | .little => field.turn p
      | .big => p)
  else none

/-- `fromBE`: `ntohs` and `ntohl` are the same conversions. -/
def fromBE (h : Endian) (field : Slice) (p : List UInt8) : Option (List UInt8) := toBE h field p

/-- `toBE` of some fields, one after the other. -/
def toBEAll (h : Endian) (fields : List Slice) (p : List UInt8) : Option (List UInt8) :=
  fields.foldlM (fun p field => toBE h field p) p

/-- `fromBE` of some fields, one after the other. -/
def fromBEAll (h : Endian) (fields : List Slice) (p : List UInt8) : Option (List UInt8) :=
  fields.foldlM (fun p field => fromBE h field p) p

/-- A `uint16_t` at an offset of a struct. -/
def u16Field (offset : Nat) : Slice := { offset := offset, size := 2 }

/-- A `uint32_t` at an offset of a struct. -/
def u32Field (offset : Nat) : Slice := { offset := offset, size := 4 }

/-! ## The header -/

/-- `version`, `msgType` and `payloadLen`. -/
def headerFields : List Slice := [u16Field 0, u16Field 2, u32Field 4]

def MessageHeader.serialize (h : Endian) : List UInt8 → Option (List UInt8) :=
  toBEAll h headerFields

def MessageHeaderBE.deserialize (h : Endian) : List UInt8 → Option (List UInt8) :=
  fromBEAll h headerFields

/-- The header, and then the fields of the struct. -/
def serializeWithHeader (h : Endian) (fields : List Slice) (p : List UInt8) :
    Option (List UInt8) :=
  (MessageHeader.serialize h p).bind (toBEAll h fields)

/-! ## The structs -/

def MessageHello.serialize (h : Endian) : List UInt8 → Option (List UInt8) :=
  serializeWithHeader h [u16Field 8, u16Field 10]

/-- This one calls `toBE`. -/
def MessageHelloBE.partialDeserialize (h : Endian) : List UInt8 → Option (List UInt8) :=
  toBEAll h [u16Field 8, u16Field 10]

def MessageRound2Request.serialize (h : Endian) : List UInt8 → Option (List UInt8) :=
  serializeWithHeader h [u16Field 8]

def MessageRound2RequestBE.partialDeserialize (h : Endian) : List UInt8 → Option (List UInt8) :=
  fromBEAll h [u16Field 8]

/-- The offset of `numOfRound3Participants` in a Preprepare. -/
def numOfRound3ParticipantsOffset : Nat := 24

/-- `numOfRound3Participants`. -/
def countField : Slice := u16Field numOfRound3ParticipantsOffset

/-- The fields before `numOfRound3Participants`. -/
def preprepareFields : List Slice :=
  [u16Field 8, u16Field 10, u16Field 12, u16Field 14, u16Field 16, u16Field 18, u16Field 20,
    u16Field 22]

/-- The first `n` participants. -/
def participantFields (n : Nat) : List Slice :=
  (List.range n).map fun i => u16Field (sizeofMessageRound2Preprepare + 2 * i)

/-- The loop reads its bound from the buffer, where it does not write to it. -/
def MessageRound2Preprepare.serialize (h : Endian) (p : List UInt8) : Option (List UInt8) := do
  let p ← serializeWithHeader h preprepareFields p
  let p ← toBEAll h
    (participantFields (u16At h p numOfRound3ParticipantsOffset).toNat) p
  toBE h countField p

def MessageRound2PreprepareBE.partialDeserialize (h : Endian) (p : List UInt8) :
    Option (List UInt8) := do
  let p ← fromBEAll h preprepareFields p
  let p ← fromBE h countField p
  fromBEAll h (participantFields (u16At h p numOfRound3ParticipantsOffset).toNat) p

def MessageRound2PartialCommit.serialize (h : Endian) : List UInt8 → Option (List UInt8) :=
  serializeWithHeader h [u16Field 8, u16Field 10, u16Field 12]

def MessageRound2PartialCommitBE.partialDeserialize (h : Endian) :
    List UInt8 → Option (List UInt8) :=
  fromBEAll h [u16Field 8, u16Field 10, u16Field 12]

def MessageRound2FullCommit.serialize (h : Endian) : List UInt8 → Option (List UInt8) :=
  serializeWithHeader h [u16Field 8, u16Field 10, u16Field 12]

def MessageRound2FullCommitBE.partialDeserialize (h : Endian) :
    List UInt8 → Option (List UInt8) :=
  fromBEAll h [u16Field 8, u16Field 10, u16Field 12]

/-- The last three are the fields of `hash`. -/
def MessageRound3FetchRequest.serialize (h : Endian) : List UInt8 → Option (List UInt8) :=
  serializeWithHeader h
    [u16Field 8, u16Field 10, u16Field 12, u16Field 14, u16Field 16, u16Field 18]

def MessageRound3FetchRequestBE.partialDeserialize (h : Endian) :
    List UInt8 → Option (List UInt8) :=
  fromBEAll h [u16Field 8, u16Field 10, u16Field 12, u16Field 14, u16Field 16, u16Field 18]

def MessageRound3FetchResponse.serialize (h : Endian) : List UInt8 → Option (List UInt8) :=
  serializeWithHeader h [u16Field 8, u16Field 10, u16Field 12]

def MessageRound3FetchResponseBE.partialDeserialize (h : Endian) :
    List UInt8 → Option (List UInt8) :=
  fromBEAll h [u16Field 8, u16Field 10, u16Field 12]

def MessageRound3GeneralFetch.serialize (h : Endian) : List UInt8 → Option (List UInt8) :=
  serializeWithHeader h [u16Field 8, u16Field 10, u16Field 12, u16Field 14]

def MessageRound3GeneralFetchBE.partialDeserialize (h : Endian) :
    List UInt8 → Option (List UInt8) :=
  fromBEAll h [u16Field 8, u16Field 10, u16Field 12, u16Field 14]

/-- The last two come after the signature. -/
def MessageRound3FullMembership.serialize (h : Endian) : List UInt8 → Option (List UInt8) :=
  serializeWithHeader h [u16Field 8, u16Field 10, u16Field 44, u16Field 46]

def MessageRound3FullMembershipBE.partialDeserialize (h : Endian) :
    List UInt8 → Option (List UInt8) :=
  fromBEAll h [u16Field 8, u16Field 10, u16Field 44, u16Field 46]

def MessageRound3PreprepareBaseline.serialize (h : Endian) : List UInt8 → Option (List UInt8) :=
  serializeWithHeader h [u16Field 8, u16Field 10, u16Field 12]

def MessageRound3PreprepareBaselineBE.partialDeserialize (h : Endian) :
    List UInt8 → Option (List UInt8) :=
  fromBEAll h [u16Field 8, u16Field 10, u16Field 12]

def MessageRound3PartialCommitBaseline.serialize (h : Endian) :
    List UInt8 → Option (List UInt8) :=
  serializeWithHeader h [u16Field 8, u16Field 10]

def MessageRound3PartialCommitBaselineBE.partialDeserialize (h : Endian) :
    List UInt8 → Option (List UInt8) :=
  fromBEAll h [u16Field 8, u16Field 10]

def MessageRound3FullCommitBaseline.serialize (h : Endian) : List UInt8 → Option (List UInt8) :=
  serializeWithHeader h [u16Field 8, u16Field 10]

def MessageRound3FullCommitBaselineBE.partialDeserialize (h : Endian) :
    List UInt8 → Option (List UInt8) :=
  fromBEAll h [u16Field 8, u16Field 10]

/-! ## All structs -/

/-- The structs of `message.h` that have a codec. -/
inductive WireFormat where
  | hello
  | round2Request
  | round2Preprepare
  | round2PartialCommit
  | round2FullCommit
  | round3FetchRequest
  /-- Also `MessageRound3Connectivity`. -/
  | round3FetchResponse
  | round3GeneralFetch
  | round3FullMembership
  | round3PreprepareBaseline
  | round3PartialCommitBaseline
  | round3FullCommitBaseline
  deriving DecidableEq, Repr

namespace WireFormat

/-- The `serialize` of a struct. -/
def serialize (h : Endian) : WireFormat → List UInt8 → Option (List UInt8)
  | .hello => MessageHello.serialize h
  | .round2Request => MessageRound2Request.serialize h
  | .round2Preprepare => MessageRound2Preprepare.serialize h
  | .round2PartialCommit => MessageRound2PartialCommit.serialize h
  | .round2FullCommit => MessageRound2FullCommit.serialize h
  | .round3FetchRequest => MessageRound3FetchRequest.serialize h
  | .round3FetchResponse => MessageRound3FetchResponse.serialize h
  | .round3GeneralFetch => MessageRound3GeneralFetch.serialize h
  | .round3FullMembership => MessageRound3FullMembership.serialize h
  | .round3PreprepareBaseline => MessageRound3PreprepareBaseline.serialize h
  | .round3PartialCommitBaseline => MessageRound3PartialCommitBaseline.serialize h
  | .round3FullCommitBaseline => MessageRound3FullCommitBaseline.serialize h

/-- The `partialDeserialize` of a struct. -/
def partialDeserialize (h : Endian) : WireFormat → List UInt8 → Option (List UInt8)
  | .hello => MessageHelloBE.partialDeserialize h
  | .round2Request => MessageRound2RequestBE.partialDeserialize h
  | .round2Preprepare => MessageRound2PreprepareBE.partialDeserialize h
  | .round2PartialCommit => MessageRound2PartialCommitBE.partialDeserialize h
  | .round2FullCommit => MessageRound2FullCommitBE.partialDeserialize h
  | .round3FetchRequest => MessageRound3FetchRequestBE.partialDeserialize h
  | .round3FetchResponse => MessageRound3FetchResponseBE.partialDeserialize h
  | .round3GeneralFetch => MessageRound3GeneralFetchBE.partialDeserialize h
  | .round3FullMembership => MessageRound3FullMembershipBE.partialDeserialize h
  | .round3PreprepareBaseline => MessageRound3PreprepareBaselineBE.partialDeserialize h
  | .round3PartialCommitBaseline => MessageRound3PartialCommitBaselineBE.partialDeserialize h
  | .round3FullCommitBaseline => MessageRound3FullCommitBaselineBE.partialDeserialize h

/-- How `recvMessage_caller_free_mem` decodes: first the header, then the rest. -/
def decode (h : Endian) (t : WireFormat) (p : List UInt8) : Option (List UInt8) :=
  (MessageHeaderBE.deserialize h p).bind (t.partialDeserialize h)

/-! ## The layout of `message.h` -/

/-- The `sizeof` of a struct. -/
def size : WireFormat → Nat
  | .hello => 12
  | .round2Request => sizeofMessageRound2Request
  | .round2Preprepare => sizeofMessageRound2Preprepare
  | .round2PartialCommit => sizeofMessageRound2PartialCommit
  | .round2FullCommit => sizeofMessageRound2FullCommit
  | .round3FetchRequest => sizeofMessageRound3FetchRequest
  | .round3FetchResponse => sizeofMessageRound3FetchResponse
  | .round3GeneralFetch => sizeofMessageRound3GeneralFetch
  | .round3FullMembership => sizeofMessageRound3FullMembership
  | .round3PreprepareBaseline => 14
  | .round3PartialCommitBaseline => 44
  | .round3FullCommitBaseline => 44

/-- The offsets of the `uint16_t` fields of a struct after its header. -/
def u16Offsets : WireFormat → List Nat
  | .hello => [8, 10]
  | .round2Request => [8]
  | .round2Preprepare => [8, 10, 12, 14, 16, 18, 20, 22, 24]
  | .round2PartialCommit => [8, 10, 12]
  | .round2FullCommit => [8, 10, 12]
  | .round3FetchRequest => [8, 10, 12, 14, 16, 18]
  | .round3FetchResponse => [8, 10, 12]
  | .round3GeneralFetch => [8, 10, 12, 14]
  | .round3FullMembership => [8, 10, 44, 46]
  | .round3PreprepareBaseline => [8, 10, 12]
  | .round3PartialCommitBaseline => [8, 10]
  | .round3FullCommitBaseline => [8, 10]

/-- How many participants a buffer in the byte order `o` lists. -/
def listed (o : Endian) (t : WireFormat) (p : List UInt8) : Nat :=
  match t with
  | .round2Preprepare => (u16At o p numOfRound3ParticipantsOffset).toNat
  | _ => 0

/-- The multi-byte fields: those of the header, those of the struct and the participants. -/
def fields (t : WireFormat) (participants : Nat) : List Slice :=
  headerFields ++ t.u16Offsets.map u16Field
    ++ participantFields participants

/-- The payload of a buffer in the byte order `o` holds the fixed fields and the participants. -/
def Holds (o : Endian) (t : WireFormat) (p : List UInt8) : Prop :=
  t.size + 2 * t.listed o p ≤ p.length

instance (o : Endian) (t : WireFormat) (p : List UInt8) : Decidable (t.Holds o p) :=
  inferInstanceAs (Decidable (_ ≤ _))

end WireFormat

/-- Two buffers differ at most in some fields. -/
def SameOutside (fields : List Slice) (p q : List UInt8) : Prop :=
  p.length = q.length ∧ ∀ i, (∀ field ∈ fields, ¬ field.Covers i) → p[i]? = q[i]?

/-! ## What the codecs do -/

/-- The fields turned around on a little-endian host. -/
def turnFields (h : Endian) (fields : List Slice) (p : List UInt8) : List UInt8 :=
  match h with
  | .little => Slice.turnAll fields p
  | .big => p

section Convert

variable {h : Endian} {fields fields' : List Slice} {p : List UInt8}

@[simp] theorem length_turnFields (h : Endian) (fields : List Slice) (p : List UInt8) :
    (turnFields h fields p).length = p.length := by
  cases h <;> simp [turnFields]

@[simp] theorem within_turnFields (field : Slice) :
    field.Within (turnFields h fields p) ↔ field.Within p := by
  simp [Slice.Within]

theorem turnFields_append (h : Endian) (fields fields' : List Slice) (p : List UInt8) :
    turnFields h (fields ++ fields') p = turnFields h fields' (turnFields h fields p) := by
  cases h with
  | little => exact Slice.turnAll_append fields fields' p
  | big => rfl

theorem turnFields_turnFields (hp : fields.Perm fields') (hw : ∀ f ∈ fields, f.Within p)
    (hd : fields.Pairwise Slice.Disjoint) :
    turnFields h fields' (turnFields h fields p) = p := by
  cases h with
  | little => exact Slice.turnAll_turnAll_of_perm hp hw hd
  | big => rfl

theorem sameOutside_turnFields (hw : ∀ f ∈ fields, f.Within p) :
    SameOutside fields p (turnFields h fields p) := by
  refine ⟨(length_turnFields h fields p).symm, fun i hi => ?_⟩
  cases h with
  | little => exact (Slice.getElem?_turnAll_of_not_covers hw hi).symm
  | big => rfl

theorem SameOutside.of_mem {q : List UInt8} (hs : SameOutside fields p q)
    (hm : ∀ f ∈ fields, f ∈ fields') : SameOutside fields' p q :=
  ⟨hs.1, fun i hi => hs.2 i fun f hf => hi f (hm f hf)⟩

theorem toBE_eq {f : Slice} (hf : f.Within p) : toBE h f p = some (turnFields h [f] p) := by
  unfold toBE
  rw [if_pos hf]
  cases h <;> rfl

/-- With all fields in the buffer the conversion succeeds. -/
theorem toBEAll_eq (hw : ∀ f ∈ fields, f.Within p) :
    toBEAll h fields p = some (turnFields h fields p) := by
  induction fields generalizing p with
  | nil => cases h <;> rfl
  | cons f fields ih =>
    have hrest : ∀ g ∈ fields, g.Within (turnFields h [f] p) := fun g hg =>
      (within_turnFields g).mpr (hw g (by simp [hg]))
    have : toBEAll h (f :: fields) p = (toBE h f p).bind (toBEAll h fields) := rfl
    rw [this, toBE_eq (hw f (by simp)), Option.bind_some, ih hrest, ← turnFields_append]
    rfl

theorem fromBEAll_eq (hw : ∀ f ∈ fields, f.Within p) :
    fromBEAll h fields p = some (turnFields h fields p) := toBEAll_eq hw

/-- A conversion that succeeds stays in the buffer. -/
theorem toBEAll_some {q : List UInt8} (hq : toBEAll h fields p = some q) :
    (∀ f ∈ fields, f.Within p) ∧ q = turnFields h fields p := by
  induction fields generalizing p with
  | nil =>
    refine ⟨fun f hf => absurd hf List.not_mem_nil, ?_⟩
    rw [← Option.some.inj hq]
    cases h <;> rfl
  | cons f fields ih =>
    have hcons : (toBE h f p).bind (toBEAll h fields) = some q := hq
    obtain ⟨p', hf, hrest⟩ := Option.bind_eq_some_iff.mp hcons
    have hwithin : f.Within p := by
      unfold toBE at hf
      split at hf
      · assumption
      · exact absurd hf (by simp)
    rw [toBE_eq hwithin] at hf
    rw [← Option.some.inj hf] at hrest
    obtain ⟨hwithins, hq'⟩ := ih hrest
    constructor
    · intro g hg
      rcases List.mem_cons.mp hg with rfl | hg
      · exact hwithin
      · exact (within_turnFields g).mp (hwithins g hg)
    · rw [hq', ← turnFields_append]
      rfl

end Convert

/-- Reading a `uint16_t` byte by byte. -/
theorem u16At_eq (h : Endian) (p : List UInt8) (off : Nat) :
    u16At h p off = match p[off]?, p[off + 1]? with
      | some a, some b => u16OfBytes h a b
      | _, _ => 0 := by
  have h0 : (p.drop off)[0]? = p[off]? := by rw [List.getElem?_drop, Nat.add_zero]
  have h1 : (p.drop off)[1]? = p[off + 1]? := List.getElem?_drop
  unfold u16At
  rw [← h0, ← h1]
  cases hp : p.drop off with
  | nil => rfl
  | cons a rest =>
    cases rest with
    | nil => rfl
    | cons b rest => rfl

/-- A converted `uint16_t` is in network order where it was in host order, and back. -/
theorem u16At_turnFields {h : Endian} {fields : List Slice} {p : List UInt8} {off : Nat}
    (hw : ∀ f ∈ fields, f.Within p) (hd : fields.Pairwise Slice.Disjoint)
    (hm : u16Field off ∈ fields) :
    u16At .big (turnFields h fields p) off = u16At h p off
      ∧ u16At h (turnFields h fields p) off = u16At .big p off := by
  cases h with
  | big => exact ⟨rfl, rfl⟩
  | little =>
    have h0 : (Slice.turnAll fields p)[off]? = p[off + 1]? := by
      rw [Slice.getElem?_turnAll_of_covers hw hd hm (by simp [Slice.Covers, u16Field])]
      congr 1
      simp [Slice.mirror, u16Field]
      omega
    have h1 : (Slice.turnAll fields p)[off + 1]? = p[off]? := by
      rw [Slice.getElem?_turnAll_of_covers hw hd hm (by simp [Slice.Covers, u16Field])]
      congr 1
      simp [Slice.mirror, u16Field]
      omega
    constructor
    · rw [u16At_eq, u16At_eq, turnFields, h0, h1]
      cases p[off]? <;> cases p[off + 1]? <;> rfl
    · rw [u16At_eq, u16At_eq, turnFields, h0, h1]
      cases p[off]? <;> cases p[off + 1]? <;> rfl

/-- Reading a `uint32_t` byte by byte. -/
theorem u32At_eq (h : Endian) (p : List UInt8) (off : Nat) :
    u32At h p off = match p[off]?, p[off + 1]?, p[off + 2]?, p[off + 3]? with
      | some a, some b, some c, some d => u32OfBytes h a b c d
      | _, _, _, _ => 0 := by
  have hget : ∀ i, (p.drop off)[i]? = p[off + i]? := fun i => List.getElem?_drop
  have h0 := hget 0
  rw [Nat.add_zero] at h0
  unfold u32At
  rw [← h0, ← hget 1, ← hget 2, ← hget 3]
  match p.drop off with
  | [] => rfl
  | [a] => rfl
  | [a, b] => rfl
  | [a, b, c] => rfl
  | a :: b :: c :: d :: rest => rfl

/-- A `uint32_t` that was converted from network order. -/
theorem u32At_turnFields {h : Endian} {fields : List Slice} {p : List UInt8} {off : Nat}
    (hw : ∀ f ∈ fields, f.Within p) (hd : fields.Pairwise Slice.Disjoint)
    (hm : u32Field off ∈ fields) :
    u32At h (turnFields h fields p) off = u32At .big p off := by
  cases h with
  | big => rfl
  | little =>
    have hget : ∀ i < 4, (Slice.turnAll fields p)[off + i]? = p[off + (3 - i)]? := by
      intro i hi
      have hcovers : (u32Field off).Covers (off + i) := by
        simp only [Slice.Covers, u32Field]
        omega
      rw [Slice.getElem?_turnAll_of_covers hw hd hm hcovers]
      congr 1
      unfold Slice.mirror
      unfold Slice.Covers at hcovers
      rw [if_pos hcovers]
      show 2 * off + 4 - 1 - (off + i) = off + (3 - i)
      omega
    have h0 := hget 0 (by decide)
    rw [Nat.add_zero] at h0
    rw [u32At_eq, u32At_eq, turnFields, h0, hget 1 (by decide), hget 2 (by decide),
      hget 3 (by decide)]
    simp only [Nat.sub_zero, Nat.reduceSub, Nat.add_zero]
    rcases p[off]? with _ | a <;> rcases p[off + 1]? with _ | b <;>
      rcases p[off + 2]? with _ | c <;> rcases p[off + 3]? with _ | d <;> rfl

namespace WireFormat

variable {h o : Endian} {t : WireFormat} {p : List UInt8}

/-- The fields in the order in which `serialize` converts them. -/
def serializedFields (t : WireFormat) (participants : Nat) : List Slice :=
  match t with
  | .round2Preprepare =>
    headerFields ++ preprepareFields ++ participantFields participants
      ++ [countField]
  | t => t.fields participants

theorem serializedFields_perm (t : WireFormat) (n : Nat) :
    (t.serializedFields n).Perm (t.fields n) := by
  cases t with
  | round2Preprepare =>
    have : WireFormat.fields .round2Preprepare n
        = headerFields ++ preprepareFields
          ++ [countField] ++ participantFields n := rfl
    rw [this]
    unfold serializedFields
    rw [List.append_assoc _ (participantFields n), List.append_assoc _ [_]]
    exact List.Perm.append_left _ List.perm_append_comm
  | _ => exact List.Perm.refl _

/-- The fixed fields lie in the struct. -/
theorem fixed_within (t : WireFormat) :
    ∀ f ∈ headerFields ++ t.u16Offsets.map u16Field,
      f.offset + f.size ≤ t.size := by
  cases t <;> decide

theorem fixed_disjoint (t : WireFormat) :
    (headerFields ++ t.u16Offsets.map u16Field).Pairwise
      Slice.Disjoint := by
  cases t <;> decide

theorem participantFields_disjoint (n : Nat) :
    (participantFields n).Pairwise Slice.Disjoint := by
  unfold participantFields
  rw [List.pairwise_map]
  refine List.pairwise_lt_range.imp ?_
  intro i j hij
  simp only [Slice.Disjoint, u16Field]
  omega

theorem mem_participantFields {n : Nat} {f : Slice} (hf : f ∈ participantFields n) :
    ∃ i < n, f = u16Field (sizeofMessageRound2Preprepare + 2 * i) := by
  obtain ⟨i, hi, rfl⟩ := List.mem_map.mp hf
  exact ⟨i, List.mem_range.mp hi, rfl⟩

/-- Only a Preprepare lists participants. -/
theorem participants_start (o : Endian) {f : Slice} (hf : f ∈ participantFields (t.listed o p)) :
    t.size ≤ f.offset ∧ f.offset + f.size ≤ t.size + 2 * t.listed o p := by
  obtain ⟨i, hi, rfl⟩ := mem_participantFields hf
  cases t with
  | round2Preprepare =>
    simp only [u16Field, size]
    omega
  | _ => exact absurd hi (Nat.not_lt_zero i)

theorem fields_within (hp : t.Holds o p) : ∀ f ∈ t.fields (t.listed o p), f.Within p := by
  intro f hf
  unfold Holds at hp
  unfold Slice.Within
  rcases List.mem_append.mp hf with hf | hf
  · have := fixed_within t f hf
    omega
  · have := (participants_start o hf).2
    omega

theorem fields_disjoint (o : Endian) (t : WireFormat) (p : List UInt8) :
    (t.fields (t.listed o p)).Pairwise Slice.Disjoint := by
  unfold fields
  rw [List.pairwise_append]
  refine ⟨fixed_disjoint t, participantFields_disjoint _, ?_⟩
  intro f hf g hg
  have := fixed_within t f hf
  have := (participants_start o hg).1
  left
  omega

theorem serializeWithHeader_eq {fields : List Slice}
    (hw : ∀ f ∈ headerFields ++ fields, f.Within p) :
    serializeWithHeader h fields p
      = some (turnFields h (headerFields ++ fields) p) := by
  have hhead : MessageHeader.serialize h p
      = some (turnFields h headerFields p) :=
    toBEAll_eq fun f hf => hw f (List.mem_append_left _ hf)
  unfold serializeWithHeader
  rw [hhead, Option.bind_some, toBEAll_eq, turnFields_append]
  intro f hf
  exact (within_turnFields f).mpr (hw f (List.mem_append_right _ hf))

/-- Before it converts the count, `serialize` reads it from the host. -/
theorem u16At_before_count (hp : Holds o .round2Preprepare p) :
    u16At h (turnFields h (headerFields ++ preprepareFields) p)
      numOfRound3ParticipantsOffset = u16At h p numOfRound3ParticipantsOffset := by
  have hw : ∀ f ∈ headerFields ++ preprepareFields, f.Within p :=
    fun f hf => fields_within hp f (by
      show f ∈ headerFields
        ++ (preprepareFields ++ [countField]) ++ participantFields _
      simp only [List.mem_append] at hf ⊢
      tauto)
  have hs := sameOutside_turnFields (h := h) hw
  have h0 := hs.2 numOfRound3ParticipantsOffset (by decide)
  have h1 := hs.2 (numOfRound3ParticipantsOffset + 1) (by decide)
  rw [u16At_eq, u16At_eq, h0, h1]

theorem serialize_preprepare (hp : Holds h .round2Preprepare p) :
    MessageRound2Preprepare.serialize h p
      = some (turnFields h (serializedFields .round2Preprepare
          (u16At h p numOfRound3ParticipantsOffset).toNat) p) := by
  obtain ⟨n, hn⟩ : ∃ n, listed h .round2Preprepare p = n := ⟨_, rfl⟩
  have hread : (u16At h p numOfRound3ParticipantsOffset).toNat = n := hn
  have hall := fields_within hp
  rw [hn] at hall
  have hw : ∀ f ∈ headerFields ++ preprepareFields ++ participantFields n ++ [countField],
      f.Within p := fun f hf =>
    hall f ((serializedFields_perm .round2Preprepare n).mem_iff.mp hf)
  have hfirst : serializeWithHeader h preprepareFields p
      = some (turnFields h (headerFields ++ preprepareFields) p) :=
    serializeWithHeader_eq fun f hf => hw f (List.mem_append_left _ (List.mem_append_left _ hf))
  have hparts : toBEAll h (participantFields n)
        (turnFields h (headerFields ++ preprepareFields) p)
      = some (turnFields h (headerFields ++ preprepareFields ++ participantFields n) p) := by
    rw [turnFields_append _ (headerFields ++ preprepareFields)]
    refine toBEAll_eq fun f hf => (within_turnFields f).mpr (hw f ?_)
    exact List.mem_append_left _ (List.mem_append_right _ hf)
  have hlast : toBE h countField
        (turnFields h (headerFields ++ preprepareFields ++ participantFields n) p)
      = some (turnFields h
          (headerFields ++ preprepareFields ++ participantFields n ++ [countField]) p) := by
    rw [turnFields_append _ (headerFields ++ preprepareFields ++ participantFields n)]
    exact toBE_eq ((within_turnFields _).mpr (hw _ (List.mem_append_right _ (by simp))))
  have hcount := u16At_before_count (h := h) hp
  unfold MessageRound2Preprepare.serialize
  simp only [Option.bind_eq_bind]
  rw [hfirst, Option.bind_some, hcount, hread, hparts, Option.bind_some, hlast]
  rfl

theorem serialize_of_ne (ht : t ≠ .round2Preprepare) :
    t.serialize h = serializeWithHeader h (t.u16Offsets.map u16Field) := by
  cases t with
  | round2Preprepare => exact absurd rfl ht
  | _ => rfl

theorem partialDeserialize_of_ne (ht : t ≠ .round2Preprepare) :
    t.partialDeserialize h = fromBEAll h (t.u16Offsets.map u16Field) := by
  cases t with
  | round2Preprepare => exact absurd rfl ht
  | _ => rfl

theorem fields_of_ne (ht : t ≠ .round2Preprepare) :
    t.fields (t.listed o p)
      = headerFields ++ t.u16Offsets.map u16Field := by
  have hl : t.listed o p = 0 := by
    cases t with
    | round2Preprepare => exact absurd rfl ht
    | _ => rfl
  rw [hl]
  exact List.append_nil _

theorem serializedFields_of_ne (ht : t ≠ .round2Preprepare) (n : Nat) :
    t.serializedFields n = t.fields n := by
  cases t with
  | round2Preprepare => exact absurd rfl ht
  | _ => rfl

/-- `serialize` turns the bytes of all multi-byte fields around. -/
theorem serialize_eq (hp : t.Holds h p) :
    t.serialize h p = some (turnFields h (t.serializedFields (t.listed h p)) p) := by
  by_cases ht : t = .round2Preprepare
  · subst ht
    exact serialize_preprepare hp
  · have hw := fields_within hp
    rw [fields_of_ne ht] at hw
    rw [serialize_of_ne ht, serializeWithHeader_eq hw, serializedFields_of_ne ht, fields_of_ne ht]

theorem deserialize_eq (hw : ∀ f ∈ headerFields, f.Within p) :
    MessageHeaderBE.deserialize h p
      = some (turnFields h headerFields p) := fromBEAll_eq hw

theorem decode_preprepare (hp : Holds .big .round2Preprepare p) :
    decode h .round2Preprepare p
      = some (turnFields h (fields .round2Preprepare
          (u16At .big p numOfRound3ParticipantsOffset).toNat) p) := by
  obtain ⟨n, hn⟩ : ∃ n, listed .big .round2Preprepare p = n := ⟨_, rfl⟩
  have hbig : (u16At .big p numOfRound3ParticipantsOffset).toNat = n := hn
  have hall := fields_within hp
  rw [hn] at hall
  have hw : ∀ f ∈ headerFields ++ preprepareFields ++ [countField] ++ participantFields n,
      f.Within p := hall
  have hd : (headerFields ++ preprepareFields ++ [countField]).Pairwise Slice.Disjoint :=
    (List.pairwise_append.mp (fields_disjoint .big .round2Preprepare p)).1
  have hhead : MessageHeaderBE.deserialize h p = some (turnFields h headerFields p) :=
    deserialize_eq fun f hf => hw f (by simp only [List.mem_append]; tauto)
  have hfirst : fromBEAll h preprepareFields (turnFields h headerFields p)
      = some (turnFields h (headerFields ++ preprepareFields) p) := by
    rw [turnFields_append]
    refine fromBEAll_eq fun f hf => (within_turnFields f).mpr (hw f ?_)
    simp only [List.mem_append]
    tauto
  have hcount : fromBE h countField (turnFields h (headerFields ++ preprepareFields) p)
      = some (turnFields h (headerFields ++ preprepareFields ++ [countField]) p) := by
    rw [turnFields_append _ (headerFields ++ preprepareFields)]
    refine toBE_eq ((within_turnFields _).mpr (hw _ ?_))
    exact List.mem_append_left _ (List.mem_append_right _ (by simp))
  have hread : u16At h (turnFields h (headerFields ++ preprepareFields ++ [countField]) p)
      numOfRound3ParticipantsOffset = u16At .big p numOfRound3ParticipantsOffset :=
    (u16At_turnFields (fun f hf => hw f (List.mem_append_left _ hf)) hd
      (List.mem_append_right _ (by simp [countField]))).2
  have hparts : fromBEAll h (participantFields n)
        (turnFields h (headerFields ++ preprepareFields ++ [countField]) p)
      = some (turnFields h
          (headerFields ++ preprepareFields ++ [countField] ++ participantFields n) p) := by
    rw [turnFields_append _ (headerFields ++ preprepareFields ++ [countField])]
    refine fromBEAll_eq fun f hf => (within_turnFields f).mpr (hw f ?_)
    exact List.mem_append_right _ hf
  unfold decode
  rw [hhead, Option.bind_some]
  show MessageRound2PreprepareBE.partialDeserialize h _ = _
  unfold MessageRound2PreprepareBE.partialDeserialize
  simp only [Option.bind_eq_bind]
  rw [hfirst, Option.bind_some, hcount, Option.bind_some, hread, hbig, hparts]
  rfl

/-- `decode` turns the bytes of all multi-byte fields around. -/
theorem decode_eq (hp : t.Holds .big p) :
    t.decode h p = some (turnFields h (t.fields (t.listed .big p)) p) := by
  by_cases ht : t = .round2Preprepare
  · subst ht
    exact decode_preprepare hp
  · have hw := fields_within hp
    rw [fields_of_ne ht] at hw
    unfold decode
    rw [deserialize_eq fun f hf => hw f (List.mem_append_left _ hf), Option.bind_some,
      partialDeserialize_of_ne ht, fields_of_ne ht, turnFields_append]
    refine fromBEAll_eq fun f hf => (within_turnFields f).mpr (hw f ?_)
    exact List.mem_append_right _ hf

/-- Converting to network order keeps the number of participants that are listed. -/
theorem listed_turnFields {fields : List Slice} (hw : ∀ f ∈ fields, f.Within p)
    (hd : fields.Pairwise Slice.Disjoint)
    (hm : t = .round2Preprepare → countField ∈ fields) :
    t.listed .big (turnFields h fields p) = t.listed h p
      ∧ t.listed h (turnFields h fields p) = t.listed .big p := by
  cases t with
  | round2Preprepare =>
    have := u16At_turnFields (h := h) hw hd (hm rfl)
    unfold listed
    simp only
    rw [this.1, this.2]
    exact ⟨rfl, rfl⟩
  | _ => exact ⟨rfl, rfl⟩

theorem count_mem_fields (ht : t = .round2Preprepare) (n : Nat) : countField ∈ t.fields n := by
  subst ht
  refine List.mem_append_left _ (List.mem_append_right _ ?_)
  decide

/-- Decoding a Preprepare needs room for all its participants. -/
theorem holds_of_decode_preprepare {q : List UInt8}
    (hq : decode h .round2Preprepare p = some q) :
    Holds .big .round2Preprepare p := by
  obtain ⟨p1, h1, hq⟩ := Option.bind_eq_some_iff.mp hq
  have hdecode : (fromBEAll h preprepareFields p1).bind (fun p => (fromBE h countField p).bind
      fun p => fromBEAll h (participantFields (u16At h p numOfRound3ParticipantsOffset).toNat) p)
      = some q := hq
  obtain ⟨p2, h2, hdecode⟩ := Option.bind_eq_some_iff.mp hdecode
  obtain ⟨p3, h3, h4⟩ := Option.bind_eq_some_iff.mp hdecode
  have h3' : toBEAll h [countField] p2 = some p3 := by
    show (toBE h countField p2).bind some = some p3
    rw [show toBE h countField p2 = some p3 from h3]
    rfl
  obtain ⟨w1, rfl⟩ := toBEAll_some h1
  obtain ⟨w2, rfl⟩ := toBEAll_some h2
  obtain ⟨w3, rfl⟩ := toBEAll_some h3'
  obtain ⟨w4, -⟩ := toBEAll_some h4
  rw [← turnFields_append, ← turnFields_append] at w4
  have hfixed : ∀ f ∈ headerFields ++ preprepareFields ++ [countField], f.Within p := by
    intro f hf
    rcases List.mem_append.mp hf with hf | hf
    · rcases List.mem_append.mp hf with hf | hf
      · exact w1 f hf
      · exact (within_turnFields f).mp (w2 f hf)
    · exact (within_turnFields f).mp ((within_turnFields f).mp (w3 f hf))
  have hcount := hfixed countField (List.mem_append_right _ List.mem_cons_self)
  have hread : u16At h (turnFields h (headerFields ++ preprepareFields ++ [countField]) p)
      numOfRound3ParticipantsOffset = u16At .big p numOfRound3ParticipantsOffset :=
    (u16At_turnFields hfixed (fixed_disjoint .round2Preprepare)
      (List.mem_append_right _ List.mem_cons_self)).2
  rw [List.append_assoc] at hread
  rw [hread] at w4
  unfold Holds listed size
  unfold Slice.Within at hcount w4
  rcases Nat.eq_zero_or_pos (u16At .big p numOfRound3ParticipantsOffset).toNat with hzero | hpos
  · dsimp only
    rw [hzero]
    exact hcount
  · have hlast := w4 _ (List.mem_map_of_mem (List.mem_range.mpr (Nat.sub_one_lt_of_lt hpos)))
    rw [length_turnFields] at hlast
    simp only [u16Field, sizeofMessageRound2Preprepare] at hlast ⊢
    omega

/-- What is decoded has all its fields and participants, or it had not on the wire. -/
theorem holds_decode {q : List UInt8} (hq : t.decode h p = some q) :
    q.length = p.length ∧ (t.Holds h q ↔ t.Holds .big p) := by
  by_cases ht : t = .round2Preprepare
  · subst ht
    have hp := holds_of_decode_preprepare hq
    rw [decode_eq hp] at hq
    have hl := (listed_turnFields (h := h) (fields_within hp)
      (fields_disjoint .big .round2Preprepare p) (fun ht => count_mem_fields ht _)).2
    rw [← Option.some.inj hq]
    refine ⟨length_turnFields .., iff_of_true ?_ hp⟩
    unfold Holds at hp ⊢
    rw [hl, length_turnFields]
    exact hp
  · obtain ⟨p1, h1, h2⟩ := Option.bind_eq_some_iff.mp hq
    rw [partialDeserialize_of_ne ht] at h2
    obtain ⟨-, rfl⟩ := toBEAll_some h1
    obtain ⟨-, rfl⟩ := toBEAll_some h2
    have hlisted : ∀ (o : Endian) (p : List UInt8), t.listed o p = 0 := fun o p => by
      cases t with
      | round2Preprepare => exact absurd rfl ht
      | _ => rfl
    unfold Holds
    rw [length_turnFields, length_turnFields, hlisted, hlisted]
    exact ⟨rfl, Iff.rfl⟩

/-! ## The round trips -/

/--
**Serializing and decoding undo each other**, on every host-order and on every wire buffer that
holds the fields, and neither touches a byte outside of them.
-/
theorem codec_roundtrip (h : Endian) (t : WireFormat) (p : List UInt8) :
    (t.Holds h p → ∃ wire, t.serialize h p = some wire ∧ t.decode h wire = some p
      ∧ SameOutside (t.fields (t.listed h p)) p wire)
    ∧ (t.Holds .big p → ∃ host, t.decode h p = some host ∧ t.serialize h host = some p
      ∧ SameOutside (t.fields (t.listed .big p)) p host) := by
  constructor
  · intro hp
    have hperm := serializedFields_perm t (t.listed h p)
    have hw : ∀ f ∈ t.serializedFields (t.listed h p), f.Within p := fun f hf =>
      fields_within hp f (hperm.mem_iff.mp hf)
    have hd : (t.serializedFields (t.listed h p)).Pairwise Slice.Disjoint :=
      hperm.symm.pairwise (fields_disjoint h t p) fun hst => hst.symm
    have hl := (listed_turnFields (h := h) hw hd
      (fun ht => hperm.mem_iff.mpr (count_mem_fields ht _))).1
    refine ⟨_, serialize_eq hp, ?_, ?_⟩
    · rw [decode_eq (by unfold Holds at hp ⊢; rw [hl, length_turnFields]; exact hp), hl,
        turnFields_turnFields hperm hw hd]
    · exact (sameOutside_turnFields hw).of_mem fun f hf => hperm.mem_iff.mp hf
  · intro hp
    have hw := fields_within hp
    have hd := fields_disjoint .big t p
    have hl := (listed_turnFields (h := h) hw hd (fun ht => count_mem_fields ht _)).2
    refine ⟨_, decode_eq hp, ?_, sameOutside_turnFields hw⟩
    rw [serialize_eq (by unfold Holds at hp ⊢; rw [hl, length_turnFields]; exact hp), hl,
      turnFields_turnFields (serializedFields_perm t _).symm hw hd]

/-- A Preprepare of a little-endian host with two participants and one byte of content. -/
def preprepareBuffer : List UInt8 :=
  [1, 0, 3, 0, 23, 0, 0, 0, 0, 0, 1, 0, 2, 1, 0, 0, 0, 0, 2, 1, 1, 1, 3, 0, 2, 0,
    0, 0, 1, 0, 2]

theorem codec_roundtrip_preprepareBuffer :
    ∃ wire, serialize .little .round2Preprepare preprepareBuffer = some wire
      ∧ decode .little .round2Preprepare wire = some preprepareBuffer
      ∧ SameOutside (fields .round2Preprepare 2) preprepareBuffer wire :=
  (codec_roundtrip .little .round2Preprepare preprepareBuffer).1 (by decide)

end WireFormat

end RCanopus
