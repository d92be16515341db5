import SealedContent.Content.Error
import SealedContent.Proofs.Content.Varint

/-!
The binary form of a content identifier tells where it ends: it reads back in front of any other
bytes, in both versions. An identifier made from data passes the check against that data, and can always
be made: the steps that refuse hashes of a wrong size refuse no SHA-256 hash.
-/

namespace SealedContent.Content

namespace Multihash

theorem toNat_size (hash : Multihash) :
    (UInt64.ofNat hash.digest.length).toNat = hash.digest.length := by
  have bounded := hash.bounded
  rw [UInt64.toNat_ofNat']
  exact Nat.mod_eq_of_lt (by omega)

theorem read?_toBytes (hash : Multihash) (rest : Bytes) :
    read? (hash.toBytes ++ rest) = some (hash, rest) := by
  have size := hash.toNat_size
  have size_read := Varint.readMinimal?_write (UInt64.ofNat hash.digest.length)
    (hash.digest ++ rest)
  rw [size] at size_read
  simp only [read?, toBytes, List.append_assoc, Varint.readMinimal?_write, size_read,
    Option.bind_eq_bind, Option.bind_some, size, List.take_left, List.drop_left]
  rw [dif_pos ⟨trivial, hash.bounded⟩]

theorem length_toBytes (hash : Multihash) : hash.toBytes.length ≤ 84 := by
  have code : (Varint.write hash.code.toNat).length ≤ 9 + 1 :=
    Varint.length_write (lt_trans hash.code.toNat_lt (by decide))
  have size : (Varint.write hash.digest.length).length ≤ 9 + 1 :=
    Varint.length_write (lt_of_le_of_lt hash.bounded (by decide))
  have digest := hash.bounded
  simp only [toBytes, List.length_append]
  omega

end Multihash

namespace Cid

theorem readDigest?_toList (digest : Vector UInt8 32) (rest : Bytes) :
    readDigest? (digest.toList ++ rest) = some (digest, rest) := by
  have size : digest.toList.length = 32 := Vector.length_toList
  rw [readDigest?, List.take_left' size, List.drop_left' size, Bytes.toVector?_toList]
  rfl

/-- The code and the size of the hash stand where version 1 has its version and codec. -/
theorem toBytes_v0 (digest : Vector UInt8 32) :
    (v0 digest).toBytes =
      Varint.write (0x12 : UInt64).toNat ++
        (Varint.write (0x20 : UInt64).toNat ++ digest.toList) := by
  rw [Varint.write_small (by decide), Varint.write_small (by decide)]
  rfl

theorem toBytes_v1 (codec : UInt64) (hash : Multihash) :
    (v1 codec hash).toBytes =
      Varint.write (1 : UInt64).toNat ++ (Varint.write codec.toNat ++ hash.toBytes) := by
  rw [Varint.write_small (by decide)]
  rfl

theorem read?_toBytes (cid : Cid) (rest : Bytes) :
    read? (cid.toBytes ++ rest) = some (cid, rest) := by
  cases cid with
  | v0 digest =>
      rw [toBytes_v0, List.append_assoc, List.append_assoc]
      simp only [read?, Varint.readMinimal?_write, Option.bind_eq_bind, Option.bind_some]
      rw [if_pos ⟨trivial, trivial⟩, readDigest?_toList]
      rfl
  | v1 codec hash =>
      rw [toBytes_v1, List.append_assoc, List.append_assoc]
      simp only [read?, Varint.readMinimal?_write, Option.bind_eq_bind, Option.bind_some]
      rw [if_neg (fun both => absurd both.1 (by decide)), if_pos trivial, Multihash.read?_toBytes]
      rfl

theorem ofBytes?_toBytes (cid : Cid) : ofBytes? cid.toBytes = some cid := by
  have whole := read?_toBytes cid []
  rw [List.append_nil] at whole
  rw [ofBytes?, whole]
  rfl

theorem toBytes_injective : Function.Injective toBytes := by
  intro left right same
  have read := ofBytes?_toBytes left
  rw [same, ofBytes?_toBytes] at read
  exact (Option.some.inj read).symm

theorem length_toBytes (cid : Cid) : cid.toBytes.length ≤ 95 := by
  cases cid with
  | v0 digest => simp [toBytes]
  | v1 codec hash =>
      have codec_length : (Varint.write codec.toNat).length ≤ 9 + 1 :=
        Varint.length_write (lt_trans codec.toNat_lt (by decide))
      have hash_length := hash.length_toBytes
      simp only [toBytes, List.length_append, List.length_singleton]
      omega

theorem toBytes_ne_nil (cid : Cid) : cid.toBytes ≠ [] := by
  cases cid <;> simp [toBytes]

/-- An identifier is recomputed to itself exactly from data with its digest. -/
theorem recompute_eq_iff {cid : Cid} (code : cid.hash.code = sha256Code) (data : Bytes) :
    cid.recompute data = cid ↔ cid.hash.digest = Hash.sha256 data := by
  cases cid with
  | v0 digest =>
      rw [recompute, v0.injEq, ← Vector.toList_inj]
      exact eq_comm
  | v1 codec hash =>
      obtain ⟨_, digest, bounded⟩ := hash
      change _ = sha256Code at code
      subst code
      rw [recompute, ofData, sha256Hash, v1.injEq, Multihash.mk.injEq]
      simp only [true_and]
      exact eq_comm

end Cid

/-- A digest that is too long for a hash is refused. -/
def Multihash.wrap? (code : UInt64) (digest : Bytes) : Option Multihash :=
  if bounded : digest.length ≤ 64 then some ⟨code, digest, bounded⟩ else none

theorem Multihash.wrap?_digest (code : UInt64) {digest : Bytes} (sized : digest.length = 32) :
    wrap? code digest = some ⟨code, digest, by omega⟩ := by
  rw [wrap?, dif_pos]

/-- The identifier of data, made by a step that could refuse its hash. -/
def Cid.ofData? (codec : UInt64) (data : Bytes) : Option Cid :=
  (Multihash.wrap? sha256Code (Hash.sha256 data)).map (v1 codec)

theorem Cid.ofData?_eq (codec : UInt64) (data : Bytes) :
    ofData? codec data = some (ofData codec data) := by
  rw [ofData?, Multihash.wrap?_digest _ (Hash.length_sha256 data)]
  rfl

/-- The check compares whole identifiers, which comes down to the hash function and the digest. -/
theorem verifyBlock_eq (cid : Cid) (data : Bytes) :
    verifyBlock cid data =
      if cid.hash.code ≠ sha256Code then .error (.unsupportedHash cid.hash.code)
      else if cid.hash.digest = Hash.sha256 data then .ok ()
      else .error (.hashMismatch cid (cid.recompute data)) := by
  by_cases code : cid.hash.code = sha256Code
  · have whole : (cid.recompute data).toBytes = cid.toBytes ↔ cid.hash.digest = Hash.sha256 data := by
      rw [Cid.toBytes_injective.eq_iff, Cid.recompute_eq_iff code]
    rw [verifyBlock, if_neg (not_not_intro code), if_neg (not_not_intro code)]
    simp only [ne_eq, whole, ite_not]
  · rw [verifyBlock, if_pos code, if_pos code]

theorem verifyBlock_eq_ok_iff {cid : Cid} {data : Bytes} :
    verifyBlock cid data = .ok () ↔
      cid.hash.code = sha256Code ∧ cid.hash.digest = Hash.sha256 data := by
  rw [verifyBlock_eq]
  by_cases code : cid.hash.code = sha256Code
  · by_cases same : cid.hash.digest = Hash.sha256 data
    · simp [code, same]
    · simp [code, same]
  · simp [code]

theorem verifyBlock_ofData (codec : UInt64) (data : Bytes) :
    verifyBlock (.ofData codec data) data = .ok () := by
  have code : (Cid.ofData codec data).hash.code = sha256Code := rfl
  have same : (Cid.ofData codec data).recompute data = Cid.ofData codec data := rfl
  rw [verifyBlock, if_neg (not_not_intro code), same, if_neg (not_not_intro rfl)]

end SealedContent.Content
