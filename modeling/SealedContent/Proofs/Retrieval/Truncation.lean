import SealedContent.Proofs.Content.Truncation
import SealedContent.Proofs.Retrieval.Verified

/-!
Archives of records of which only the front arrived. They are refused wherever they were cut, by the one
who asked for the block and by the one who reads the record.
-/

namespace SealedContent.Retrieval

open Content (Archive)
open Record (Metadata)

variable {record : Metadata} {cut : Bytes}

theorem not_isArchiveOf_cut (inside : cut <+: record.shipped.encode)
    (short : cut ≠ record.shipped.encode) : ¬ IsArchiveOf record.toBlock.cid cut := by
  rintro ⟨data, decoded, -⟩
  obtain ⟨emptied, -⟩ := Archive.verifiedRoot_of_cut inside short decoded
  cases emptied

theorem extract_cut (inside : cut <+: record.shipped.encode) (short : cut ≠ record.shipped.encode) :
    ∃ fault, Metadata.extract cut = .error (.archive fault) := by
  rw [Metadata.extract]
  obtain ⟨fault, failed⟩ | ⟨read, decoded⟩ := Archive.decode_error_or_ok cut
  · rw [failed]
    exact ⟨fault, rfl⟩
  · obtain ⟨-, absent⟩ := Archive.verifiedRoot_of_cut inside short decoded
    rw [decoded]
    dsimp only
    rw [absent]
    exact ⟨_, rfl⟩

theorem shipped_accepted (valid : record.validate = .ok ())
    (bounded : record.toBlock.data.length < 2 ^ 63) :
    verifyArchive record.toBlock.cid record.shipped.encode = .ok () ∧
      Metadata.extract record.shipped.encode = .ok record := by
  refine ⟨verifyArchive_of_isArchiveOf (isArchiveOf_of_bounded bounded), ?_⟩
  rw [Metadata.extract_shipped bounded, Metadata.validated_eq, valid]
  rfl

/-- The front of an archive is refused, or it holds fewer blocks under the same root and nothing of the
next one. The archive of a record is accepted as a whole, and its front is always refused. -/
theorem truncation_detected :
    (∀ archive : Archive, ∀ cut, cut <+: archive.encode → cut ≠ archive.encode →
      (∃ fault, Archive.decode cut = .error (.archive fault)) ∨
        ∃ kept, kept <+: archive.blocks ∧ kept.length < archive.blocks.length ∧
          cut = (Archive.mk archive.root kept).encode ∧
            Archive.decode cut = .ok ⟨archive.root, kept⟩) ∧
      ∀ record : Metadata, record.validate = .ok () →
        ∃ archived, record.archive = .ok archived ∧
          (record.toBlock.data.length < 2 ^ 63 →
            verifyArchive archived.cid archived.bytes = .ok () ∧
              Metadata.extract archived.bytes = .ok record) ∧
          ∀ cut, cut <+: archived.bytes → cut ≠ archived.bytes →
            (∃ fault, verifyArchive archived.cid cut = .error (.unverified archived.cid fault)) ∧
              ∃ fault, Metadata.extract cut = .error (.archive fault) := by
  refine ⟨fun archive cut => Archive.decode_cut, fun record valid => ?_⟩
  rw [Metadata.archive_eq, valid]
  refine ⟨_, rfl, shipped_accepted valid, fun cut inside short => ⟨?_, extract_cut inside short⟩⟩
  exact verifyArchive_refused (not_isArchiveOf_cut inside short)

end SealedContent.Retrieval
