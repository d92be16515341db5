import SealedContent.Proofs.Content.Archive
import SealedContent.Proofs.Content.Grammar

/-!
Archives of which only the front arrived. A cut inside the header or a block breaks that section off, and
reading fails. A cut between two sections leaves an archive with the same root and the blocks before it,
so what is lost can only be seen by asking for the blocks.
-/

namespace SealedContent.Content.Archive

/-- The sections of the blocks, one after another. -/
def frames (blocks : List Block) : Bytes :=
  blocks.flatMap fun block => frame (blockBytes block)

theorem encode_eq (archive : Archive) :
    archive.encode = frame (headerValue archive.root).encode ++ frames archive.blocks :=
  rfl

/-- A first section that is whole in the front of what was written is the first one written. -/
theorem IsSection.eq_frame {content written framed cut rest : Bytes} (filled : written ≠ [])
    (framing : IsSection content framed) (inside : framed ++ cut <+: frame written ++ rest) :
    content = written ∧ framed = frame written ∧ cut <+: rest := by
  obtain ⟨lost, whole⟩ := inside
  rw [List.append_assoc] at whole
  have read : readSection (frame written ++ rest) = .ok (some (content, cut ++ lost)) :=
    readSection_eq_some_iff.mpr ⟨framed, framing, whole.symm⟩
  by_cases bounded : written.length < Varint.bound
  · rw [readSection_frame filled bounded] at read
    cases read
    exact ⟨rfl, List.append_cancel_right whole, List.prefix_append cut lost⟩
  · obtain ⟨fault, failed⟩ := readSection_beyond (Nat.le_of_not_lt bounded) rest
    cases failed.symm.trans read

theorem eq_of_spellsBlock_blockBytes {block written : Block}
    (named : SpellsBlock block (blockBytes written)) : block = written :=
  Except.ok.inj ((readBlock_eq_ok_iff.mpr named).symm.trans (readBlock_blockBytes written))

/-- The front of a row of sections reads as blocks only where it ends between two of them. -/
theorem SpellsBlocks.of_front {kept blocks : List Block} {cut : Bytes}
    (spelled : SpellsBlocks kept cut) (inside : cut <+: frames blocks) :
    kept <+: blocks ∧ cut = frames kept := by
  induction spelled generalizing blocks with
  | none => exact ⟨List.nil_prefix, rfl⟩
  | @next block kept content framed rest framing named others induction =>
      cases blocks with
      | nil =>
          have nothing := List.prefix_nil.mp inside
          exact absurd (List.append_eq_nil_iff.mp nothing).1 framing.ne_nil
      | cons written blocks =>
          obtain ⟨rfl, rfl, onward⟩ := framing.eq_frame (blockBytes_ne_nil written) inside
          obtain ⟨front, rfl⟩ := induction onward
          rw [eq_of_spellsBlock_blockBytes named]
          exact ⟨List.cons_prefix_cons.mpr ⟨rfl, front⟩, rfl⟩

section Cut

variable {archive : Archive} {cut : Bytes}

theorem of_decode_front {read : Archive} (inside : cut <+: archive.encode)
    (decoded : decode cut = .ok read) :
    read.root = archive.root ∧ read.blocks <+: archive.blocks ∧ cut = read.encode := by
  obtain ⟨header, framed, rest, framing, rooted, spelled, rfl⟩ := decode_eq_ok_iff.mp decoded
  obtain ⟨rfl, rfl, onward⟩ := framing.eq_frame (Cbor.encode_ne_nil _) inside
  have sameRoot : read.root = archive.root :=
    Except.ok.inj ((readHeader_eq_ok_iff.mpr rooted).symm.trans (readHeader_encode archive.root))
  obtain ⟨front, rfl⟩ := spelled.of_front onward
  exact ⟨sameRoot, front, by rw [encode_eq, sameRoot]⟩

/-- What is lost is at least one block, and none is read in part. -/
theorem decode_cut (inside : cut <+: archive.encode) (short : cut ≠ archive.encode) :
    (∃ fault, decode cut = .error (.archive fault)) ∨
      ∃ kept, kept <+: archive.blocks ∧ kept.length < archive.blocks.length ∧
        cut = (Archive.mk archive.root kept).encode ∧ decode cut = .ok ⟨archive.root, kept⟩ := by
  refine (decode_error_or_ok cut).imp id ?_
  rintro ⟨⟨root, kept⟩, decoded⟩
  obtain ⟨rfl, front, whole⟩ := of_decode_front inside decoded
  refine ⟨kept, front, Nat.lt_of_le_of_ne front.length_le fun same => short ?_, whole, decoded⟩
  have complete : kept = archive.blocks := front.eq_of_length same
  rw [whole, complete]

/-- With its only block an archive loses the root block. -/
theorem verifiedRoot_of_cut {root : Cid} {block : Block} {read : Archive}
    (inside : cut <+: (Archive.mk root [block]).encode)
    (short : cut ≠ (Archive.mk root [block]).encode) (decoded : decode cut = .ok read) :
    read = ⟨root, []⟩ ∧ read.verifiedRoot = .error (.archive (.rootAbsent root)) := by
  obtain ⟨fault, failed⟩ | ⟨kept, -, fewer, -, found⟩ := decode_cut inside short
  · cases failed.symm.trans decoded
  · cases found.symm.trans decoded
    rw [List.length_singleton, Nat.lt_one_iff, List.length_eq_zero_iff] at fewer
    subst fewer
    exact ⟨rfl, rfl⟩

end Cut

end SealedContent.Content.Archive
