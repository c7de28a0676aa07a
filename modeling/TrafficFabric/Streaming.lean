import TrafficFabric.Foundation.Streams
import TrafficFabric.Store.Journal

/-!
# Streamed digests

The sender, the sink and the journal compute checksums piece by piece, each
with blocks of its own size.  Both checksums chain: the inversions at the ends
of `crc32c` cancel between two pieces, and `fnv1a64` is its own state.
-/

namespace TrafficFabric

open Foundation

theorem crc32c_streams :
    Streams (fun (seed : UInt32) (data : Bytes) => crc32c data seed) :=
  (Streams.foldl crcByte).conjugate (fun _ => UInt32.not_not)
    (fun _ => UInt32.not_not)

theorem fnv1a64_streams :
    Streams (fun (seed : UInt64) (data : Bytes) => fnv1a64 data seed) :=
  Streams.foldl _

theorem Digest.update_streams : Streams Digest.update where
  nil digest := by
    unfold Digest.update
    rw [crc32c_streams.nil, fnv1a64_streams.nil]
  append digest front back := by
    unfold Digest.update
    rw [crc32c_streams.append, fnv1a64_streams.append]

/-- However a text is cut, its pieces give the checksums of the whole; the
checksum of a journal record is that of its parts in a row. -/
theorem digests_stream :
    (∀ (pieces : List Bytes) (digest : Digest),
        pieces.foldl Digest.update digest = digest.update pieces.flatten) ∧
      (∀ (pieces : List Bytes) (seed : UInt32),
        pieces.foldl (fun seed piece => crc32c piece seed) seed =
          crc32c pieces.flatten seed) ∧
      ∀ header label payload : Bytes,
        journalChecksum header label payload =
          crc32c (header ++ label ++ payload) 0 := by
  refine ⟨Digest.update_streams.pieces, crc32c_streams.pieces, ?_⟩
  intro header label payload
  unfold journalChecksum
  rw [crc32c_streams.append, crc32c_streams.append]

end TrafficFabric
