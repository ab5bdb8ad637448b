import ZeroTail.Buffer.Bits

/-!
# Digests of buffers

A digest stands for a buffer that is too long to be shown: its length and sum, a few elements of
either end, and its two measures.
-/

namespace ZeroTail

/-- What is shown in place of a long buffer. -/
structure Digest where
  length : Nat
  sum : Nat
  first : Buffer
  last : Buffer
  tail : Nat
  bits : UInt64
  deriving DecidableEq

namespace Digest

/-- The number of elements shown of either end. -/
def edgeLength : Nat := 8

end Digest

/-- The digest of a buffer. Of a buffer shorter than an edge both edges are the whole. -/
def Buffer.digest (buffer : Buffer) : Digest where
  length := buffer.length
  sum := buffer.foldl (fun sum element => sum + element.toNat) 0
  first := buffer.take Digest.edgeLength
  last := buffer.drop (buffer.length - Digest.edgeLength)
  tail := buffer.tailLength
  bits := buffer.bitTotal

end ZeroTail
