/-
# `Arithmetic` — what the signs of arithmetic stand for

Programs need core alone, proofs about them stand beside Mathlib.  There a
power of a number is also a power in a monoid, and the zero that a sum starts
from is also that of a semiring, and the instance that was declared last is
found first.  Here core's instances are given priority, so that a definition
and a statement about it mean the same term in every module.

Powers are pinned everywhere.  The zero is pinned inside of this library's
namespace only, since other types take theirs from Mathlib.
-/

attribute [instance (high + 1), default_instance (high + 1)] instPowNat

namespace Columnar

attribute [scoped instance (high + 1)] Zero.ofOfNat0

end Columnar
