/-
This file builds guarded writes. The content of a cell has a rank, a write has a
rank of its own, and the write lands only where its rank is at least that of the
content. Writes of a low rank then leave a content of a high rank alone, however
many there are and in whatever order. A write may leave the rank of the content
as it is; as long as none lowers it below the rank it was guarded by, ranks only
rise.
-/

import Mathlib.Order.Lattice

namespace Precedence

variable {Cell Rank : Type} [LinearOrder Rank]

/-- A write: its rank, and what it makes of the content. -/
structure Write (Cell Rank : Type) where
  rank : Rank
  change : Cell → Cell

/-- The content after a write. -/
def Write.apply (rankOf : Cell → Rank) (cell : Cell) (write : Write Cell Rank) : Cell :=
  if rankOf cell ≤ write.rank then write.change cell else cell

variable {rankOf : Cell → Rank}

/-- A write of a lower rank does nothing. -/
theorem Write.apply_of_lt {write : Write Cell Rank} {cell : Cell}
    (lower : write.rank < rankOf cell) : write.apply rankOf cell = cell :=
  if_neg (not_le.mpr lower)

/-- A write that keeps the rank of a content, or raises it, raises the rank of every cell. -/
theorem Write.rank_le_apply {write : Write Cell Rank}
    (keeps : ∀ cell, rankOf cell ≤ write.rank → rankOf cell ≤ rankOf (write.change cell))
    (cell : Cell) : rankOf cell ≤ rankOf (write.apply rankOf cell) := by
  unfold Write.apply
  split
  next lands => exact keeps cell lands
  next => exact le_refl _

end Precedence
