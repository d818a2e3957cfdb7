namespace RepositoryAccess.Cache

-- How often a look-up found its key or did not, and how often a cache made room by itself.  The counters are
-- 64-bit words; fewer than 2^64 uses of a cache are assumed, so that they do not wrap.
structure Tally where
  hits : Nat := 0
  misses : Nat := 0
  resets : Nat := 0
  deriving DecidableEq, Repr

namespace Tally

def hit (tally : Tally) : Tally := { tally with hits := tally.hits + 1 }
def miss (tally : Tally) : Tally := { tally with misses := tally.misses + 1 }
def reset (tally : Tally) : Tally := { tally with resets := tally.resets + 1 }

end Tally

structure Stats where
  hits : Nat
  misses : Nat
  entries : Nat
  resets : Nat
  deriving DecidableEq, Repr

def Tally.stats (tally : Tally) (entries : Nat) : Stats :=
  ⟨tally.hits, tally.misses, entries, tally.resets⟩

-- Sums of 64-bit words are taken modulo this.
def wordSpan : Nat := UInt64.size

def Stats.hitRate (stats : Stats) : Float :=
  let total := (stats.hits + stats.misses) % wordSpan
  if total = 0 then 0.0 else stats.hits.toUInt64.toFloat / total.toUInt64.toFloat

end RepositoryAccess.Cache
