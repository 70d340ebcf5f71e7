/-!
A clock that is driven by hand, for trace replay.

It holds one reading in 64 bits.  Setting may go backwards; advancing wraps around at the end of
the range.
-/

namespace EchoFilter

/-- A reading in milliseconds; the default is zero. -/
structure Clock where
  now : UInt64 := 0
  deriving DecidableEq, Repr

namespace Clock

instance : Inhabited Clock := ⟨{}⟩

def set (_ : Clock) (ms : UInt64) : Clock :=
  ⟨ms⟩

def advance (c : Clock) (ms : UInt64) : Clock :=
  ⟨c.now + ms⟩

theorem toNat_advance (c : Clock) (ms : UInt64) :
    (c.advance ms).now.toNat = (c.now.toNat + ms.toNat) % UInt64.size := by
  simp [advance]

end Clock

end EchoFilter
