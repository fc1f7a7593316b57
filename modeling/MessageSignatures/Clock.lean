/-!
# Time

A point in time is a number of seconds since the start of 1970, in 64 bits. Signing and verifying
take the present as an argument. `Clock` is a present that a program sets by hand.
-/

namespace MessageSignatures

/-- **Timestamp.** Seconds since the start of 1970. -/
abbrev Timestamp := UInt64

/-- The point in time after a duration; past the last one there is only the last one. -/
def Timestamp.after (t : Timestamp) (seconds : UInt64) : Timestamp :=
  if t.toNat + seconds.toNat < UInt64.size then t + seconds else UInt64.ofNat (UInt64.size - 1)

/-- **Clock** that is moved by hand. -/
structure Clock where
  now : Timestamp
deriving DecidableEq, Repr

namespace Clock

/-- Set the clock. -/
def set (_ : Clock) (now : Timestamp) : Clock :=
  ⟨now⟩

/-- Move the clock forward. After the last point in time it begins anew. -/
def advance (c : Clock) (seconds : UInt64) : Clock :=
  ⟨c.now + seconds⟩

end Clock

end MessageSignatures
