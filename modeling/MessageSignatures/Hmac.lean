import MessageSignatures.Octets

/-!
# Keyed hashing

HMAC over any hash function. A key longer than a block is hashed first; a shorter one is filled up
with zeros, so keys that differ only in trailing zeros are one key.
-/

namespace MessageSignatures

namespace Hmac

/-- The key as one block. -/
def blockKey (hash : List UInt8 → List UInt8) (blockOctets : Nat) (key : List UInt8) : List UInt8 :=
  let short := if blockOctets < key.length then hash key else key
  short ++ List.replicate (blockOctets - short.length) 0

/-- **HMAC.** The authentication code of a message under a key. -/
def code (hash : List UInt8 → List UInt8) (blockOctets : Nat) (key message : List UInt8) :
    List UInt8 :=
  let key := blockKey hash blockOctets key
  hash (key.map (· ^^^ 0x5C) ++ hash (key.map (· ^^^ 0x36) ++ message))

end Hmac

end MessageSignatures
