/-!
# Internet addresses

An address has four octets or eight groups of sixteen bits.  The two kinds
never equal each other, also when the groups carry four octets.
-/

namespace MailHost

inductive Address where
  | v4 (a b c d : UInt8)
  | v6 (a b c d e f g h : UInt16)
  deriving DecidableEq, Repr

namespace Address

def unspecified : Address := .v4 0 0 0 0

def loopback : Address := .v4 127 0 0 1

/-- The address with the given groups, if there are eight. -/
def ofGroups? : List UInt16 → Option Address
  | [a, b, c, d, e, f, g, h] => some (.v6 a b c d e f g h)
  | _ => none

def group (high low : UInt8) : UInt16 :=
  UInt16.ofNat (high.toNat * 256 + low.toNat)

def highOctet (group : UInt16) : UInt8 :=
  UInt8.ofNat (group.toNat / 256)

def lowOctet (group : UInt16) : UInt8 :=
  UInt8.ofNat (group.toNat % 256)

@[simp]
theorem highOctet_group (high low : UInt8) : highOctet (group high low) = high := by
  have highBound := high.toNat_lt
  have lowBound := low.toNat_lt
  apply UInt8.toNat.inj
  simp only [highOctet, group, UInt16.toNat_ofNat', UInt8.toNat_ofNat']
  omega

@[simp]
theorem lowOctet_group (high low : UInt8) : lowOctet (group high low) = low := by
  have highBound := high.toNat_lt
  have lowBound := low.toNat_lt
  apply UInt8.toNat.inj
  simp only [lowOctet, group, UInt16.toNat_ofNat', UInt8.toNat_ofNat']
  omega

end Address

end MailHost
