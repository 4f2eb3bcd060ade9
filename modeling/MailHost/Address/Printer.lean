import MailHost.Address

/-!
# Writing addresses

Four octets are decimal numbers with dots between them.  Eight groups are
hexadecimal numbers with colons between them, and the longest run of two or
more zero groups becomes a double colon.  Groups that carry four octets show
them in decimal.
-/

namespace MailHost.Address

def dotted (a b c d : UInt8) : List Char :=
  List.intercalate ['.'] ([a, b, c, d].map fun octet => Nat.toDigits 10 octet.toNat)

def colonSeparated (groups : List UInt16) : List Char :=
  List.intercalate [':'] (groups.map fun group => Nat.toDigits 16 group.toNat)

def leadingZeros : List UInt16 → Nat
  | [] => 0
  | group :: rest => if group = 0 then leadingZeros rest + 1 else 0

/--
Where the longest run of zeros starts, and how long it is.  Of equally long
runs the first counts.
-/
def longestZeros : List UInt16 → Nat × Nat
  | [] => (0, 0)
  | group :: rest =>
      let here := leadingZeros (group :: rest)
      let (start, length) := longestZeros rest
      if length ≤ here then (0, here) else (start + 1, length)

/-- Groups with the longest run of two or more zeros left out. -/
def compressed (groups : List UInt16) : List Char :=
  let (start, length) := longestZeros groups
  if 2 ≤ length then
    colonSeparated (groups.take start) ++ [':', ':'] ++
      colonSeparated (groups.drop (start + length))
  else
    colonSeparated groups

def written : Address → List Char
  | .v4 a b c d => dotted a b c d
  | .v6 a b c d e f g h =>
      if [a, b, c, d, e, f] = [0, 0, 0, 0, 0, 0xffff] then
        "::ffff:".toList ++
          dotted (highOctet g) (lowOctet g) (highOctet h) (lowOctet h)
      else
        compressed [a, b, c, d, e, f, g, h]

def render (address : Address) : String :=
  String.ofList address.written

end MailHost.Address
