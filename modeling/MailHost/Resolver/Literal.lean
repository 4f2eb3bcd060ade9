import MailHost.Resolver

/-!
# Address literals

How a written address is read, and the resolver that knows nothing but written
addresses.
-/

namespace MailHost

/-!
## Reading addresses

The text must be an address from end to end.  A double colon stands for one
or more zero groups, and the last two groups may be written as four octets.
-/

namespace Address

/-- A decimal number below 256 without leading zeros. -/
def octet? (digits : List Char) : Option UInt8 :=
  if digits.isEmpty || 3 < digits.length || !digits.all Char.isDigit ||
      (digits.head? = some '0' && 1 < digits.length) then
    none
  else
    let value := Nat.ofDigitChars 10 digits 0
    if value < 256 then some (UInt8.ofNat value) else none

def octets? (text : List Char) : Option (UInt8 × UInt8 × UInt8 × UInt8) :=
  match (text.splitOn '.').map octet? with
  | [some a, some b, some c, some d] => some (a, b, c, d)
  | _ => none

def hexDigit? (c : Char) : Option Nat :=
  if c.isDigit then some (c.toNat - '0'.toNat)
  else if 'a' ≤ c ∧ c ≤ 'f' then some (c.toNat - 'a'.toNat + 10)
  else if 'A' ≤ c ∧ c ≤ 'F' then some (c.toNat - 'A'.toNat + 10)
  else none

/-- A hexadecimal number of one to four digits. -/
def group? (digits : List Char) : Option UInt16 :=
  if digits.isEmpty || 4 < digits.length then none
  else
    (digits.mapM hexDigit?).map fun values =>
      UInt16.ofNat (values.foldl (fun total value => total * 16 + value) 0)

/-- Pieces that are groups; the last may hold four octets, which are two groups. -/
def groups? : List (List Char) → Option (List UInt16)
  | [] => some []
  | [last] =>
      match octets? last with
      | some (a, b, c, d) => some [group a b, group c d]
      | none => (group? last).map ([·])
  | piece :: next :: rest =>
      match group? piece, groups? (next :: rest) with
      | some value, some values => some (value :: values)
      | _, _ => none

/-- The pieces between colons; an empty text has none. -/
def colonPieces (text : List Char) : List (List Char) :=
  if text.isEmpty then [] else text.splitOn ':'

/-- The text before and after the first double colon. -/
def cutAtGap? : List Char → Option (List Char × List Char)
  | [] => none
  | c :: rest =>
      if c = ':' ∧ rest.head? = some ':' then some ([], rest.drop 1)
      else (cutAtGap? rest).map fun (front, back) => (c :: front, back)

def readV4? (text : List Char) : Option Address :=
  (octets? text).map fun (a, b, c, d) => .v4 a b c d

def readV6? (text : List Char) : Option Address :=
  match cutAtGap? text with
  | none => (groups? (colonPieces text)).bind ofGroups?
  | some (front, back) =>
      match (colonPieces front).mapM group?, groups? (colonPieces back) with
      | some first, some last =>
          if first.length + last.length < 8 then
            ofGroups? (first ++ List.replicate (8 - first.length - last.length) 0 ++ last)
          else none
      | _, _ => none

def parse? (text : String) : Option Address :=
  match readV4? text.toList with
  | some address => some address
  | none => readV6? text.toList

end Address

/-!
## Address literals

A resolver that asks nobody: a written address has itself as its address, and
every other question goes unanswered.
-/

namespace Resolver

def literal : Resolver where
  addresses host :=
    match Address.parse? host with
    | some address => .ok [address]
    | none => .error .resolutionFailed
  hostName _ := .error .resolutionFailed
  localAddress := .error .resolutionFailed
  mailExchangers _ := .error .resolutionFailed
  textRecords _ := .error .resolutionFailed

end Resolver

end MailHost
