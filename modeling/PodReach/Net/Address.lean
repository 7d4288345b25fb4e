import PodReach.Text.Blank
import PodReach.Text.Digit

/-!
# Internet addresses

The textual forms of IPv4 and IPv6 addresses and the numbers they denote, and the ranges that
cannot be reached from outside: loopback, private, link-local and unique local addresses.
-/

namespace PodReach.Net

open PodReach.Text

/-- An address of either family, as a number. -/
inductive Address
  | v4 (bits : Nat)
  | v6 (bits : Nat)
  deriving DecidableEq, Repr, Inhabited

/-- One part of a dotted quad: one to three digits without a leading zero, at most 255. -/
def readOctet? (cs : List Char) : Option Nat :=
  if cs.isEmpty || !cs.all isAsciiDigit || cs.length > 3 then none
  else if cs.length > 1 && cs.head? == some '0' then none
  else
    let n := decimalOf cs
    if n ≤ 255 then some n else none

/-- A dotted quad. -/
def readV4? (cs : List Char) : Option Nat :=
  match splitOnChar '.' cs with
  | [a, b, c, d] => do
    let a ← readOctet? a
    let b ← readOctet? b
    let c ← readOctet? c
    let d ← readOctet? d
    some (((a * 256 + b) * 256 + c) * 256 + d)
  | _ => none

/-- One group of an IPv6 address: one to four hexadecimal digits. -/
def readGroup? (cs : List Char) : Option Nat :=
  if cs.isEmpty || cs.length > 4 then none
  else cs.foldlM (fun n c => do
    let d ← letterDigit? c
    if d < 16 then some (16 * n + d) else none) 0

/-- The groups of a text between colons, a dotted quad at the end counting as two. -/
def expandQuad? (groups : List (List Char)) : Option (List (List Char)) :=
  match groups.getLast? with
  | some last =>
    if last.contains '.' then do
      let quad ← readV4? last
      some (groups.dropLast ++ [hexDigits 4 (quad / 65536), hexDigits 4 (quad % 65536)])
    else some groups
  | none => some groups

/-- The value of groups, the first one being the highest. -/
def joinGroups (groups : List Nat) : Nat :=
  groups.foldl (fun n g => n * 65536 + g) 0

/-- The groups before and after a run that stands for zeros: the empty group inside the list. A
second one is refused. -/
def cutAtGap : List (List Char) → List (List Char) × Option (List (List Char))
  | [] => ([], none)
  | g :: rest =>
    if g.isEmpty then ([], some rest)
    else
      let (before, after) := cutAtGap rest
      (g :: before, after)

/-- An IPv6 address without scope. A run of zero groups may be left out once; a colon stands at
either end only as part of it. -/
def readV6Groups? (groups : List (List Char)) : Option Nat := do
  let groups ← expandQuad? groups
  if groups.length < 3 || groups.length > 9 then none
  else
    let leading := groups.head? == some []
    let trailing := groups.getLast? == some []
    -- the gap is an empty group that is neither the first nor the last
    let inner := (groups.drop 1).dropLast
    let (beforeGap, afterGap) := cutAtGap inner
    match afterGap with
    | some rest =>
      if rest.any (·.isEmpty) then none
      else if leading && !beforeGap.isEmpty then none
      else if trailing && !rest.isEmpty then none
      else do
        let high := (if leading then [] else groups.take 1) ++ beforeGap
        let low := rest ++ (if trailing then [] else groups.drop (groups.length - 1))
        if high.length + low.length > 7 then none
        else do
          let high ← high.mapM readGroup?
          let low ← low.mapM readGroup?
          some (joinGroups (high ++ List.replicate (8 - high.length - low.length) 0 ++ low))
    | none =>
      if groups.length ≠ 8 || leading || trailing then none
      else joinGroups <$> groups.mapM readGroup?

/-- An IPv6 address with an optional scope after a percent sign: not empty, and without a
second percent sign or a slash. -/
def readV6? (cs : List Char) : Option Nat :=
  match cutAtFirst '%' cs with
  | some (address, scope) =>
    if scope.isEmpty || scope.contains '%' || scope.contains '/' then none
    else readV6Groups? (splitOnChar ':' address)
  | none => readV6Groups? (splitOnChar ':' cs)

/-- The address that a text denotes. -/
def readAddress? (cs : List Char) : Option Address :=
  match readV4? cs with
  | some bits => some (.v4 bits)
  | none => (readV6? cs).map .v6

/-- Whether the leading bits of a number are those of a block: `bits / 2 ^ free` is shared. -/
def inBlock (bits block free : Nat) : Bool :=
  bits >>> free == block >>> free

/-- The blocks of IPv4 addresses that are not reachable from outside, with the number of free
bits of each. -/
def privateV4 : List (Nat × Nat) :=
  [(0x7F000000, 24), (0x0A000000, 24), (0xAC100000, 20), (0xC0A80000, 16), (0xA9FE0000, 16)]

/-- The blocks of IPv6 addresses that are not reachable from outside. -/
def privateV6 : List (Nat × Nat) :=
  [(1, 0), (Nat.shiftLeft 0xFE80 112, 118), (Nat.shiftLeft 0xFC00 112, 121)]

/-- Whether an address cannot be reached from outside. -/
def Address.isPrivate : Address → Bool
  | v4 bits => privateV4.any fun (block, free) => inBlock bits block free
  | v6 bits => privateV6.any fun (block, free) => inBlock bits block free

/-- Whether a text, without square brackets around it, denotes an address that cannot be
reached from outside. A text that is no address does not. -/
def isPrivateText (s : String) : Bool :=
  match readAddress? (trimBoth (fun c => c == '[' || c == ']') s.toList) with
  | some address => address.isPrivate
  | none => false

end PodReach.Net
