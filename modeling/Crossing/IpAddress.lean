import Mathlib.Data.Nat.Digits.Defs
import Mathlib.Data.List.Basic

namespace IpAddress

/-!
# Addresses of the Internet Protocol

Addresses of both versions, the networks that share a prefix, the text form of
addresses, and the classes that the registries of special addresses give them.
It follows the module `ipaddress` of Python 3.12.
-/

/-- The number that big-endian digits stand for. -/
def bigEndian (radix : Nat) (digits : List Nat) : Nat :=
  Nat.ofDigits radix digits.reverse

/-! ## Networks -/

/-- The mask that keeps the first bits. -/
def netmask (width prefixLength : Nat) : BitVec width :=
  BitVec.allOnes width <<< (width - prefixLength)

/-- The addresses of one width that share a prefix. -/
structure Block (width : Nat) where
  base : BitVec width
  prefixLength : Nat
  aligned : base &&& netmask width prefixLength = base
  deriving Repr, DecidableEq

/-- The prefix of an address is that of the block. -/
def Block.contains {width : Nat} (block : Block width) (bits : BitVec width) :
    Bool :=
  bits &&& netmask width block.prefixLength = block.base

/-- A version 4 address from its octets. -/
def ofOctets (octets : List Nat) : BitVec 32 :=
  .ofNat 32 (bigEndian 256 octets)

/-- A version 6 address from its first groups; the others are zero. -/
def ofHextets (leading : List Nat) : BitVec 128 :=
  .ofNat 128
    (bigEndian 65536 (leading ++ List.replicate (8 - leading.length) 0))

/-- An address; one of version 6 may have a scope. -/
inductive Address where
  | v4 (bits : BitVec 32)
  | v6 (bits : BitVec 128) (scope : Option String)
  deriving Repr, DecidableEq

/-- A network of either version. -/
inductive Network where
  | v4 (block : Block 32)
  | v6 (block : Block 128)
  deriving Repr, DecidableEq

/-- `address in network`, which never holds between the two versions. -/
def Network.contains : Network → Address → Bool
  | .v4 block, .v4 bits => block.contains bits
  | .v6 block, .v6 bits _ => block.contains bits
  | _, _ => false

/-! ## Text -/

/-- `_parse_octet`: at most three digits, without leading zeros. -/
def parseOctet (text : List Char) : Option Nat :=
  let value := Nat.ofDigitChars 10 text 0
  if text ≠ [] ∧ text.all Char.isDigit ∧ text.length ≤ 3 ∧
      (text = ['0'] ∨ text.head? ≠ some '0') ∧ value ≤ 255 then
    some value
  else
    none

/-- The text of a version 4 address. -/
def parseV4 (text : List Char) : Option (BitVec 32) :=
  let octets := text.splitOn '.'
  if octets.length = 4 then
    (octets.mapM parseOctet).map ofOctets
  else
    none

/-- A hexadecimal digit of either case. -/
def hexDigit (char : Char) : Option Nat :=
  if char.isDigit then some (char.toNat - '0'.toNat)
  else if 'a' ≤ char ∧ char ≤ 'f' then some (char.toNat - 'a'.toNat + 10)
  else if 'A' ≤ char ∧ char ≤ 'F' then some (char.toNat - 'A'.toNat + 10)
  else none

/-- `_parse_hextet`: one to four hexadecimal digits. -/
def parseHextet (text : List Char) : Option Nat :=
  if text ≠ [] ∧ text.length ≤ 4 then
    (text.mapM hexDigit).map (bigEndian 16)
  else
    none

/-- A version 4 address at the end is read as two groups. -/
def expandTail (parts : List (List Char)) : Option (List (List Char)) :=
  match parts.getLast? with
  | none => some parts
  | some last =>
      if '.' ∈ last then
        (parseV4 last).map fun bits =>
          parts.dropLast ++
            [Nat.toDigits 16 (bits.toNat / 65536),
              Nat.toDigits 16 (bits.toNat % 65536)]
      else
        some parts

/-- Where `::` leaves out groups: the empty parts between two others. -/
def gaps (parts : List (List Char)) : List Nat :=
  (List.range parts.length).filter fun index =>
    0 < index ∧ index + 1 < parts.length ∧ parts.getD index [] = []

/-- The parts on one side of `::`, which is empty when `::` ends the text. -/
def besideGap (side : List (List Char)) (atEnd : Bool) :
    Option (List (List Char)) :=
  if atEnd then
    if side.length = 1 then some [] else none
  else
    some side

/-- The groups of a version 6 address. -/
def parseParts (parts : List (List Char)) : Option (List Nat) :=
  let startsEmpty := parts.head? = some []
  let endsEmpty := parts.getLast? = some []
  match gaps parts with
  | [] =>
      if parts.length = 8 ∧ ¬ startsEmpty ∧ ¬ endsEmpty then
        parts.mapM parseHextet
      else
        none
  | [skip] => do
      let high ← besideGap (parts.take skip) startsEmpty
      let low ← besideGap (parts.drop (skip + 1)) endsEmpty
      if high.length + low.length < 8 then do
        let highs ← high.mapM parseHextet
        let lows ← low.mapM parseHextet
        let skipped := 8 - (high.length + low.length)
        some (highs ++ List.replicate skipped 0 ++ lows)
      else
        none
  | _ => none

/-- The text of a version 6 address without its scope. -/
def parseV6 (text : List Char) : Option (BitVec 128) := do
  let parts := text.splitOn ':'
  if parts.length < 3 then
    none
  else
    let parts ← expandTail parts
    if parts.length ≤ 9 then
      (parseParts parts).map ofHextets
    else
      none

/-- `_split_scope_id`. -/
def splitScope (text : List Char) : Option (List Char × Option String) :=
  let address := text.takeWhile (· ≠ '%')
  match text.dropWhile (· ≠ '%') with
  | [] => some (address, none)
  | _ :: scope =>
      if scope = [] ∨ '%' ∈ scope then
        none
      else
        some (address, some (.ofList scope))

/-- `ip_address(text)`; `none` stands for `ValueError`. -/
def ipAddress (text : String) : Option Address :=
  if '/' ∈ text.toList then
    none
  else
    match parseV4 text.toList with
    | some bits => some (.v4 bits)
    | none => do
        let (address, scope) ← splitScope text.toList
        let bits ← parseV6 address
        some (.v6 bits scope)

/-! ## Special addresses -/

/-- A version 4 block. -/
def blockV4 (octets : List Nat) (prefixLength : Nat) : Block 32 where
  base := ofOctets octets &&& netmask 32 prefixLength
  prefixLength := prefixLength
  aligned := by rw [BitVec.and_assoc, BitVec.and_self]

/-- A version 6 block. -/
def blockV6 (leading : List Nat) (prefixLength : Nat) : Block 128 where
  base := ofHextets leading &&& netmask 128 prefixLength
  prefixLength := prefixLength
  aligned := by rw [BitVec.and_assoc, BitVec.and_self]

/-- `_IPv4Constants._private_networks`. -/
def privateV4 : List (Block 32) :=
  [blockV4 [0, 0, 0, 0] 8,
    blockV4 [10, 0, 0, 0] 8,
    blockV4 [127, 0, 0, 0] 8,
    blockV4 [169, 254, 0, 0] 16,
    blockV4 [172, 16, 0, 0] 12,
    blockV4 [192, 0, 0, 0] 24,
    blockV4 [192, 0, 0, 170] 31,
    blockV4 [192, 0, 2, 0] 24,
    blockV4 [192, 168, 0, 0] 16,
    blockV4 [198, 18, 0, 0] 15,
    blockV4 [198, 51, 100, 0] 24,
    blockV4 [203, 0, 113, 0] 24,
    blockV4 [240, 0, 0, 0] 4,
    blockV4 [255, 255, 255, 255] 32]

/-- `_IPv4Constants._private_networks_exceptions`. -/
def privateExceptionsV4 : List (Block 32) :=
  [blockV4 [192, 0, 0, 9] 32, blockV4 [192, 0, 0, 10] 32]

/-- `_IPv6Constants._private_networks`. -/
def privateV6 : List (Block 128) :=
  [blockV6 [0, 0, 0, 0, 0, 0, 0, 1] 128,
    blockV6 [] 128,
    blockV6 [0, 0, 0, 0, 0, 0xffff] 96,
    blockV6 [0x64, 0xff9b, 1] 48,
    blockV6 [0x100] 64,
    blockV6 [0x2001] 23,
    blockV6 [0x2001, 0xdb8] 32,
    blockV6 [0x2002] 16,
    blockV6 [0xfc00] 7,
    blockV6 [0xfe80] 10]

/-- `_IPv6Constants._private_networks_exceptions`. -/
def privateExceptionsV6 : List (Block 128) :=
  [blockV6 [0x2001, 1, 0, 0, 0, 0, 0, 1] 128,
    blockV6 [0x2001, 1, 0, 0, 0, 0, 0, 2] 128,
    blockV6 [0x2001, 3] 32,
    blockV6 [0x2001, 4, 0x112] 48,
    blockV6 [0x2001, 0x20] 28,
    blockV6 [0x2001, 0x30] 28]

/-- `_IPv6Constants._reserved_networks`. -/
def reservedV6 : List (Block 128) :=
  [blockV6 [] 8,
    blockV6 [0x100] 8,
    blockV6 [0x200] 7,
    blockV6 [0x400] 6,
    blockV6 [0x800] 5,
    blockV6 [0x1000] 4,
    blockV6 [0x4000] 3,
    blockV6 [0x6000] 3,
    blockV6 [0x8000] 3,
    blockV6 [0xa000] 3,
    blockV6 [0xc000] 3,
    blockV6 [0xe000] 4,
    blockV6 [0xf000] 5,
    blockV6 [0xf800] 6,
    blockV6 [0xfe00] 9]

/-- Some block of a list contains the address. -/
def inSome {width : Nat} (blocks : List (Block width)) (bits : BitVec width) :
    Bool :=
  blocks.any fun block => block.contains bits

/-- `ipv4_mapped`: the address that `::ffff:0:0/96` stands for. -/
def ipv4Mapped (bits : BitVec 128) : Option (BitVec 32) :=
  if bits.toNat / 2 ^ 32 = 0xffff then
    some (.ofNat 32 bits.toNat)
  else
    none

namespace Address

/-- `IPv4Address.is_private`. -/
def isPrivateV4 (bits : BitVec 32) : Bool :=
  inSome privateV4 bits && !inSome privateExceptionsV4 bits

/-- `is_private`. -/
def isPrivate : Address → Bool
  | .v4 bits => isPrivateV4 bits
  | .v6 bits _ =>
      match ipv4Mapped bits with
      | some mapped => isPrivateV4 mapped
      | none => inSome privateV6 bits && !inSome privateExceptionsV6 bits

/-- `is_loopback`. -/
def isLoopback : Address → Bool
  | .v4 bits => (blockV4 [127, 0, 0, 0] 8).contains bits
  | .v6 bits _ => bits = 1

/-- `is_link_local`. -/
def isLinkLocal : Address → Bool
  | .v4 bits => (blockV4 [169, 254, 0, 0] 16).contains bits
  | .v6 bits _ => (blockV6 [0xfe80] 10).contains bits

/-- `is_multicast`. -/
def isMulticast : Address → Bool
  | .v4 bits => (blockV4 [224, 0, 0, 0] 4).contains bits
  | .v6 bits _ => (blockV6 [0xff00] 8).contains bits

/-- `is_reserved`. -/
def isReserved : Address → Bool
  | .v4 bits => (blockV4 [240, 0, 0, 0] 4).contains bits
  | .v6 bits _ => inSome reservedV6 bits

/-- `is_unspecified`. -/
def isUnspecified : Address → Bool
  | .v4 bits => bits = 0
  | .v6 bits _ => bits = 0

end Address

end IpAddress
