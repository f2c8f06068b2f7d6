import Mathlib.Data.List.Basic

/-!
# Go's `net.IP`

The address values the learning channel delivers: a byte slice of 4 bytes (IPv4), 16 bytes
(IPv6 or IPv4-mapped), or any other length, `nil` included. `IsGlobalUnicast` decides which
of them the agent caches, and `String` gives the text it caches them under.
-/
namespace Everoute.Monitor

/-- A `net.IP`, Go's `[]byte`. -/
structure IP where
  bytes : List UInt8
  deriving DecidableEq

namespace IP

/-- The prefix `::ffff:0:0/96` of an IPv4-mapped IPv6 address. -/
def v4InV6Prefix : List UInt8 := [0, 0, 0, 0, 0, 0, 0, 0, 0, 0, 0xff, 0xff]

/-- `net.IPv4(a, b, c, d)`, which builds the 16-byte form. -/
def ipv4 (a b c d : UInt8) : IP := ⟨v4InV6Prefix ++ [a, b, c, d]⟩

def ipv4bcast : IP := ipv4 255 255 255 255

def ipv4zero : IP := ipv4 0 0 0 0

def ipv6unspecified : IP := ⟨List.replicate 16 0⟩

def ipv6loopback : IP := ⟨List.replicate 15 0 ++ [1]⟩

/-- `ip.To4()`: the four IPv4 bytes of a 4-byte or an IPv4-mapped 16-byte address. -/
def to4 (ip : IP) : Option (List UInt8) :=
  if ip.bytes.length = 4 then some ip.bytes
  else if ip.bytes.length = 16 ∧ ip.bytes.take 12 = v4InV6Prefix then some (ip.bytes.drop 12)
  else none

/-- `ip.Equal(x)`: equal bytes, an IPv4 address also equal to its mapped form. -/
def equal (ip x : IP) : Bool :=
  if ip.bytes.length = x.bytes.length then ip.bytes == x.bytes
  else if ip.bytes.length = 4 ∧ x.bytes.length = 16 then
    x.bytes.take 12 == v4InV6Prefix && ip.bytes == x.bytes.drop 12
  else if ip.bytes.length = 16 ∧ x.bytes.length = 4 then
    ip.bytes.take 12 == v4InV6Prefix && ip.bytes.drop 12 == x.bytes
  else false

def isUnspecified (ip : IP) : Bool := ip.equal ipv4zero || ip.equal ipv6unspecified

def isLoopback (ip : IP) : Bool :=
  match ip.to4 with
  | some ip4 => ip4.getD 0 0 == 127
  | none => ip.equal ipv6loopback

def isMulticast (ip : IP) : Bool :=
  match ip.to4 with
  | some ip4 => ip4.getD 0 0 &&& 0xf0 == 0xe0
  | none => ip.bytes.length == 16 && ip.bytes.getD 0 0 == 0xff

def isLinkLocalUnicast (ip : IP) : Bool :=
  match ip.to4 with
  | some ip4 => ip4.getD 0 0 == 169 && ip4.getD 1 0 == 254
  | none => ip.bytes.length == 16 && ip.bytes.getD 0 0 == 0xfe && ip.bytes.getD 1 0 &&& 0xc0 == 0x80

/-- `ip.IsGlobalUnicast()`: a 4- or 16-byte address that is not the IPv4 broadcast address,
unspecified, loopback, multicast or link-local unicast. -/
def isGlobalUnicast (ip : IP) : Bool :=
  (ip.bytes.length == 4 || ip.bytes.length == 16) && !ip.equal ipv4bcast && !ip.isUnspecified &&
    !ip.isLoopback && !ip.isMulticast && !ip.isLinkLocalUnicast

/-- Lower-case hexadecimal without leading zeros, Go's `appendHex`. -/
def hex (n : Nat) : List Char := Nat.toDigits 16 n

/-- The sixteen-bit groups of an IPv6 address. -/
def groups (bytes : List UInt8) : List Nat :=
  (List.range 8).map fun i => (bytes.getD (2 * i) 0).toNat * 256 + (bytes.getD (2 * i + 1) 0).toNat

/-- The first longest run of zero groups, as group indices `(e0, e1)`; `(0, 0)` when there is
none. -/
def zeroRun (gs : List Nat) : Nat × Nat :=
  (List.range 8).foldl (fun (e0, e1) i =>
    let j := i + ((gs.drop i).takeWhile (· == 0)).length
    if i < j ∧ e1 - e0 < j - i then (i, j) else (e0, e1)) (0, 0)

/-- `ip.String()`: dotted decimal for an IPv4 (or IPv4-mapped) address; colon-separated
hexadecimal groups for IPv6, the first longest run of two or more zero groups written `::`;
`<nil>` for an empty slice and `?` and the hexadecimal bytes for any other length. -/
def toString (ip : IP) : String :=
  if ip.bytes.length = 0 then "<nil>"
  else match ip.to4 with
  | some p4 => ⟨['.'].intercalate (p4.map fun b => Nat.toDigits 10 b.toNat)⟩
  | none =>
    if ip.bytes.length ≠ 16 then
      ⟨'?' :: ip.bytes.flatMap fun b => [Nat.digitChar (b.toNat / 16), Nat.digitChar (b.toNat % 16)]⟩
    else
      let gs := groups ip.bytes
      let (e0, e1) := zeroRun gs
      if e1 - e0 ≤ 1 then ⟨[':'].intercalate (gs.map hex)⟩
      else ⟨[':'].intercalate ((gs.take e0).map hex) ++ [':', ':'] ++
        [':'].intercalate ((gs.drop e1).map hex)⟩

end IP

end Everoute.Monitor
