import WebSsh2.Sftp.ShellCommands
import WebSsh2.Ssh.IpAddress

namespace WebSsh2.Ssh

open WebSsh2.Library

section Numbers

-- `value << count`, where only the low five bits of the count are read.
def shiftLeft (value : Int) (count : Nat) : BitVec 32 :=
  BitVec.ofInt 32 value <<< (count % 32)

def toInt32 : Number → BitVec 32
  | .finite value => BitVec.ofInt 32 (value.num.tdiv value.den)
  | .nan => 0
  | .infinity _ => 0

-- `Number.parseInt(text, 16)`
def parseHexInt (text : JsString) : Number :=
  let stripped (rest : JsString) : JsString :=
    match rest with
    | 48 :: 120 :: digits => digits
    | 48 :: 88 :: digits => digits
    | digits => digits
  let unsigned (negative : Bool) (rest : JsString) : Number :=
    let digits := (stripped rest).takeWhile isHexDigit
    if digits = [] then
      .nan
    else
      let number : Int := hexDigitsValue digits
      Sftp.toDouble (.ofInt (if negative then -number else number))
  match text.dropWhile isWhiteSpace with
  | 45 :: rest => unsigned true rest
  | 43 :: rest => unsigned false rest
  | rest => unsigned false rest

-- `Number.parseInt(text, 10)` where it is a number from zero to `most`.
def parseBounded (most : Nat) (text : JsString) : Option Nat :=
  match parseInt text with
  | .finite number => if number < 0 ∨ (most : ℚ) < number then none else some number.num.toNat
  | _ => none

end Numbers

section Subnets

def ipv4MaxMaskBits : Nat := 32

def ipv4FullMask : Int := 0xffffffff

def ipv4OctetMax : Nat := 255

def ipv4OctetCount : Nat := 4

def ipv6MaxMaskBits : Nat := 128

def ipv6SegmentCount : Nat := 8

def ipv6SegmentBits : Nat := 16

def ipv6SegmentHexDigits : Nat := 4

def ipv6SegmentMaxValue : Int := 0xffff

variable (addr : JsString)

-- An octet that is none sets the sum back to zero.
def ipToInt : Int :=
  let parts := addr.splitOn 46
  if parts.length ≠ ipv4OctetCount then
    0
  else
    parts.zipIdx.foldl
      (fun acc (part, i) =>
        match parseBounded ipv4OctetMax part with
        | none => 0
        | some num => acc + (shiftLeft num (8 * (3 - i))).toInt)
      0

variable (ip subnet : JsString)

def isIpv4InCidr : Bool :=
  match subnet.splitOn 47 with
  | subnetBase :: maskStr :: _ =>
    match parseBounded ipv4MaxMaskBits maskStr with
    | none => false
    | some mask =>
      let ipInt := BitVec.ofInt 32 (ipToInt ip)
      let subnetInt := BitVec.ofInt 32 (ipToInt subnetBase)
      let maskBits := shiftLeft ipv4FullMask (ipv4MaxMaskBits - mask)
      decide (ipInt &&& maskBits = subnetInt &&& maskBits)
  | _ => false

structure ParsedIpv6Cidr where
  base : JsString
  mask : Nat

def parseIpv6Cidr (subnet : JsString) : Option ParsedIpv6Cidr :=
  match subnet.splitOn 47 with
  | subnetBase :: maskStr :: _ =>
    (parseBounded ipv6MaxMaskBits maskStr).map fun mask => { base := subnetBase, mask }
  | _ => none

-- `segment.padStart(IPV6_SEGMENT_HEX_DIGITS, '0')`
def padSegment (segment : JsString) : JsString :=
  List.replicate (ipv6SegmentHexDigits - segment.length) 48 ++ segment

-- The first two pieces of `addr.split('::')`, where there are two.
def doubleColonParts : Option (JsString × JsString) :=
  (Text.cut [58, 58] addr).map fun (left, rest) =>
    (left, match Text.cut [58, 58] rest with
      | some (right, _) => right
      | none => rest)

def expandedSegments : List JsString :=
  match doubleColonParts addr with
  | some (left, right) =>
    let left := (left.splitOn 58).filter (· ≠ [])
    let right := (right.splitOn 58).filter (· ≠ [])
    left ++ List.replicate (ipv6SegmentCount - left.length - right.length) [48] ++ right
  | none => addr.splitOn 58

def normalizeIpv6Address : JsString :=
  [58].intercalate ((expandedSegments addr).map padSegment)

-- The bits of both segments that are looked at.
def segmentMatches (ipSegment subnetSegment : JsString) (bitsToCheck : Nat) : Bool :=
  let ipValue := toInt32 (parseHexInt ipSegment)
  let subnetValue := toInt32 (parseHexInt subnetSegment)
  let bitMask := shiftLeft ipv6SegmentMaxValue (ipv6SegmentBits - bitsToCheck) &&&
    BitVec.ofInt 32 ipv6SegmentMaxValue
  decide (ipValue &&& bitMask = subnetValue &&& bitMask)

def ipv6MatchesMask (mask : Nat) : Bool :=
  go 0 (ip.splitOn 58) (subnet.splitOn 58)
where
  go (bitsChecked : Nat) : List JsString → List JsString → Bool
    | [], _ => true
    | ipSegment :: ipSegments, subnetSegments =>
      if mask ≤ bitsChecked then
        true
      else if segmentMatches ipSegment (subnetSegments.headD [48])
          (min ipv6SegmentBits (mask - bitsChecked)) then
        go (bitsChecked + ipv6SegmentBits) ipSegments subnetSegments.tail
      else
        false

def matchesExactIp : Bool :=
  decide (subnet = ip)

def matchesIpv4Wildcard : Bool :=
  if 42 ∉ subnet then
    false
  else
    let ipOctets := ip.splitOn 46
    let subnetOctets := subnet.splitOn 46
    if ipOctets.length ≠ 4 ∨ subnetOctets.length ≠ 4 then
      false
    else
      (subnetOctets.zip ipOctets).all fun (subnetOctet, ipOctet) =>
        decide (subnetOctet = [42] ∨ subnetOctet = ipOctet)

section Matching

variable (runtime : Runtime)

variable (ip subnet : JsString)

def isIpv6InCidr : Bool :=
  match parseIpv6Cidr subnet with
  | none => false
  | some parsed =>
    ipv6MatchesMask (normalizeIpv6Address (runtime.toLowerCase ip))
      (normalizeIpv6Address (runtime.toLowerCase parsed.base)) parsed.mask

def matchesCidrSubnet (isIpv4 isIpv6 : Bool) : Bool :=
  if 47 ∉ subnet then
    false
  else if isIpv4 && decide (46 ∈ subnet) then
    isIpv4InCidr ip subnet
  else if isIpv6 && decide (58 ∈ subnet) then
    isIpv6InCidr runtime ip subnet
  else
    false

-- Whether one entry of the list lets the address in.
def matchesSubnet : Bool :=
  let isIpv4 := decide (isIP ip = 4)
  let isIpv6 := decide (isIP ip = 6)
  matchesExactIp ip subnet || matchesCidrSubnet runtime ip subnet isIpv4 isIpv6 ||
    (isIpv4 && matchesIpv4Wildcard ip subnet)

def isIpInSubnets (ip : JsString) (allowedSubnets : List JsString) : Bool :=
  if allowedSubnets.length = 0 then true else allowedSubnets.any (matchesSubnet runtime ip)

end Matching

end Subnets

section Resolution

-- What `lookup` throws: an `Error` with its message, or something else.
inductive LookupFailure where
  | error (message : JsString)
  | other

inductive LookupEntry where
  | text (address : JsString)
  | record (address : JsValue)

inductive LookupResult where
  | many (entries : List LookupEntry)
  | one (entry : LookupEntry)

abbrev Lookup := JsString → Except LookupFailure LookupResult

structure ResolvedHost where
  hostname : JsString
  addresses : List JsString
deriving DecidableEq

def LookupResult.entries : LookupResult → List LookupEntry
  | .many entries => entries
  | .one entry => [entry]

def LookupFailure.message : LookupFailure → JsString
  | .error message => message
  | .other => js "Failed to resolve hostname"

-- The address of an entry, if it is a text that is not empty.
def entryAddress : LookupEntry → Option JsString
  | .text address => if address = [] then none else some address
  | .record (some (.string address)) => if address = [] then none else some address
  | .record _ => none

def resolveHostname (lookup : Lookup) (hostname : JsString) : Except JsString ResolvedHost :=
  let ipVersion := isIP hostname
  if ipVersion = 4 ∨ ipVersion = 6 then
    .ok { hostname, addresses := [hostname] }
  else
    match lookup hostname with
    | .error failure =>
      .error (js "DNS resolution failed for " ++ hostname ++ js ": " ++ failure.message)
    | .ok lookupResult =>
      let addresses := lookupResult.entries.filterMap entryAddress
      if addresses.length = 0 then
        .error (js "No DNS records found for " ++ hostname)
      else
        .ok { hostname, addresses }

def validateConnectionWithDns (runtime : Runtime) (lookup : Lookup) (host : JsString)
    (allowedSubnets : Option (List JsString)) : Except JsString Bool :=
  match allowedSubnets with
  | none | some [] => .ok true
  | some allowedSubnets =>
    match resolveHostname lookup host with
    | .error message => .error message
    | .ok resolved =>
      .ok (resolved.addresses.any fun ip => isIpInSubnets runtime ip allowedSubnets)

end Resolution

end WebSsh2.Ssh
