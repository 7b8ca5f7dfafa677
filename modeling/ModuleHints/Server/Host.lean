import ModuleHints.Unicode.Delimiter
import ModuleHints.Text.Hexadecimal
import ModuleHints.Text.Pieces
import ModuleHints.Text.Quoted

/-!
# Hosts of URIs

Brackets in the authority of a URI stand around its whole host, which is then an address: one of version
six, or one of a later version that says so. No character of an authority may hide a delimiter. Every
other authority will do.
-/

namespace ModuleHints.Server

/-- Why an authority is refused. -/
inductive HostError where
  /-- The brackets do not stand around the whole host. -/
  | brackets
  /-- An address of version four stands in brackets. -/
  | bracketedIpv4
  /-- An address begins like one of a later version and is none. -/
  | futureAddress
  /-- The host in brackets is no address. -/
  | notAddress (host : String)
  /-- A character hides a delimiter. -/
  | hiddenDelimiter (authority : String)
  deriving DecidableEq, Repr

/-- Why an authority is refused, in words. -/
def HostError.message : HostError → String
  | brackets => "Invalid IPv6 URL"
  | bracketedIpv4 => "An IPv4 address cannot be in brackets"
  | futureAddress => "IPvFuture address is invalid"
  | notAddress host => Text.quoted host ++ " does not appear to be an IPv4 or IPv6 address"
  | hiddenDelimiter authority =>
    "netloc '" ++ authority ++ "' contains invalid characters under NFKC normalization"

namespace Host

/-- Whether characters write a number below 256 in decimal digits, without needless zeros. -/
def isOctet (cs : List Char) : Bool :=
  !cs.isEmpty && cs.all Char.isDigit && cs.length ≤ 3 && (cs.length == 1 || cs.head? != some '0') &&
    cs.foldl (fun n c => n * 10 + (c.toNat - '0'.toNat)) 0 < 256

/-- Whether characters write an address of version four. -/
def isIpv4 (cs : List Char) : Bool :=
  let octets := Text.pieces '.' cs
  octets.length == 4 && octets.all isOctet

/-- Whether characters write a group of an address of version six. -/
def isGroup (cs : List Char) : Bool :=
  !cs.isEmpty && cs.length ≤ 4 && cs.all fun c => (Text.hexValue? c).isSome

/-- The pieces of an address of version six between its colons. An address of version four at the end
stands for two groups. -/
def groups (cs : List Char) : List (List Char) :=
  let pieces := Text.pieces ':' cs
  match pieces.getLast? with
  | some last => if isIpv4 last then pieces.dropLast ++ [['0'], ['0']] else pieces
  | none => pieces

/-- The groups on one side of a gap, where a lone empty piece is none. -/
def beside (pieces : List (List Char)) : List (List Char) := if pieces = [[]] then [] else pieces

/-- Whether pieces are eight groups, or fewer with one gap among them. -/
def fillAddress (pieces : List (List Char)) : Bool :=
  let inner := pieces.tail.dropLast
  match inner.idxOf? [] with
  | none => pieces.length == 8 && pieces.all isGroup
  | some n =>
    let present := beside (pieces.take (n + 1)) ++ beside (pieces.drop (n + 2))
    present.length ≤ 7 && present.all isGroup

/-- Whether characters write an address of version six, which may name its zone after a percent sign. -/
def isIpv6 (cs : List Char) : Bool :=
  let zone := cs.dropWhile (· != '%')
  (zone.isEmpty || (zone.length != 1 && !zone.tail.contains '%')) &&
    fillAddress (groups (cs.takeWhile (· != '%')))

/-- Whether characters write an address of a later version: its number, a point, and anything. -/
def isFuture : List Char → Bool
  | 'v' :: rest =>
    let isHex := fun c => (Text.hexValue? c).isSome
    match rest.takeWhile isHex, rest.dropWhile isHex with
    | _ :: _, '.' :: _ :: _ => true
    | _, _ => false
  | _ => false

/-- Refuses what is no address that may stand in brackets. -/
def checkAddress (cs : List Char) : Except HostError Unit :=
  if cs.head? = some 'v' then if isFuture cs then .ok () else .error .futureAddress
  else if isIpv4 cs then .error .bracketedIpv4
  else if isIpv6 cs then .ok ()
  else .error (.notAddress (String.ofList cs))

/-- The characters after the last at sign. -/
def afterUser (cs : List Char) : List Char := (cs.reverse.takeWhile (· != '@')).reverse

/-- Refuses the host of an authority with brackets unless they stand around an address, after which only a
colon may begin something else. -/
def checkBracketed (authority : List Char) : Except HostError Unit :=
  let host := afterUser authority
  match host with
  | '[' :: rest =>
    match rest.dropWhile (· != ']') with
    | ']' :: after =>
      if after.isEmpty || after.head? = some ':' then checkAddress (rest.takeWhile (· != ']'))
      else .error .brackets
    | _ => checkAddress rest
  | _ => if host.contains '[' then .error .brackets else checkAddress (host.takeWhile (· != ':'))

/-- Refuses an authority that can not be one. -/
def check (authority : List Char) : Except HostError Unit := do
  if authority.contains '[' ≠ authority.contains ']' then throw .brackets
  if authority.contains '[' then checkBracketed authority
  if authority.any Unicode.hidesDelimiter then throw (.hiddenDelimiter (String.ofList authority))

end Host

end ModuleHints.Server
