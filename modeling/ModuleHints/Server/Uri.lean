import ModuleHints.Text.Utf8
import ModuleHints.Server.Host

/-!
# Documents by URI

A client names documents by URI. The path of a document is the path of its URI with every escape
replaced by what it stands for; a query and a fragment do not belong to it, and neither do parameters
in the last segment where the scheme has them. A host comes before the path of a file, and the letter
of a drive that begins it is written small and without a slash before it. Two URIs name the same document
where they agree once all their escapes are replaced.
-/

namespace ModuleHints.Server

/-- A URI in its parts, escapes and all. -/
structure Uri where
  /-- The scheme in lower case, empty if there is none. -/
  scheme : String
  /-- The host and what belongs to it. -/
  authority : List Char
  /-- The path. -/
  path : List Char
  deriving DecidableEq, Repr

namespace Uri

/-- Whether a character may stand in a scheme. -/
def isSchemeChar (c : Char) : Bool := c.isAlphanum || c == '+' || c == '-' || c == '.'

/-- Whether a character ends the host of a URI. -/
def endsAuthority (c : Char) : Bool := c == '/' || c == '?' || c == '#'

/-- Schemes whose last segment may have parameters after a semicolon. -/
def schemesWithParameters : List String :=
  ["", "ftp", "hdl", "prospero", "http", "imap", "https", "shttp", "rtsp", "rtspu", "sip", "sips",
   "mms", "sftp", "tel"]

/-- The text without what a client may have put around or between its characters by mistake. -/
def cleaned (cs : List Char) : List Char :=
  (cs.dropWhile fun c => c.toNat ≤ 32).filter fun c => c != '\t' && c != '\r' && c != '\n'

/-- The scheme of a URI and what follows it. -/
def splitScheme (cs : List Char) : String × List Char :=
  let name := cs.takeWhile (· != ':')
  match cs.drop name.length with
  | ':' :: rest =>
    if (name.head?.any Char.isAlpha) && name.all isSchemeChar then
      (String.ofList (name.map Char.toLower), rest)
    else ("", cs)
  | _ => ("", cs)

/-- The host of a URI without its scheme, and what follows it. -/
def splitAuthority : List Char → List Char × List Char
  | '/' :: '/' :: rest =>
    (rest.takeWhile fun c => !endsAuthority c, rest.dropWhile fun c => !endsAuthority c)
  | cs => ([], cs)

/-- The path without the parameters of its last segment. -/
def withoutParameters (path : List Char) : List Char :=
  let last := (path.reverse.takeWhile (· != '/')).reverse
  path.take (path.length - last.length) ++ last.takeWhile (· != ';')

/-- The parts of a written URI. -/
def ofString (s : String) : Except HostError Uri := do
  let (scheme, rest) := splitScheme (cleaned s.toList)
  let (authority, rest) := splitAuthority rest
  Host.check authority
  let path := rest.takeWhile fun c => c != '#' && c != '?'
  return {
    scheme := scheme
    authority := authority
    path := if schemesWithParameters.contains scheme then withoutParameters path else path }

/-- The number that two hexadecimal digits write. -/
def hexPair? : List Char → Option Nat
  | a :: b :: _ => do return (← Text.hexValue? a) * 16 + (← Text.hexValue? b)
  | _ => none

/-- The bytes that ASCII characters with escapes write. -/
def escapedBytes : List Char → List Nat
  | [] => []
  | c :: rest =>
    match (if c = '%' then hexPair? rest else none) with
    | some byte => byte :: escapedBytes (rest.drop 2)
    | none => c.toNat :: escapedBytes rest
termination_by cs => cs.length

/-- The text that a part of a URI stands for; `run` holds the ASCII characters just before, last
first. -/
def unescape (run : List Char) : List Char → List Char
  | [] => Text.decodeLossy none (escapedBytes run.reverse)
  | c :: rest =>
    if c.toNat < 128 then unescape (c :: run) rest
    else Text.decodeLossy none (escapedBytes run.reverse) ++ c :: unescape [] rest

/-- A path in which the drive that begins it, if one does, is written small and without a slash before
it. -/
def withDrive (path : List Char) : List Char :=
  match path with
  | '/' :: drive :: ':' :: rest => if drive.isAlpha then drive.toLower :: ':' :: rest else path
  | _ => path

/-- The path that a URI stands for. -/
def filePath (u : Uri) : String :=
  let authority := unescape [] u.authority
  let path := unescape [] u.path
  if u.scheme ≠ "file" then String.ofList path
  else if authority.isEmpty || path.isEmpty then String.ofList (withDrive path)
  else String.ofList ('/' :: '/' :: authority ++ path)

/-- The text by which a document is known: its URI with every escape replaced. -/
def documentKey (s : String) : String := String.ofList (unescape [] s.toList)

end Uri

end ModuleHints.Server
