import SessionRecovery.Bytes

/-!
# Schemes and escapes

What all parts of a URL have in common: the causes for which a text is none, the scheme that decides how the
rest is read, and the escapes of characters that may not stand as they are.
-/

/-! ## Faults of URLs

Every cause for which a text is no URL. The wording of each cause is in one function. -/

namespace SessionRecovery.Url

/-- Why a text is no URL. -/
inductive Fault where
  /-- The text names no scheme. -/
  | relative
  /-- There is no host. -/
  | host
  /-- The port is no number or too large. -/
  | port
  /-- The host ends in a number and is no dotted address. -/
  | dotted
  /-- The host begins with a bracket and is no bracketed address. -/
  | bracketed
  /-- The host is no domain. -/
  | domain
  /-- The host holds a character that may not stand in it. -/
  | character
  deriving DecidableEq

/-- The words of a fault. -/
def Fault.message : Fault → String
  | .relative => "relative URL without a base"
  | .host => "empty host"
  | .port => "invalid port number"
  | .dotted => "invalid IPv4 address"
  | .bracketed => "invalid IPv6 address"
  | .domain => "invalid international domain name"
  | .character => "invalid domain character"

/-! ## Schemes

The name in front of a URL decides how the rest is read. The schemes of the network have a host, a path
and a port of their own, take a backslash for a slash, and a file may be on a drive; of all other schemes
only the general form is known. -/

/-- The schemes. -/
inductive Scheme where
  /-- A web server. -/
  | http
  /-- A web server, encrypted. -/
  | https
  /-- A socket. -/
  | ws
  /-- A socket, encrypted. -/
  | wss
  /-- A server of files. -/
  | ftp
  /-- A file. -/
  | file
  /-- Any other scheme. -/
  | other (name : List Char)
  deriving DecidableEq

namespace Scheme

/-- The name of a scheme. -/
def text : Scheme → List Char
  | .http => ['h', 't', 't', 'p']
  | .https => ['h', 't', 't', 'p', 's']
  | .ws => ['w', 's']
  | .wss => ['w', 's', 's']
  | .ftp => ['f', 't', 'p']
  | .file => ['f', 'i', 'l', 'e']
  | .other name => name

/-- The schemes that are read by rules of their own. -/
def known : List Scheme := [.http, .https, .ws, .wss, .ftp, .file]

/-- The scheme of a name in lower case. -/
def ofName (name : List Char) : Scheme :=
  (known.find? fun s => s.text == name).getD (.other name)

/-- The scheme is read by rules of its own. -/
def isKnown (s : Scheme) : Bool := known.contains s

/-- The scheme of a web server. -/
def isWeb (s : Scheme) : Bool := s == .http || s == .https

/-- The port used unless another is given. -/
def port? : Scheme → Option Nat
  | .http | .ws => some 80
  | .https | .wss => some 443
  | .ftp => some 21
  | .file | .other _ => none

end Scheme

/-- Reads the scheme in front of a text; gives also what follows its colon. -/
def readScheme (cs : List Char) : Except Fault (Scheme × List Char) :=
  match cs.span fun c => c.isAlphanum || c == '+' || c == '-' || c == '.' with
  | (c :: name, ':' :: rest) =>
    if c.isAlpha then .ok (.ofName ((c :: name).map Char.toLower), rest) else .error .relative
  | _ => .error .relative

/-! ## Percent escapes

A character that may not stand as it is in some part of a URL is written as the bytes of its UTF-8 form,
each after a percent sign. Escapes that are there already stay. -/

/-- The percent escapes of a character. -/
def escapeChar (c : Char) : List Char :=
  (String.utf8EncodeChar c).flatMap fun b =>
    ['%', Bytes.upperHexDigit (b.toNat / 16), Bytes.upperHexDigit (b.toNat % 16)]

/-- A text with the characters of a class escaped, and all controls and characters beyond ASCII. -/
def escapeIn (marks : List Char) (cs : List Char) : List Char :=
  cs.flatMap fun c =>
    if c.toNat < 0x20 ∨ 0x7F ≤ c.toNat ∨ c ∈ marks then escapeChar c else [c]

/-- The marks that a fragment escapes. -/
def fragmentMarks : List Char := [' ', '"', '<', '>', '\x60']

/-- The marks that a query escapes. -/
def queryMarks : List Char := [' ', '"', '#', '<', '>']

/-- The marks that the query of a known scheme escapes. -/
def knownQueryMarks : List Char := '\'' :: queryMarks

/-- The marks that a path escapes. -/
def pathMarks : List Char := ['#', '?', '\x7b', '\x7d'] ++ fragmentMarks

/-- The marks that the name and the password of a user escape. -/
def userMarks : List Char := ['/', ':', ';', '=', '@', '[', '\\', ']', '^', '|'] ++ pathMarks

/-- The bytes of a text with its percent escapes resolved; a percent sign without two digits stays. -/
def unescape : Bytes → Bytes
  | 0x25 :: h :: l :: rest =>
    match Bytes.hexValue? h, Bytes.hexValue? l with
    | some high, some low => UInt8.ofNat (high * 16 + low) :: unescape rest
    | _, _ => 0x25 :: unescape (h :: l :: rest)
  | b :: rest => b :: unescape rest
  | [] => []

end SessionRecovery.Url
