import SessionRecovery.Bytes
import SessionRecovery.Url.Scheme
import SessionRecovery.Url.Label
import SessionRecovery.Decimal

/-!
# Hosts

The machine that a URL speaks of: an address in numbers, a domain of labels, or a name.
-/

/-! ## Numeric addresses

The two numeric forms of a host. A dotted address has up to four numbers, decimal, octal or hexadecimal,
the last of which fills the bytes that are left. A bracketed address has eight groups of hexadecimal
digits, of which one run may be left out and the last two may be written dotted. -/

namespace SessionRecovery.Url

/-- The parts of a text between separators; there is one more part than separators. -/
def splitAt (separator : Char) : List Char → List (List Char)
  | [] => [[]]
  | c :: rest =>
    if c = separator then [] :: splitAt separator rest
    else match splitAt separator rest with
      | part :: parts => (c :: part) :: parts
      | [] => [[c]]

/-- The value of a digit in a base up to sixteen. -/
def digitIn? (base : Nat) (c : Char) : Option Nat :=
  if c.toNat < 0x80 then (Bytes.hexValue? (UInt8.ofNat c.toNat)).filter (· < base) else none

/-- The value of digits in a base; no digits are zero. -/
def numberIn? (base : Nat) (cs : List Char) : Option Nat :=
  cs.foldl (fun acc c => acc.bind fun n => (digitIn? base c).map fun d => n * base + d) (some 0)

/-! ### Dotted addresses -/

/-- One number of a dotted address: hexadecimal after `0x`, octal after `0`, else decimal. -/
def dottedNumber? : List Char → Option Nat
  | [] => none
  | '0' :: 'x' :: rest => numberIn? 16 rest
  | '0' :: 'X' :: rest => numberIn? 16 rest
  | '0' :: c :: rest => numberIn? 8 (c :: rest)
  | cs => numberIn? 10 cs

/-- The parts of a dotted text, without an empty one at the end. -/
def dottedParts (cs : List Char) : List (List Char) :=
  let parts := splitAt '.' cs
  if parts.length > 1 ∧ parts.getLast? = some [] then parts.dropLast else parts

/-- The last part of the text is a number, so the text has to be an address. -/
def endsInNumber (cs : List Char) : Bool :=
  match (dottedParts cs).getLast? with
  | some last => (!last.isEmpty && last.all Char.isDigit) || (dottedNumber? last).isSome
  | none => false

/-- The value of the numbers of a dotted address, the last of which fills the bytes left. -/
def dottedValue? (numbers : List Nat) : Option Nat :=
  match numbers.getLast? with
  | none => none
  | some last =>
    let front := numbers.dropLast
    if front.length ≤ 3 ∧ front.all (· ≤ 255) ∧ last < Nat.pow 256 (4 - front.length) then
      some (front.foldl (fun acc n => acc * 256 + n) 0 * Nat.pow 256 (4 - front.length) + last)
    else none

/-- A dotted address as one number. -/
def dotted? (cs : List Char) : Option Nat :=
  ((dottedParts cs).mapM dottedNumber?).bind dottedValue?

/-! ### Bracketed addresses -/

/-- A group of one to four hexadecimal digits. -/
def group? (cs : List Char) : Option Nat :=
  if 1 ≤ cs.length ∧ cs.length ≤ 4 then numberIn? 16 cs else none

/-- A number of a dotted tail: at most 255, without leading zeros. -/
def tailNumber? (cs : List Char) : Option Nat :=
  if cs.isEmpty ∨ (cs.length > 1 ∧ cs.head? = some '0') then none
  else (numberIn? 10 cs).filter (· ≤ 255)

/-- The two groups of a dotted tail. -/
def tailGroups? (cs : List Char) : Option (List Nat) :=
  match (splitAt '.' cs).mapM tailNumber? with
  | some [a, b, c, d] => some [a * 256 + b, c * 256 + d]
  | _ => none

/-- Groups between colons, where the last may be dotted if `tail` says so. -/
def groups? (tail : Bool) : List (List Char) → Option (List Nat)
  | [] => some []
  | [last] =>
    if tail ∧ '.' ∈ last then tailGroups? last else (group? last).map fun n => [n]
  | part :: rest => do
    let n ← group? part
    let ns ← groups? tail rest
    some (n :: ns)

/-- The groups of one side of the address; an empty side has none. -/
def side? (tail : Bool) (cs : List Char) : Option (List Nat) :=
  if cs.isEmpty then some [] else groups? tail (splitAt ':' cs)

/-- The text before and after the first double colon. -/
def splitDouble : List Char → Option (List Char × List Char)
  | ':' :: ':' :: rest => some ([], rest)
  | c :: rest => (splitDouble rest).map fun p => (c :: p.1, p.2)
  | [] => none

/-- The eight groups of a bracketed address, without its brackets. -/
def bracketed? (cs : List Char) : Option (List Nat) :=
  match splitDouble cs with
  | none => (groups? true (splitAt ':' cs)).filter (·.length = 8)
  | some (front, back) => do
    let ns ← side? false front
    let ms ← side? true back
    if ns.length + ms.length ≤ 7 then
      some (ns ++ List.replicate (8 - ns.length - ms.length) 0 ++ ms)
    else none

/-! ## Domain names

A domain is a text of labels between dots. Percent escapes are resolved first, the whole text is folded,
and every label has to be one that may stand in a domain. The domain is kept in ASCII. -/

/-- The labels of a domain given in folded form. -/
def labels? (folded : List Char) : Option (List (List Char)) :=
  ((splitAt '.' folded).mapM readLabel?).filter fun labels =>
    !labels.any (·.any turns) || labels.all keepsDirection

/-- The domain that a text of a host spells, in ASCII. -/
def domain? (host : List Char) : Option (List Char) := do
  let folded ← (Utf8.decodeChars (unescape (Utf8.encodeChars host))).bind fold?
  let labels ← labels? folded
  some (List.intercalate ['.'] (labels.map asciiLabel))

/-! ## The host of a URL

The machine that a URL speaks of: a domain, an address written with dots or in brackets, or none. The
host of a known scheme is a domain unless it ends in a number; that of any other scheme is a name that is
only escaped. -/

/-- A host. -/
inductive Host where
  /-- None, where one could be named. -/
  | empty
  /-- A name, in ASCII. -/
  | named (name : List Char)
  /-- A dotted address. -/
  | dotted (address : Nat)
  /-- A bracketed address, in groups. -/
  | bracketed (groups : List Nat)
  deriving DecidableEq

/-! ### Reading -/

/-- Reads an address in brackets, after the first bracket. -/
def readBracketed (cs : List Char) : Except Fault Host :=
  if cs.getLast? = some ']' then
    match bracketed? cs.dropLast with
    | some groups => .ok (.bracketed groups)
    | none => .error .bracketed
  else .error .bracketed

/-- Reads a domain or a dotted address. -/
def readDomain (cs : List Char) : Except Fault Host :=
  match domain? cs with
  | none => .error .domain
  | some [] => .error .host
  | some name =>
    if endsInNumber name then
      match dotted? name with
      | some address => .ok (.dotted address)
      | none => .error .dotted
    else .ok (.named name)

/-- A character that may not stand in a name that is only escaped. -/
def isRefused (c : Char) : Bool :=
  c ∈ ['\x00', '\t', '\n', '\x0d', ' ', '#', '/', ':', '<', '>', '?', '@', '[', '\\', ']', '^', '|']

/-- Reads the host of a scheme. -/
def readHost (scheme : Scheme) (cs : List Char) : Except Fault Host :=
  match cs with
  | [] => if scheme.isKnown then .error .host else .ok .empty
  | '[' :: rest => readBracketed rest
  | _ =>
    if scheme.isKnown then readDomain cs
    else if cs.any isRefused then .error .character
    else .ok (.named (escapeIn [] cs))

/-! ### Writing -/

/-- The place and the length of the first longest run of zeros. -/
def longestZeros (groups : List Nat) : Nat × Nat :=
  ((List.range groups.length).map fun i => (i, ((groups.drop i).takeWhile (· == 0)).length)).foldl
    (fun best run => if best.2 < run.2 then run else best) (0, 0)

/-- Groups between colons. -/
def groupsText (groups : List Nat) : List Char :=
  List.intercalate [':'] (groups.map (Nat.toDigits 16 ·))

/-- The groups of a bracketed address, where a double colon stands for the longest run of zeros if it is
longer than one. -/
def bracketedText (groups : List Nat) : List Char :=
  let (place, length) := longestZeros groups
  if length < 2 then groupsText groups
  else groupsText (groups.take place) ++ [':', ':'] ++ groupsText (groups.drop (place + length))

/-- The text of a host. -/
def Host.text : Host → List Char
  | .empty => []
  | .named name => name
  | .dotted n =>
    List.intercalate ['.'] ([n / Nat.pow 2 24, n / Nat.pow 2 16 % 256, n / Nat.pow 2 8 % 256,
      n % 256].map Decimal.natChars)
  | .bracketed groups => '[' :: bracketedText groups ++ [']']

end SessionRecovery.Url
