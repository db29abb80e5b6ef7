import SessionRecovery.Url.Host
import SessionRecovery.Url.Scheme
import SessionRecovery.Text.Character
import SessionRecovery.Bytes

/-!
# URLs

A URL is read from a text, kept settled, and written back.
-/

/-! ## Paths

A path is a list of steps, each after a slash, or a text without structure where no slash begins it. In
a settled path no step leads to itself or upwards, and what may not stand as it is is escaped. A step that
names a drive stays where it is: no step upwards leaves it. -/

namespace SessionRecovery.Url

/-- A path. -/
inductive Path where
  /-- Steps, each after a slash. -/
  | steps (steps : List (List Char))
  /-- A text without structure. -/
  | plain (text : List Char)
  deriving DecidableEq

/-- A slash in either direction. -/
def isSlash (c : Char) : Bool := c == '/' || c == '\\'

/-- A step of a path to itself. -/
def isHere (step : List Char) : Bool :=
  step == ['.'] || step.map Char.toLower == ['%', '2', 'e']

/-- A step of a path upwards. -/
def isUp (step : List Char) : Bool :=
  ["..", ".%2e", "%2e.", "%2e%2e"].any fun s => s.toList == step.map Char.toLower

/-- A drive: a letter and a colon or a bar. -/
def isDrive : List Char → Bool
  | [letter, sign] => letter.isAlpha && (sign == ':' || sign == '|')
  | _ => false

/-- A step that begins with a drive and goes no further than a backslash after it. -/
def namesDrive (step : List Char) : Bool := isDrive (step.takeWhile (· ≠ '\\'))

/-- The steps after one upwards, last one first. -/
def stepUp : List (List Char) → List (List Char)
  | [] => []
  | step :: before => if namesDrive step then step :: before else before

/-- One step, settled; where drives are known the first step of a path may be one. -/
def settleStep (drives : Bool) (step : List Char) : List Char :=
  if drives && isDrive step then step.take 1 ++ [':'] else escapeIn pathMarks step

/-- The steps of a path, settled; the steps before the first one given are reversed. -/
def settleSteps (drives : Bool) : List (List Char) → List (List Char) → List (List Char)
  | done, [] => done.reverse
  | done, step :: rest =>
    if isUp step then
      settleSteps drives (if rest.isEmpty then [] :: stepUp done else stepUp done) rest
    else if isHere step then settleSteps drives (if rest.isEmpty then [] :: done else done) rest
    else settleSteps drives (settleStep (drives && done.isEmpty) step :: done) rest

/-- The settled steps of a text between slashes. -/
def stepsOf (text : List Char) : List (List Char) := settleSteps false [] (splitAt '/' text)

/-- A text with all slashes in one direction. -/
def straightened (text : List Char) : List Char := text.map fun c => if c = '\\' then '/' else c

/-- The settled steps of a file. -/
def fileSteps (text : List Char) : List (List Char) :=
  settleSteps true [] (splitAt '/' (straightened text))

/-- Steps without the empty ones in front, if there are others. -/
def trimmedSteps (all : List (List Char)) : List (List Char) :=
  match all.dropWhile List.isEmpty with
  | [] => [[]]
  | kept => kept

/-- The text of a path. -/
def Path.text : Path → List Char
  | .steps all => all.flatMap ('/' :: ·)
  | .plain text => text

/-! ## The parts of a URL

A URL is a scheme, perhaps an authority, a path, and perhaps a query and a fragment. Blanks around it and
line breaks inside it do not count; in a known scheme a backslash is a slash, and the number of slashes
after the scheme does not matter. The authority names who asks, the host, and the port.

A URL is kept settled, so that its text is one spelling for all texts that mean it. -/

/-- The authority of a URL. -/
structure Authority where
  /-- The name of the user, which may be empty. -/
  user : List Char
  /-- The password of the user. -/
  password : Option (List Char)
  /-- The host. -/
  host : Host
  /-- The port, if it is not the scheme's own. -/
  port : Option Nat
  deriving DecidableEq

/-- The authority that names a host and nothing else. -/
def Authority.ofHost (host : Host) : Authority := ⟨[], none, host, none⟩

/-- The text without what does not count: controls and spaces around it, tabs and line breaks in it. -/
def relevant (cs : List Char) : List Char :=
  (Text.dropEndWhile (·.toNat ≤ 0x20) (cs.dropWhile (·.toNat ≤ 0x20))).filter fun c =>
    c ≠ '\t' ∧ c ≠ '\n' ∧ c ≠ '\x0d'

/-- The text before a mark, and the text after it if it is there. -/
def splitOff (mark : Char) (cs : List Char) : List Char × Option (List Char) :=
  match cs.span (· ≠ mark) with
  | (front, []) => (front, none)
  | (front, _ :: back) => (front, some back)

/-! ### Authorities -/

/-- The text before the last at sign, if there is one, and the text after it. -/
def splitUser (cs : List Char) : Option (List Char) × List Char :=
  if '@' ∈ cs then
    let place := (cs.reverse.takeWhile (· ≠ '@')).reverse
    (some (cs.take (cs.length - place.length - 1)), place)
  else (none, cs)

/-- The name and the password of a user, in settled spelling. -/
def readUser (cs : List Char) : List Char × Option (List Char) :=
  let (name, password) := splitOff ':' cs
  (escapeIn userMarks name, (password.filter (· ≠ [])).map (escapeIn userMarks))

/-- The end of the host: the first colon outside brackets. -/
def hostSpan : Bool → List Char → List Char × List Char
  | _, [] => ([], [])
  | inside, c :: rest =>
    if c = ':' ∧ !inside then ([], c :: rest)
    else
      let (host, port) := hostSpan (if c = '[' then true else if c = ']' then false else inside) rest
      (c :: host, port)

/-- Reads a port, from its colon on; without digits there is none. -/
def readPort (cs : List Char) : Except Fault (Option Nat) :=
  match cs.drop 1 with
  | [] => .ok none
  | digits =>
    match numberIn? 10 digits with
    | some n => if n ≤ 65535 then .ok (some n) else .error .port
    | none => .error .port

/-- Reads an authority. What follows a backslash after the port is left over; `followed` says whether
anything stands behind the authority. -/
def readAuthority (scheme : Scheme) (followed : Bool) (cs : List Char) :
    Except Fault (Authority × List Char) := do
  let (asking, place) := splitUser cs
  if asking = some [] ∧ place = [] ∧ followed then .error .host
  let (user, password) := readUser (asking.getD [])
  let (name, number) := hostSpan false place
  let host ← readHost scheme name
  if host = .empty ∧ (number ≠ [] ∨ user ≠ [] ∨ password ≠ none) then .error .host
  let (number, left) := number.span (· ≠ '\\')
  let port ← readPort number
  .ok (⟨user, password, host, port.filter (some · ≠ scheme.port?)⟩, left)

/-! ### What follows the scheme -/

/-- Reads the authority and the path of a scheme of the network, of which every number of slashes is the
beginning. -/
def readNetwork (scheme : Scheme) (cs : List Char) : Except Fault (Option Authority × Path) := do
  let (place, path) := (cs.dropWhile isSlash).span fun c => !isSlash c
  let (authority, _) ← readAuthority scheme true place
  .ok (some authority, .steps (stepsOf (straightened (path.drop 1))))

/-- Reads the place and the path of a file. A host that is this machine is none, a drive in the place of
the host is the first step, and a file on a drive has no host. -/
def readFile (cs : List Char) : Except Fault (Option Authority × Path) := do
  let (host, path) ← match cs with
    | a :: b :: rest =>
      if isSlash a && isSlash b then
        let (name, path) := rest.span fun c => !isSlash c
        if name.isEmpty then .ok (Host.empty, path.drop 1)
        else if isDrive name then .ok (Host.empty, rest)
        else
          let host ← readHost .file name
          .ok (if host = .named "localhost".toList then .empty else host, path.drop 1)
      else .ok (Host.empty, if isSlash a then b :: rest else cs)
    | [a] => .ok (Host.empty, if isSlash a then [] else cs)
    | [] => .ok (Host.empty, [])
  let steps := fileSteps path
  .ok (some (.ofHost (if steps.head?.any isDrive then .empty else host)), .steps (trimmedSteps steps))

/-- Reads the authority and the path of any other scheme: an authority after two slashes, a path after
one, and else a text without structure. -/
def readOther (scheme : Scheme) (followed : Bool) (cs : List Char) :
    Except Fault (Option Authority × Path) :=
  match cs with
  | '/' :: '/' :: rest => do
    let (place, path) := rest.span (· ≠ '/')
    let (authority, left) ← readAuthority scheme (followed || !path.isEmpty) place
    let path := if left.isEmpty then path else '/' :: left ++ path
    .ok (some authority, .steps (if path.isEmpty then [] else stepsOf (path.drop 1)))
  | '/' :: rest => .ok (none, .steps (stepsOf rest))
  | _ => .ok (none, .plain (escapeIn [] cs))

end SessionRecovery.Url

namespace SessionRecovery

/-- A URL. -/
structure Url where
  /-- The scheme. -/
  scheme : Url.Scheme
  /-- The authority, if there can be one. -/
  authority : Option Url.Authority
  /-- The path. -/
  path : Url.Path
  /-- The query. -/
  query : Option (List Char)
  /-- The fragment. -/
  fragment : Option (List Char)
  deriving DecidableEq

namespace Url

/-- Reads a URL. -/
def parse (s : String) : Except Fault Url := do
  let (scheme, rest) ← readScheme (relevant s.toList)
  let (rest, fragment) := splitOff '#' rest
  let (rest, query) := splitOff '?' rest
  let (authority, path) ← match scheme with
    | .other _ => readOther scheme (query.isSome || fragment.isSome) rest
    | .file => readFile rest
    | _ => readNetwork scheme rest
  let marks := if scheme.isKnown then knownQueryMarks else queryMarks
  .ok ⟨scheme, authority, path, query.map (escapeIn marks), fragment.map (escapeIn fragmentMarks)⟩

/-- The host of a URL. -/
def host? (u : Url) : Option Host := (u.authority.map (·.host)).filter (· ≠ .empty)

end Url

end SessionRecovery

/-! ## The text of a URL

A URL in its settled spelling, and the same URL without the name and password of a user, which are not
shown and not sent with it. -/

namespace SessionRecovery.Url

/-- The text of an authority, with the slashes before it. -/
def Authority.text (a : Authority) : List Char :=
  ['/', '/'] ++
    (if a.user ≠ [] ∨ a.password ≠ none then
      a.user ++ (match a.password with
        | some password => ':' :: password
        | none => []) ++ ['@']
    else []) ++
    a.host.text ++
    match a.port with
    | some n => ':' :: Decimal.natChars n
    | none => []

/-- What stands before the path of a URL. Without an authority a path that begins with two slashes is kept
from looking like one. -/
def frontText (authority : Option Authority) (path : Path) : List Char :=
  match authority, path with
  | some a, _ => a.text
  | none, .steps ([] :: _ :: _) => ['/', '.']
  | none, _ => []

/-- A part of a URL after its mark, if it is there. -/
def markedText (mark : Char) : Option (List Char) → List Char
  | some text => mark :: text
  | none => []

/-- The text of a URL. -/
def render (u : Url) : String :=
  String.ofList (u.scheme.text ++ [':'] ++ frontText u.authority u.path ++ u.path.text ++
    markedText '?' u.query ++ markedText '#' u.fragment)

/-- An escaped text stands for UTF-8. -/
def isReadable (cs : List Char) : Bool :=
  (Utf8.decodeChars (unescape (Utf8.encodeChars cs))).isSome

/-- The authority tells who asks: its user has a name or a password, and these can be read. -/
def Authority.tellsUser (a : Authority) : Bool :=
  isReadable a.user && (a.user ≠ [] || a.password.any isReadable)

/-- The URL without its user, if it tells who that is. -/
def withoutUser (u : Url) : Url :=
  { u with authority := u.authority.map fun a =>
      if a.tellsUser then { a with user := [], password := none } else a }

end SessionRecovery.Url
