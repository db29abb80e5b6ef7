import SessionRecovery.Text.Direction
import SessionRecovery.Text.Joining
import SessionRecovery.Text.Mark
import SessionRecovery.Url.Folding

/-!
# Labels

The parts of a domain between its dots, in any script, and their form in ASCII.
-/

/-! ## Punycode

Characters beyond ASCII inside a label of letters and digits: the ASCII characters come first, and the
others follow as a sequence of gaps, each a number of digits whose weights adapt to the gaps before. A gap
says how many places are passed, over and over through the growing text, until the next character fits. -/

namespace SessionRecovery.Url.Punycode

/-- The value of a digit: letters, then decimal digits. -/
def digit? (c : Char) : Option Nat :=
  if 'a' ≤ c ∧ c ≤ 'z' then some (c.toNat - 'a'.toNat)
  else if 'A' ≤ c ∧ c ≤ 'Z' then some (c.toNat - 'A'.toNat)
  else if c.isDigit then some (c.toNat - '0'.toNat + 26)
  else none

/-- The digit of a value below thirty-six. -/
def digitOf (n : Nat) : Char :=
  Char.ofNat (if n < 26 then 'a'.toNat + n else '0'.toNat + (n - 26))

/-- How far the digit at weight position `k` reaches under a bias. -/
def threshold (k bias : Nat) : Nat :=
  if k ≤ bias then 1 else if bias + 26 ≤ k then 26 else k - bias

/-- A digit reaches past zero under every bias. -/
theorem threshold_pos (k bias : Nat) : 0 < threshold k bias := by
  unfold threshold; split
  · omega
  · split <;> omega

/-- Divides a gap until it is small, counting the divisions in steps of thirty-six. -/
def settle (gap k : Nat) : Nat × Nat :=
  if 455 < gap then settle (gap / 35) (k + 36) else (gap, k)
termination_by gap
decreasing_by omega

/-- The bias after a gap, with the number of characters placed so far. -/
def adapt (gap count : Nat) (first : Bool) : Nat :=
  let halved := if first then gap / 700 else gap / 2
  let (small, k) := settle (halved + halved / count) 0
  k + 36 * small / (small + 38)

/-! ### Reading -/

/-- The state of reading: the next code point and place, and the bias. -/
structure State where
  /-- The code point reached. -/
  code : Nat
  /-- The place reached. -/
  place : Nat
  /-- The bias. -/
  bias : Nat

/-- Reads digits into characters; a gap is open with its start, its weight and its position. -/
def readGaps (s : State) (start weight k : Nat) (isOpen : Bool) (out : List Nat) :
    List Char → Option (List Nat)
  | [] => if isOpen then none else some out
  | c :: rest =>
    match digit? c with
    | none => none
    | some d =>
      let place := s.place + d * weight
      let t := threshold k s.bias
      if 2 ^ 32 ≤ place then none
      else if d < t then
        let count := out.length + 1
        let code := s.code + place / count
        let at' := place % count
        if 0x110000 ≤ code ∨ (0xD800 ≤ code ∧ code ≤ 0xDFFF) then none
        else
          let bias := adapt (place - start) count (start = 0)
          readGaps ⟨code, at' + 1, bias⟩ (at' + 1) 1 36 false
            (out.take at' ++ code :: out.drop at') rest
      else if 2 ^ 32 ≤ weight * (36 - t) then none
      else readGaps { s with place := place } start (weight * (36 - t)) (k + 36) true out rest

/-- The ASCII characters before the last hyphen, and the digits after it. A hyphen at the front has no
characters before it and is left to the digits. -/
def splitLast (cs : List Char) : List Char × List Char :=
  let digits := (cs.reverse.takeWhile (· ≠ '-')).reverse
  match (cs.take (cs.length - digits.length)).dropLast with
  | [] => ([], cs)
  | front => (front, digits)

/-- The code points of a label, without its marker. -/
def decode? (cs : List Char) : Option (List Nat) :=
  let (basic, digits) := splitLast cs
  if basic.all (·.toNat < 0x80) then
    readGaps ⟨0x80, 0, 72⟩ 0 1 36 false (basic.map Char.toNat) digits
  else none

/-! ### Writing -/

/-- The digits of a gap. -/
def gapDigits (bias k gap : Nat) : List Char :=
  let t := threshold k bias
  if gap < t then [digitOf gap]
  else digitOf (t + (gap - t) % (36 - t)) :: gapDigits bias (k + 36) ((gap - t) / (36 - t))
termination_by gap
decreasing_by
  have h := threshold_pos k bias
  exact Nat.lt_of_le_of_lt (Nat.div_le_self _ _) (by omega)

/-- The state of writing. -/
structure Progress where
  /-- The places passed since the last character was placed. -/
  gap : Nat
  /-- The bias. -/
  bias : Nat
  /-- How many characters are placed. -/
  count : Nat
  /-- How many ASCII characters there are. -/
  basic : Nat
  /-- The digits so far. -/
  digits : List Char

/-- Passes one character of the text while the character `code` is being placed. -/
def Progress.pass (code : Nat) (p : Progress) (other : Nat) : Progress :=
  if other < code then { p with gap := p.gap + 1 }
  else if other = code then
    { p with
      gap := 0
      bias := adapt p.gap (p.count + 1) (p.count = p.basic)
      count := p.count + 1
      digits := p.digits ++ gapDigits p.bias 36 p.gap }
  else p

/-- Places all characters from a list of ascending code points, each of them wherever it occurs. The
number `next` is the first code point that has not been tried. -/
def placeAll (text : List Nat) (next : Nat) (p : Progress) : List Nat → Progress
  | [] => p
  | code :: rest =>
    let p := text.foldl (·.pass code) { p with gap := p.gap + (code - next) * (p.count + 1) }
    placeAll text (code + 1) { p with gap := p.gap + 1 } rest

/-- A label of the given code points, without its marker. -/
def encode (text : List Nat) : List Char :=
  let basic := text.filter (· < 0x80)
  let others := ((text.filter (0x80 ≤ ·)).mergeSort (· ≤ ·)).eraseReps
  let p := placeAll text 0x80 ⟨0, 72, basic.length, basic.length, []⟩ others
  basic.map Char.ofNat ++ (if basic.isEmpty then [] else ['-']) ++ p.digits

end SessionRecovery.Url.Punycode

/-! ## Labels of domains

A label is a text in its folded form or, after a marker, the encoded form of such a text. No mark begins
it, a joiner stands only where it changes how letters are written, and in a domain with letters that lead
to the left every label has to keep one direction. -/

namespace SessionRecovery.Url

/-- Characters that may not stand in a domain: controls, the space, and the marks of URLs. -/
def isForbidden (c : Char) : Bool :=
  c.toNat ≤ 0x20 || c.toNat == 0x7F || c == '%' || c == '#' || c == '/' || c == ':' || c == '<' ||
    c == '>' || c == '?' || c == '@' || c == '[' || c == '\\' || c == ']' || c == '^' || c == '|'

/-- An ASCII character. -/
def isAscii (c : Char) : Bool := c.toNat < 0x80

/-! ### Joiners -/

/-- The character that keeps its neighbours from being joined. -/
def nonJoiner : Char := '\u200c'

/-- The character that joins its neighbours. -/
def joiner : Char := '\u200d'

/-- The first character that is not passed over is joined in one of the given ways. -/
def meets (ways : List Text.Joining) : List Char → Bool
  | [] => false
  | c :: rest => match Text.joining c with
    | .passed => meets ways rest
    | way => ways.contains way

/-- A joiner is in its place: after a mark that takes a vowel away, or, where it keeps letters apart,
between letters that would be joined. The characters before it are given last one first. -/
def joinerFits (c : Char) (before after : List Char) : Bool :=
  (before.head?.any Text.isVirama) ||
    (c == nonJoiner && meets [.after, .both] before && meets [.before, .both] after)

/-- Every joiner is in its place. -/
def joinersFit (before : List Char) : List Char → Bool
  | [] => true
  | c :: rest =>
    (!(c == nonJoiner || c == joiner) || joinerFits c before rest) && joinersFit (c :: before) rest

/-! ### Direction -/

/-- The character leads to the left, or is a digit of such a script. -/
def turns (c : Char) : Bool := Text.direction c == .left || Text.direction c == .arabic

/-- The directions inside a label, from the second character to the last one that is no mark, end in one of
`ends`, and all of them are among `ends` or fit in. -/
def endsIn (ends body : List Text.Direction) : Bool :=
  body.getLast?.all ends.contains && body.all fun d =>
    ends.contains d || d == .neutral || d == .attached

/-- The label keeps one direction: it begins with a letter and ends with a letter of its direction or a
digit, and it does not mix two kinds of digits. -/
def keepsDirection (label : List Char) : Bool :=
  match label.map Text.direction with
  | [] => true
  | first :: rest =>
    let body := (rest.reverse.dropWhile (· == .attached)).reverse
    match first with
    | .right => endsIn [.right, .european] body
    | .left => endsIn [.left, .european, .arabic] body &&
      !(body.contains .european && body.contains .arabic)
    | _ => false

/-! ### Labels -/

/-- The marker of an encoded label. -/
def marker : List Char := ['x', 'n', '-', '-']

/-- The longest text that is written in encoded form. -/
def longestText : Nat := 1000

/-- The longest encoded form that is read. -/
def longestDigits : Nat := 2000

/-- The text that an encoded label stands for, which has to be folded already. -/
def decodeLabel? (digits : List Char) : Option (List Char) :=
  if digits.all isAscii ∧ digits.length ≤ longestDigits ∧ digits ≠ [] ∧ digits.getLast? ≠ some '-' then
    ((Punycode.decode? digits).map (·.map Char.ofNat)).filter isFolded
  else none

/-- A label may stand in a domain. -/
def labelFits (label : List Char) : Bool :=
  label.all (!isForbidden ·) && !label.head?.any Text.isMark && joinersFit [] label &&
    (label.all isAscii || label.length ≤ longestText)

/-- The text of a label in folded form, which may be given in encoded form. -/
def readLabel? (folded : List Char) : Option (List Char) :=
  (if marker.isPrefixOf folded then decodeLabel? (folded.drop marker.length) else some folded).filter
    labelFits

/-- A label in ASCII. -/
def asciiLabel (label : List Char) : List Char :=
  if label.all isAscii then label else marker ++ Punycode.encode (label.map Char.toNat)

end SessionRecovery.Url
