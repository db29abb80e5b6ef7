import SessionRecovery.Bytes
import SessionRecovery.Decimal

/-!
# JSON values

The tree of a JSON text. Objects keep their members as they were written; the normal form, which
lists each name once in ascending order, is a separate function. Integers that fit a 64-bit word,
signed or unsigned, are kept exactly and every other number is a binary64 value.
-/

namespace SessionRecovery

/-- An integer that fits a 64-bit word, signed or unsigned. -/
structure Word64 where
  /-- The integer. -/
  val : Int
  /-- Not below the signed range. -/
  lower : -0x8000000000000000 ≤ val
  /-- Not above the unsigned range. -/
  upper : val < 0x10000000000000000
  deriving DecidableEq

/-- An integer as a word, if it fits. -/
def Word64.ofInt? (i : Int) : Option Word64 :=
  if h : -0x8000000000000000 ≤ i ∧ i < 0x10000000000000000 then some ⟨i, h.1, h.2⟩ else none

/-- A number of a JSON text. -/
inductive Number where
  /-- An integer that fits a word. -/
  | int (i : Word64)
  /-- Any other number. -/
  | float (x : Float)
  deriving DecidableEq

/-- A JSON value. -/
inductive Json where
  /-- The null value. -/
  | null
  /-- A truth value. -/
  | bool (b : Bool)
  /-- A number. -/
  | num (n : Number)
  /-- A text. -/
  | str (s : String)
  /-- An array of values. -/
  | arr (items : List Json)
  /-- An object: names and values in the order in which they were written. -/
  | obj (members : List (String × Json))

namespace Json

/-- The small integer of a natural number, and null beyond a word. -/
def ofNat (n : Nat) : Json :=
  match Word64.ofInt? n with
  | some w => .num (.int w)
  | none => .null

/-- The value of the last member of a name. -/
def lookup? (members : List (String × Json)) (name : String) : Option Json :=
  (members.reverse.find? (·.1 = name)).map (·.2)

/-- The member of an object; other values have none. -/
def get? (j : Json) (name : String) : Option Json :=
  match j with
  | .obj members => lookup? members name
  | _ => none

mutual
/-- The number of arrays and objects around the deepest place of the value. -/
def depth : Json → Nat
  | .arr items => depthItems items + 1
  | .obj members => depthMembers members + 1
  | _ => 0
termination_by structural j => j

/-- The depth of the deepest item. -/
def depthItems : List Json → Nat
  | [] => 0
  | j :: rest => max j.depth (depthItems rest)
termination_by structural js => js

/-- The depth of the deepest member. -/
def depthMembers : List (String × Json) → Nat
  | [] => 0
  | m :: rest => max (depthMember m) (depthMembers rest)
termination_by structural ms => ms

/-- The depth of a member's value. -/
def depthMember : String × Json → Nat
  | (_, j) => j.depth
termination_by structural m => m
end

end Json

/-! ## Writing JSON

The compact text of a value: no blanks, members in the order of the value, and in texts only the
quote, the backslash and the controls below the space are escaped. -/

/-- Floating-point numbers are positional from 0.00001 up to sixteen digits before the point, integral
ones end in a point and a zero, and exponents carry their sign. -/
def Number.floatNotation : Decimal.Notation :=
  ⟨16, -5, ['.', '0'], ['e', '+'], ['e', '-']⟩

/-- The text of an integer. -/
def Number.intChars (i : Int) : List Char :=
  if i < 0 then '-' :: Decimal.natChars i.natAbs else Decimal.natChars i.natAbs

/-- The text of a floating-point number; values that are not finite have none and are written as the
null value. -/
def Number.floatChars (x : Float) : List Char :=
  if x.isFinite then
    (if Decimal.isNegative x then ['-'] else []) ++
      Number.floatNotation.render (Decimal.ofFloat x)
  else ['n', 'u', 'l', 'l']

/-- The text of a number. -/
def Number.chars : Number → List Char
  | .int w => Number.intChars w.val
  | .float x => Number.floatChars x

namespace Json

/-- One character between the quotes of a text. -/
def charText (c : Char) : List Char :=
  if c = '"' then ['\\', '"']
  else if c = '\\' then ['\\', '\\']
  else if c = '\x08' then ['\\', 'b']
  else if c = '\x0c' then ['\\', 'f']
  else if c = '\n' then ['\\', 'n']
  else if c = '\r' then ['\\', 'r']
  else if c = '\t' then ['\\', 't']
  else if c.toNat < 0x20 then
    ['\\', 'u', '0', '0', Bytes.hexDigit (c.toNat / 16), Bytes.hexDigit (c.toNat % 16)]
  else [c]

/-- A text between quotes. -/
def textChars (s : String) : List Char := '"' :: s.toList.flatMap charText ++ ['"']

mutual
/-- The compact text of a value. -/
def chars : Json → List Char
  | .null => ['n', 'u', 'l', 'l']
  | .bool true => ['t', 'r', 'u', 'e']
  | .bool false => ['f', 'a', 'l', 's', 'e']
  | .num n => n.chars
  | .str s => textChars s
  | .arr [] => ['[', ']']
  | .arr (j :: rest) => '[' :: j.chars ++ itemsTail rest
  | .obj [] => ['\x7b', '\x7d']
  | .obj (m :: rest) => '\x7b' :: memberChars m ++ membersTail rest
termination_by structural j => j

/-- The text from the end of an item to the end of its array. -/
def itemsTail : List Json → List Char
  | [] => [']']
  | j :: rest => ',' :: j.chars ++ itemsTail rest
termination_by structural js => js

/-- The text from the end of a member to the end of its object. -/
def membersTail : List (String × Json) → List Char
  | [] => ['\x7d']
  | m :: rest => ',' :: memberChars m ++ membersTail rest
termination_by structural ms => ms

/-- The text of a member. -/
def memberChars : String × Json → List Char
  | (name, j) => textChars name ++ ':' :: j.chars
termination_by structural m => m
end

/-- The compact text of a value. -/
def render (j : Json) : String := String.ofList j.chars

/-- The bytes of the compact text of a value. -/
def bytes (j : Json) : Bytes := Utf8.encodeChars j.chars

theorem encode_render (j : Json) : Utf8.encode j.render = j.bytes := by
  rw [Utf8.encode, render, String.toList_ofList, bytes]

end Json

end SessionRecovery
