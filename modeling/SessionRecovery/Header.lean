import SessionRecovery.Bytes

/-!
# Headers

The names and values of headers, and the headers of a message.
-/

/-! ## Header names and values

A header name is a token without letter case, so two spellings that differ only in case are one name.
A header value is a sequence of bytes without controls. Which values can be read as text, and which
text can be sent as a value, are two different rules. -/

namespace SessionRecovery.Header

/-- A header name, in lower case. -/
structure Name where
  /-- The name. -/
  text : String
  deriving DecidableEq

/-- The characters of a token. -/
def isTokenChar (c : Char) : Bool :=
  c.isAlphanum || c == '!' || c == '#' || c == '$' || c == '%' || c == '&' || c == '\'' ||
    c == '*' || c == '+' || c == '-' || c == '.' || c == '^' || c == '_' || c == '\x60' ||
    c == '|' || c == '~'

/-- The greatest length of a name. -/
def longestName : Nat := 65535

/-- The name that a text spells, in any letter case. -/
def Name.parse? (s : String) : Option Name :=
  if s ≠ "" ∧ s.toList.all isTokenChar ∧ s.toList.length ≤ longestName then
    some ⟨String.ofList (s.toList.map Char.toLower)⟩
  else none

/-- The order of names, by code points. -/
def Name.le (m n : Name) : Bool := !(n.text < m.text)

/-- A byte that may stand in a value: no control but the tab. -/
def isValueByte (b : UInt8) : Bool := (0x20 ≤ b && b != 0x7F) || b == 0x09

/-- A byte that can be read as text: visible ASCII, the space or the tab. -/
def isTextByte (b : UInt8) : Bool := (0x20 ≤ b && b < 0x7F) || b == 0x09

/-- The value that sends a text, if it has no control. -/
def value? (s : String) : Option Bytes :=
  let bs := Utf8.encode s
  if bs.all isValueByte then some bs else none

/-- The text of a value that is readable throughout. -/
def text? (v : Bytes) : Option String :=
  if v.all isTextByte then some (String.ofList (v.map fun b => Char.ofNat b.toNat)) else none

/-- Why a header cannot be sent. -/
inductive Fault where
  /-- The text is no header name. -/
  | name (text : String)
  /-- The text cannot be sent as a value. -/
  | value
  deriving DecidableEq

/-- The words of a fault. -/
def Fault.message : Fault → String
  | .name text => "invalid header name '" ++ text ++ "': invalid HTTP header name"
  | .value => "invalid header value: failed to parse header value"

/-! ## Header fields

The headers of a message: values under names, where a name may carry several values. Setting a name
replaces all its values, and a lookup gives the first one. -/

/-- Values under names; the values of one name keep their order. -/
abbrev Fields := List (Name × Bytes)

namespace Fields

/-- Makes a value the only one under a name. -/
def set (fields : Fields) (name : Name) (value : Bytes) : Fields :=
  fields.filter (·.1 ≠ name) ++ [(name, value)]

/-- The first value under a name. -/
def get? (fields : Fields) (name : Name) : Option Bytes :=
  (fields.find? (·.1 = name)).map (·.2)

/-- The values under a name, in order. -/
def values (fields : Fields) (name : Name) : List Bytes :=
  (fields.filter (·.1 = name)).map (·.2)

/-- The first value under the name that a text spells, as readable text. -/
def text? (fields : Fields) (name : String) : Option String :=
  ((Name.parse? name).bind fields.get?).bind Header.text?

/-- As `text?`, but an empty text counts as absent. -/
def nonEmptyText? (fields : Fields) (name : String) : Option String :=
  (fields.text? name).filter (· ≠ "")

/-- The fields in the order of their names. -/
def sorted (fields : Fields) : Fields := fields.mergeSort fun f g => f.1.le g.1

/-- The first value under a name is the first of all that are there. -/
theorem get?_eq_head? (fields : Fields) (name : Name) :
    fields.get? name = (fields.values name).head? := by
  rw [get?, values, List.head?_map, List.head?_filter]

/-- The only value under a name is the one just set. -/
theorem values_set (fields : Fields) (name : Name) (value : Bytes) :
    (fields.set name value).values name = [value] := by
  simp [set, values, List.filter_filter]

/-- Setting a name changes no other one. -/
theorem values_set_of_ne (fields : Fields) {name other : Name} (value : Bytes)
    (h : other ≠ name) : (fields.set name value).values other = fields.values other := by
  have h' : ¬ name = other := fun e => h e.symm
  simp only [set, values, List.filter_append, List.filter_filter]
  simp only [List.filter_cons, h', decide_false, List.filter_nil, Bool.false_eq_true, if_false,
    List.append_nil]
  congr 1
  refine List.filter_congr fun f _ => ?_
  by_cases hf : f.1 = other <;> simp [hf, h]

end Fields

end SessionRecovery.Header
