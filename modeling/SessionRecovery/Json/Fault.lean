import SessionRecovery.Json.Basic
import SessionRecovery.Text.Character

/-!
# Faults of JSON texts

Every cause for which a text is refused: the text is not JSON, or it is JSON of another shape than
the reader asked for. The wording of each cause is in one function.
-/

namespace SessionRecovery.Json

/-- What stands where something else was asked for. -/
inductive Found where
  /-- The null value. -/
  | null
  /-- A truth value. -/
  | bool (b : Bool)
  /-- A number. -/
  | num (n : Number)
  /-- A text. -/
  | str (s : String)
  /-- An array. -/
  | array
  /-- An object. -/
  | object
  deriving DecidableEq

/-- What a value is, seen from outside. -/
def found : Json → Found
  | .null => .null
  | .bool b => .bool b
  | .num n => .num n
  | .str s => .str s
  | .arr _ => .array
  | .obj _ => .object

/-- A text between backticks. -/
def ticked (s : String) : String := "`" ++ s ++ "`"

/-- The words for what was found. -/
def Found.text : Found → String
  | .null => "null"
  | .bool b => "boolean " ++ ticked (if b then "true" else "false")
  | .num (.int w) => "integer " ++ ticked (String.ofList (Number.intChars w.val))
  | .num (.float x) => "floating point " ++ ticked (String.ofList (Number.floatChars x))
  | .str s => "string " ++ Text.quoted s
  | .array => "sequence"
  | .object => "map"

/-- Why a text was refused. -/
inductive Fault where
  /-- The text ends inside an array. -/
  | endInArray
  /-- The text ends inside an object. -/
  | endInObject
  /-- The text ends inside a quoted text. -/
  | endInText
  /-- The text ends where a value has to stand. -/
  | endInValue
  /-- No colon after the name of a member. -/
  | colon
  /-- Neither a comma nor the end of the array after an item. -/
  | commaOrEndOfArray
  /-- Neither a comma nor the end of the object after a member. -/
  | commaOrEndOfObject
  /-- A word that begins like a literal and is none. -/
  | ident
  /-- No value begins here. -/
  | value
  /-- An unknown escape. -/
  | escape
  /-- A number that is not written as one. -/
  | number
  /-- A number beyond the range of binary64. -/
  | range
  /-- A quoted text whose bytes are not UTF-8. -/
  | codePoint
  /-- A control character inside a quoted text. -/
  | control
  /-- A member whose name is not a quoted text. -/
  | name
  /-- One half of a surrogate pair alone. -/
  | loneSurrogate
  /-- A high surrogate without an escape after it. -/
  | hexEnd
  /-- A comma before the end of an array or object. -/
  | trailingComma
  /-- Anything after the end. -/
  | trailing
  /-- Nesting deeper than allowed. -/
  | nesting
  /-- A value of another type than the one asked for. -/
  | type (found : Found) (expected : String)
  /-- A value of the right type outside its range. -/
  | outside (found : Found) (expected : String)
  /-- An array of another length. -/
  | length (count : Nat) (expected : String)
  /-- A word that is none of the known ones. -/
  | variant (word : String) (known : List String)
  /-- A required member that is absent. -/
  | missing (name : String)
  /-- A known member that occurs twice. -/
  | duplicate (name : String)
  deriving DecidableEq

/-- The words of a fault. -/
def Fault.message : Fault → String
  | .endInArray => "EOF while parsing a list"
  | .endInObject => "EOF while parsing an object"
  | .endInText => "EOF while parsing a string"
  | .endInValue => "EOF while parsing a value"
  | .colon => "expected `:`"
  | .commaOrEndOfArray => "expected `,` or `]`"
  | .commaOrEndOfObject => "expected `,` or `\x7d`"
  | .ident => "expected ident"
  | .value => "expected value"
  | .escape => "invalid escape"
  | .number => "invalid number"
  | .range => "number out of range"
  | .codePoint => "invalid unicode code point"
  | .control => "control character (\\u0000-\\u001F) found while parsing a string"
  | .name => "key must be a string"
  | .loneSurrogate => "lone leading surrogate in hex escape"
  | .hexEnd => "unexpected end of hex escape"
  | .trailingComma => "trailing comma"
  | .trailing => "trailing characters"
  | .nesting => "recursion limit exceeded"
  | .type f e => "invalid type: " ++ f.text ++ ", expected " ++ e
  | .outside f e => "invalid value: " ++ f.text ++ ", expected " ++ e
  | .length n e => "invalid length " ++ toString n ++ ", expected " ++ e
  | .variant w known =>
    "unknown variant " ++ ticked w ++ ", expected one of " ++ ", ".intercalate (known.map ticked)
  | .missing f => "missing field " ++ ticked f
  | .duplicate f => "duplicate field " ++ ticked f

end SessionRecovery.Json
