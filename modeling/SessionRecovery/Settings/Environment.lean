import SessionRecovery.Settings.Basic
import SessionRecovery.Text.Character
import SessionRecovery.Error

/-!
# Settings in the environment

Settings as variables. The address is required; a variable that is unset or is not text counts as
absent. A number may have blanks around it and a plus sign in front, and has to fit the width of its
setting; the first variable that is no such number is reported as it was written.
-/

namespace SessionRecovery

/-- The variables that are set, with their raw bytes, by their full names. -/
abbrev Environment := List (String × Bytes)

namespace Environment

/-- What the names of all variables begin with. -/
def namePrefix : String := "REST_CLIENT_"

/-- The text of a variable; nothing when it is unset or no text. -/
def text? (env : Environment) (name : String) : Option String :=
  ((env.find? (·.1 = name)).map (·.2)).bind Utf8.decode?

/-- The value of decimal digits, of which there has to be one. -/
def digitsValue? : List Char → Option Nat
  | [] => none
  | c :: cs =>
    (c :: cs).foldl (fun acc d =>
      acc.bind fun n => if d.isDigit then some (n * 10 + (d.toNat - '0'.toNat)) else none) (some 0)

/-- A number of a given width: digits, with a plus sign in front or none. -/
def number? (bits : Nat) (cs : List Char) : Option Nat :=
  let digits := match cs with
    | '+' :: rest => rest
    | other => other
  (digitsValue? digits).filter (· < Nat.pow 2 bits)

/-- The number in a variable. -/
def number (env : Environment) (name : String) (bits : Nat) : Except Error (Option Nat) :=
  match env.text? name with
  | none => .ok none
  | some raw =>
    match number? bits (Text.trimChars raw.toList) with
    | some n => .ok (some n)
    | none => .error (.config (name ++ " must be a number, got '" ++ raw ++ "'"))

/-- The variable of the address. -/
def baseUrlName : String := namePrefix ++ "BASE_URL"

/-- The variable of the client's name. -/
def userAgentName : String := namePrefix ++ "USER_AGENT"

/-- The variable of the time limit. -/
def timeoutSecondsName : String := namePrefix ++ "TIMEOUT_SECS"

/-- The variable of the limit of anti-forgery tokens. -/
def csrfRefreshesName : String := namePrefix ++ "MAX_CSRF_REFRESHES"

/-- The variable of the limit of logins. -/
def loginsName : String := namePrefix ++ "MAX_LOGINS"

/-- The variable of the limit of exchanges. -/
def tokenRefreshesName : String := namePrefix ++ "MAX_TOKEN_REFRESHES"

end Environment

/-- The settings in the environment. -/
def Settings.ofEnvironment (env : Environment) : Except Error Settings := do
  let some address := env.text? Environment.baseUrlName
    | .error (.config ("Missing " ++ Environment.baseUrlName ++ " env var"))
  let timeout ← env.number Environment.timeoutSecondsName 64
  let csrf ← env.number Environment.csrfRefreshesName 8
  let logins ← env.number Environment.loginsName 8
  let refreshes ← env.number Environment.tokenRefreshesName 8
  let limits := RecoveryLimits.standard
  .ok { Settings.new address with
    userAgent := env.text? Environment.userAgentName
    timeoutSeconds := timeout
    recovery :=
      ⟨(csrf.map Nat.toUInt8).getD limits.csrfRefreshes,
        (logins.map Nat.toUInt8).getD limits.logins,
        (refreshes.map Nat.toUInt8).getD limits.tokenRefreshes⟩ }

end SessionRecovery
