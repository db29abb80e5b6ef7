import SessionRecovery.Error
import SessionRecovery.Text.Character
import SessionRecovery.Digest

/-!
# Credentials

A login with its password, which is never shown, the proof that answers a login challenge, and a provider
that hands out credentials and keeps the refresh token between runs of a program.
-/

namespace SessionRecovery

/-- A login and its password. -/
structure Credentials where
  /-- The login name. -/
  login : String
  /-- The password. -/
  password : String
  deriving DecidableEq

/-- The credentials in a log, without the password. -/
def Credentials.shown (c : Credentials) : String :=
  "Credentials \x7b login: " ++ Text.quoted c.login ++ ", password: \"[REDACTED]\" \x7d"

/-- The proof of a password that is known to the server, for a salt that the server chose: the password's
tag under the salt, in Base64. -/
def passwordProof (password salt : String) : String :=
  String.ofList (Base64.encode (Hmac.tag (Utf8.encode salt) (Utf8.encode password)))

/-- What becomes of one request for credentials. -/
structure Provision where
  /-- The credentials, or why there are none. -/
  answer : Except Error Credentials
  /-- The caller gives up meanwhile. -/
  interrupts : Bool

/-- A holder of credentials and of the refresh token. Its answers are fixed in advance, one for each time
that it is asked, so every behaviour of a provider in one run is some sequence of them. -/
structure Provider where
  /-- What becomes of each request for credentials, counted from zero. -/
  provisions : Nat → Provision
  /-- How often credentials have been asked for. -/
  asked : Nat
  /-- The caller gives up while a refresh token is being saved, each time, counted from zero. -/
  savingInterrupts : Nat → Bool
  /-- How often a refresh token has been saved. -/
  saves : Nat
  /-- The refresh token as it was saved last. -/
  stored : Option String

namespace Provider

/-- A provider that meets every request for credentials in one way, and holds a refresh token or none. -/
def constant (provision : Provision) (stored : Option String) : Provider :=
  ⟨fun _ => provision, 0, fun _ => false, 0, stored⟩

/-- The answer of whoever holds credentials, or none. -/
def held : Option Credentials → Except Error Credentials
  | some c => .ok c
  | none => .error (.credentialsUnavailable "no credentials configured")

/-- A provider that keeps credentials, or none, and a refresh token in memory. -/
def inMemory (credentials : Option Credentials) (stored : Option String) : Provider :=
  constant ⟨held credentials, false⟩ stored

/-- What becomes of the next request for credentials, and the provider after it. -/
def ask (p : Provider) : Provision × Provider :=
  (p.provisions p.asked, { p with asked := p.asked + 1 })

/-- The refresh token to resume with; an empty one is none. -/
def refreshToken (p : Provider) : Option String := p.stored.filter (· ≠ "")

/-- Keeps a refresh token, and says whether the caller gives up meanwhile. -/
def save (p : Provider) (token : String) : Bool × Provider :=
  (p.savingInterrupts p.saves, { p with saves := p.saves + 1, stored := some token })

end Provider

end SessionRecovery
