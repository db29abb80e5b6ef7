import SessionRecovery.Settings.Environment
import SessionRecovery.Proofs.Run
import SessionRecovery.Proofs.Settings.BaseUrl
import SessionRecovery.Proofs.Text.Utf8

/-!
# Settings from variables

Settings are read from an environment when the address is there and each of the four variables for numbers is
either absent or a number of its width. Every variable changes its own setting, and all else is as for the
address alone. The first of the four that is anything else is reported, as it was written.
-/

namespace SessionRecovery

namespace Environment

open Text

variable {env : Environment} {name text : String} {bits n : Nat}

/-! ## Variables -/

/-- A variable is set to a text: the first entry of its name has the bytes of the text. -/
def Holds (env : Environment) (name text : String) : Prop :=
  ∃ earlier later, env = earlier ++ (name, Utf8.encode text) :: later ∧ ∀ v ∈ earlier, v.1 ≠ name

/-- What is read of a variable is the text that it is set to. -/
theorem text?_eq_some_iff : env.text? name = some text ↔ env.Holds name text := by
  simp only [text?, Option.bind_eq_some_iff, Option.map_eq_some_iff, Utf8.decode?_eq_some_iff]
  constructor
  · rintro ⟨bytes, ⟨⟨found, raw⟩, hfind, rfl⟩, rfl⟩
    obtain ⟨hname, earlier, later, henv, hearlier⟩ := List.find?_eq_some_iff_append.mp hfind
    obtain rfl : found = name := of_decide_eq_true hname
    exact ⟨earlier, later, henv, fun v hv => by simpa using hearlier v hv⟩
  · rintro ⟨earlier, later, rfl, hearlier⟩
    refine ⟨_, ⟨(name, Utf8.encode text), List.find?_eq_some_iff_append.mpr ⟨?_, ?_⟩, rfl⟩, rfl⟩
    · exact decide_eq_true rfl
    · exact ⟨earlier, later, rfl, fun v hv => by simpa using hearlier v hv⟩

/-- Nothing is read of a variable just when it is set to no text. -/
theorem text?_eq_none_iff : env.text? name = none ↔ ∀ text, ¬ env.Holds name text := by
  simp only [Option.eq_none_iff_forall_ne_some, ne_eq, text?_eq_some_iff]

/-! ## Numbers -/

/-- Digits, of which there is one, write a number. -/
structure IsNumeral (digits : List Char) (n : Nat) : Prop where
  /-- There is a digit. -/
  ne_nil : digits ≠ []
  /-- There are only digits. -/
  isDigit : ∀ c ∈ digits, c.isDigit = true
  /-- They have the value of the number. -/
  value : Nat.ofDigitChars 10 digits 0 = n

/-- A text writes a number: blanks, perhaps a plus sign, digits, and blanks. -/
def Writes (text : String) (n : Nat) : Prop :=
  ∃ before sign digits after, text.toList = before ++ (sign ++ digits) ++ after ∧
    (∀ c ∈ before, isBlank c = true) ∧ (sign = [] ∨ sign = ['+']) ∧ IsNumeral digits n ∧
    ∀ c ∈ after, isBlank c = true

/-- Digits are added to the number read so far, up to the first character that is none. -/
theorem foldl_digits_eq_some_iff {cs : List Char} {start : Nat} :
    cs.foldl (fun acc d => acc.bind fun n =>
      if d.isDigit then some (n * 10 + (d.toNat - '0'.toNat)) else none) (some start) = some n ↔
      (∀ c ∈ cs, c.isDigit = true) ∧ Nat.ofDigitChars 10 cs start = n := by
  have hnone (cs : List Char) : cs.foldl (fun acc d => acc.bind fun n =>
      if d.isDigit then some (n * 10 + (d.toNat - '0'.toNat)) else none) (none : Option Nat) = none := by
    induction cs with
    | nil => rfl
    | cons c cs ih => exact ih
  induction cs generalizing start with
  | nil => simp
  | cons c cs ih =>
    rw [List.foldl_cons, Option.bind_some, List.forall_mem_cons]
    by_cases hc : c.isDigit = true
    · rw [if_pos hc, and_iff_right hc, Nat.ofDigitChars_cons, Nat.mul_comm 10 start]
      exact ih
    · rw [if_neg hc, hnone]
      simp [hc]

/-- The value of digits is read when there are only digits, and one at least. -/
theorem digitsValue?_eq_some_iff {cs : List Char} : digitsValue? cs = some n ↔ IsNumeral cs n := by
  cases cs with
  | nil => exact ⟨fun h => (nomatch h), fun h => absurd rfl h.ne_nil⟩
  | cons c cs =>
    rw [digitsValue?, foldl_digits_eq_some_iff]
    exact ⟨fun ⟨hdigits, hvalue⟩ => ⟨List.cons_ne_nil c cs, hdigits, hvalue⟩,
      fun h => ⟨h.isDigit, h.value⟩⟩

/-- A number is read of digits that fit the width, behind a plus sign or without one. -/
theorem number?_eq_some_iff {cs : List Char} : number? bits cs = some n ↔
    (∃ sign digits, cs = sign ++ digits ∧ (sign = [] ∨ sign = ['+']) ∧ IsNumeral digits n) ∧
      n < Nat.pow 2 bits := by
  have hplus : ∀ rest, ¬ IsNumeral ('+' :: rest) n := fun rest h =>
    absurd (h.isDigit '+' List.mem_cons_self) (by decide)
  simp only [number?, Option.filter_eq_some_iff, digitsValue?_eq_some_iff, decide_eq_true_eq]
  refine and_congr_left' ?_
  split
  · next rest =>
    constructor
    · exact fun h => ⟨['+'], rest, rfl, .inr rfl, h⟩
    · rintro ⟨sign, digits, hcs, rfl | rfl, h⟩
      · exact absurd (hcs ▸ h) (hplus rest)
      · cases hcs
        exact h
  · next hsign =>
    constructor
    · exact fun h => ⟨[], _, rfl, .inl rfl, h⟩
    · rintro ⟨sign, digits, rfl, rfl | rfl, h⟩
      · exact h
      · exact absurd rfl (hsign digits)

/-- A digit is no blank. -/
theorem isBlank_of_isDigit {c : Char} (h : c.isDigit = true) : isBlank c = false := by
  have hcode := Char.isDigit_iff_toNat.mp h
  have hzero : '0'.toNat = 0x30 := rfl
  have hnine : '9'.toNat = 0x39 := rfl
  simp only [isBlank, Bool.or_eq_false_iff, Bool.and_eq_false_iff, decide_eq_false_iff_not,
    beq_eq_false_iff_ne, ne_eq]
  omega

/-- A number is read of a text, without the blanks around it, just when the text writes it. -/
theorem exists_signed_trimChars_iff : (∃ sign digits, trimChars text.toList = sign ++ digits ∧
    (sign = [] ∨ sign = ['+']) ∧ IsNumeral digits n) ↔ Writes text n := by
  constructor
  · rintro ⟨sign, digits, htrim, hsign, hdigits⟩
    obtain ⟨⟨before, after, htext, hbefore, hafter⟩, -, -⟩ := trimChars_eq_iff.mp htrim
    exact ⟨before, sign, digits, after, htext, hbefore, hsign, hdigits, hafter⟩
  · rintro ⟨before, sign, digits, after, htext, hbefore, hsign, hdigits, hafter⟩
    -- neither a sign nor a digit is a blank, so just the blanks around them are dropped
    have hsolid : ∀ c ∈ sign ++ digits, isBlank c = false := by
      intro c hc
      rcases List.mem_append.mp hc with hc | hc
      · rcases hsign with rfl | rfl
        · exact absurd hc List.not_mem_nil
        · rw [List.mem_singleton.mp hc]
          rfl
      · exact isBlank_of_isDigit (hdigits.isDigit c hc)
    refine ⟨sign, digits, trimChars_eq_iff.mpr ⟨⟨before, after, htext, hbefore, hafter⟩, ?_, ?_⟩,
      hsign, hdigits⟩
    · exact fun c hc => hsolid c (List.mem_of_head? hc)
    · exact fun c hc => hsolid c (List.mem_of_getLast? hc)

/-- What a variable of some width in bits yields: the number that its text writes, or nothing when it is set to
no text. -/
def Yields (env : Environment) (name : String) (bits : Nat) : Option Nat → Prop
  | some n => ∃ text, env.Holds name text ∧ Writes text n ∧ n < Nat.pow 2 bits
  | none => ∀ text, ¬ env.Holds name text

/-- A variable is set to a text that writes no number of its width. -/
def Misstates (env : Environment) (name : String) (bits : Nat) (text : String) : Prop :=
  env.Holds name text ∧ ∀ n, Writes text n → Nat.pow 2 bits ≤ n

/-- The error of a variable whose text is no number. -/
def misstated (name text : String) : Error :=
  .config (name ++ " must be a number, got '" ++ text ++ "'")

/-- The number in a variable that is set to a text is the one that the text writes. -/
theorem number_of_holds (h : env.Holds name text) :
    (∀ n, env.number name bits = .ok (some n) ↔ Writes text n ∧ n < Nat.pow 2 bits) ∧
      ((∀ n, Writes text n → Nat.pow 2 bits ≤ n) → env.number name bits = .error (misstated name text)) := by
  have hread {n : Nat} :
      number? bits (trimChars text.toList) = some n ↔ Writes text n ∧ n < Nat.pow 2 bits := by
    rw [number?_eq_some_iff, exists_signed_trimChars_iff]
  rw [number, text?_eq_some_iff.mpr h]
  dsimp only
  cases hnumber : number? bits (trimChars text.toList) with
  | none =>
    refine ⟨fun n => ?_, fun _ => rfl⟩
    rw [← hread, hnumber]
    simp
  | some m =>
    refine ⟨fun n => ?_, fun hno => ?_⟩
    · rw [← hread, hnumber]
      simp
    · obtain ⟨hm, hlt⟩ := hread.mp hnumber
      exact absurd hlt (Nat.not_lt.mpr (hno m hm))

/-- A variable is set to a text that writes a number of its width, to one that does not, or to none. -/
theorem number_eq_ok_iff {x : Option Nat} : env.number name bits = .ok x ↔ env.Yields name bits x := by
  cases htext : env.text? name with
  | none =>
    have hunset := text?_eq_none_iff.mp htext
    have hnumber : env.number name bits = .ok none := by rw [number, htext]
    rw [hnumber]
    cases x with
    | none => exact iff_of_true rfl hunset
    | some n => exact iff_of_false (by simp) fun ⟨text, hholds, _⟩ => hunset text hholds
  | some text =>
    have hholds := text?_eq_some_iff.mp htext
    have hunique {other : String} (h : env.Holds name other) : other = text :=
      Option.some.inj ((text?_eq_some_iff.mpr h).symm.trans htext)
    cases x with
    | none =>
      refine iff_of_false ?_ fun hunset => hunset text hholds
      rw [number, htext]
      dsimp only
      split <;> simp
    | some n =>
      rw [(number_of_holds hholds).1 n]
      exact ⟨fun h => ⟨text, hholds, h⟩, fun ⟨other, hother, h⟩ => hunique hother ▸ h⟩

/-- The variable that is reported is set to a text that writes no number of its width. -/
theorem number_eq_error_iff {e : Error} :
    env.number name bits = .error e ↔ ∃ text, env.Misstates name bits text ∧ e = misstated name text := by
  constructor
  · intro h
    cases htext : env.text? name with
    | none =>
      rw [number, htext] at h
      nomatch h
    | some text =>
      have hholds := text?_eq_some_iff.mp htext
      have hno : ∀ n, Writes text n → Nat.pow 2 bits ≤ n := by
        intro n hwrites
        refine Nat.not_lt.mp fun hlt => ?_
        rw [((number_of_holds hholds).1 n).mpr ⟨hwrites, hlt⟩] at h
        nomatch h
      refine ⟨text, ⟨hholds, hno⟩, ?_⟩
      rw [(number_of_holds hholds).2 hno] at h
      exact (Except.error.inj h).symm
  · rintro ⟨text, ⟨hholds, hno⟩, rfl⟩
    exact (number_of_holds hholds).2 hno

/-! ## Settings -/

/-- The variables for numbers and their widths in bits, in the order in which they are read. -/
def numerals : List (String × Nat) :=
  [(timeoutSecondsName, 64), (csrfRefreshesName, 8), (loginsName, 8), (tokenRefreshesName, 8)]

/-- A limit is the number in its variable, or the default one. -/
def Caps (env : Environment) (name : String) (default cap : UInt8) : Prop :=
  ∃ x, env.Yields name 8 x ∧ cap.toNat = x.getD default.toNat

/-- Every variable says its own setting, and all else is as for the address alone. -/
structure Sets (env : Environment) (address : String) (s : Settings) : Prop where
  /-- What the client calls itself is said by a variable or not at all. -/
  userAgent : ∀ text, s.userAgent = some text ↔ env.Holds userAgentName text
  /-- So is the time limit. -/
  timeoutSeconds : env.Yields timeoutSecondsName 64 s.timeoutSeconds
  /-- Each limit has a variable and a default. -/
  csrfRefreshes : env.Caps csrfRefreshesName RecoveryLimits.standard.csrfRefreshes s.recovery.csrfRefreshes
  /-- Logins are limited like anti-forgery tokens. -/
  logins : env.Caps loginsName RecoveryLimits.standard.logins s.recovery.logins
  /-- Exchanges are limited like logins. -/
  tokenRefreshes :
    env.Caps tokenRefreshesName RecoveryLimits.standard.tokenRefreshes s.recovery.tokenRefreshes
  /-- No variable says any other setting. -/
  others : { s with userAgent := none, timeoutSeconds := none, recovery := .standard } = Settings.new address

/-- The error without an address. -/
def missing : Error := .config ("Missing " ++ baseUrlName ++ " env var")

/-- An error reports the first variable whose text is no number of its width. -/
def Reports (env : Environment) (e : Error) : Prop :=
  FirstIn (fun v => ∃ text, env.Misstates v.1 v.2 text ∧ e = misstated v.1 text)
    (fun v => ∃ x, env.Yields v.1 v.2 x) numerals

/-- The limit that a number in eight bits stands for. -/
theorem caps_iff {default cap : UInt8} : env.Caps name default cap ↔
    ∃ x, env.Yields name 8 x ∧ cap = (x.map Nat.toUInt8).getD default := by
  refine exists_congr fun x => and_congr_right fun hx => ?_
  cases x with
  | none => exact UInt8.toNat_inj
  | some n =>
    obtain ⟨text, -, -, hlt⟩ := hx
    have hvalue : n.toUInt8.toNat = n := Nat.mod_eq_of_lt hlt
    rw [Option.map_some, Option.getD_some, Option.getD_some, ← UInt8.toNat_inj, hvalue]

end Environment

namespace Settings

open Environment

variable {env : Environment} {address : String} {s : Settings} {e : Error}

/-- With an address, settings are read when each variable for a number yields one or nothing. -/
theorem ofEnvironment_eq_ok_iff (h : env.Holds baseUrlName address) :
    ofEnvironment env = .ok s ↔ env.Sets address s := by
  simp only [ofEnvironment, text?_eq_some_iff.mpr h, bind_eq_ok_iff, number_eq_ok_iff, Except.ok.injEq]
  constructor
  · rintro ⟨timeout, htimeout, csrf, hcsrf, logins, hlogins, refreshes, hrefreshes, rfl⟩
    exact ⟨fun text => text?_eq_some_iff, htimeout, caps_iff.mpr ⟨csrf, hcsrf, rfl⟩,
      caps_iff.mpr ⟨logins, hlogins, rfl⟩, caps_iff.mpr ⟨refreshes, hrefreshes, rfl⟩, rfl⟩
  · intro hs
    obtain ⟨csrf, hcsrf, hcsrfs⟩ := caps_iff.mp hs.csrfRefreshes
    obtain ⟨logins, hlogins, hloginss⟩ := caps_iff.mp hs.logins
    obtain ⟨refreshes, hrefreshes, hrefreshess⟩ := caps_iff.mp hs.tokenRefreshes
    refine ⟨_, hs.timeoutSeconds, csrf, hcsrf, logins, hlogins, refreshes, hrefreshes, ?_⟩
    have hagent : env.text? userAgentName = s.userAgent :=
      Option.ext fun text => text?_eq_some_iff.trans (hs.userAgent text).symm
    rw [← hs.others, hagent, ← hcsrfs, ← hloginss, ← hrefreshess]

/-- With an address, an error reports the first variable for a number that has none. -/
theorem ofEnvironment_eq_error_iff (h : env.Holds baseUrlName address) :
    ofEnvironment env = .error e ↔ env.Reports e := by
  simp only [ofEnvironment, text?_eq_some_iff.mpr h, bind_eq_error_iff, number_eq_ok_iff,
    number_eq_error_iff, Reports, numerals, firstIn_cons_iff, firstIn_nil, reduceCtorEq, and_false,
    exists_const, or_false, exists_and_right]

/-- Without an address, this is what is reported. -/
theorem ofEnvironment_eq_missing (h : ∀ address, ¬ env.Holds baseUrlName address) :
    ofEnvironment env = .error missing := by
  simp only [ofEnvironment, text?_eq_none_iff.mpr h]
  rfl

/-- A report names its variable first, so it is not that of an address which is not there. -/
theorem not_reports_missing : ¬ env.Reports missing := by
  have hname : ∀ v ∈ numerals, ∃ rest, v.1 = namePrefix ++ rest := by
    simp [numerals, timeoutSecondsName, csrfRefreshesName, loginsName, tokenRefreshesName]
  rintro ⟨earlier, v, later, hsplit, ⟨text, -, he⟩, -⟩
  obtain ⟨rest, hrest⟩ := hname v (hsplit ▸ List.mem_append_right earlier List.mem_cons_self)
  have hletters := congrArg String.toList (Error.config.inj he)
  simp [hrest, namePrefix, String.toList_append] at hletters

/-- Settings are read from an environment just when the address is there and each variable for a number yields
one of its width or nothing, and then every variable says its own setting. Otherwise the address is missing, or
the first variable that yields neither is reported with its text. -/
theorem ofEnvironment_exactly (env : Environment) :
    (∀ s, ofEnvironment env = .ok s ↔ ∃ address, env.Holds baseUrlName address ∧ env.Sets address s) ∧
      (∀ e, ofEnvironment env = .error e ↔ (∀ address, ¬ env.Holds baseUrlName address) ∧ e = missing ∨
        (∃ address, env.Holds baseUrlName address) ∧ env.Reports e) ∧
      (ofEnvironment env = .error missing ↔ ∀ address, ¬ env.Holds baseUrlName address) := by
  by_cases haddress : ∃ address, env.Holds baseUrlName address
  · obtain ⟨address, h⟩ := haddress
    have hset : ¬ ∀ address, ¬ env.Holds baseUrlName address := fun hunset => hunset address h
    have hunique {other : String} (hother : env.Holds baseUrlName other) : other = address :=
      Option.some.inj ((text?_eq_some_iff.mpr hother).symm.trans (text?_eq_some_iff.mpr h))
    refine ⟨fun s => ?_, fun e => ?_, ?_⟩
    · rw [ofEnvironment_eq_ok_iff h]
      exact ⟨fun hs => ⟨address, h, hs⟩, fun ⟨other, hother, hs⟩ => hunique hother ▸ hs⟩
    · rw [ofEnvironment_eq_error_iff h]
      exact ⟨fun he => .inr ⟨⟨address, h⟩, he⟩, fun he => he.elim (fun h' => absurd h'.1 hset) And.right⟩
    · rw [ofEnvironment_eq_error_iff h]
      exact iff_of_false not_reports_missing hset
  · have hunset := not_exists.mp haddress
    rw [ofEnvironment_eq_missing hunset]
    refine ⟨fun s => ?_, fun e => ?_, iff_of_true rfl hunset⟩
    · exact iff_of_false (by simp) fun ⟨address, h, _⟩ => hunset address h
    · refine ⟨fun h => .inl ⟨hunset, (Except.error.inj h).symm⟩, ?_⟩
      rintro (⟨-, rfl⟩ | ⟨h, -⟩)
      · rfl
      · exact absurd h haddress

end Settings

end SessionRecovery
