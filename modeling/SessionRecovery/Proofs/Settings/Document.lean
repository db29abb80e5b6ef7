import SessionRecovery.Proofs.Json.Defaults
import SessionRecovery.Proofs.Json.Encoding
import SessionRecovery.Settings.Document

/-!
# Settings by name

A document sets exactly what it names. Whatever else it holds, and in whatever order, a setting has the value
that stands under its name, inside a section as well as outside, and every other one has its default. A document
without an address, with a name twice or with a limit that is none is refused.
-/

namespace SessionRecovery

open Json Json.Decoder

/-! ## Names of headers -/

namespace HeaderNames

/-- The members of a section of header names. -/
def memberNames : List String :=
  ["access_token", "refresh_token", "csrf_token", "login_name", "login_salt", "login_proof", "sms_code",
    "sms_token"]

/-- The names of headers with those that a section gives put in their place. -/
def overridden (d : HeaderNames) (ms : List (String × Tree)) : HeaderNames where
  accessToken := given Tree.text? d.accessToken "access_token" ms
  refreshToken := given Tree.text? d.refreshToken "refresh_token" ms
  csrfToken := given Tree.text? d.csrfToken "csrf_token" ms
  loginName := given Tree.text? d.loginName "login_name" ms
  loginSalt := given Tree.text? d.loginSalt "login_salt" ms
  loginProof := given Tree.text? d.loginProof "login_proof" ms
  smsCode := given Tree.text? d.smsCode "sms_code" ms
  smsToken := given Tree.text? d.smsToken "sms_token" ms

/-- Each name of a header is given at most once, and as a text. -/
def Fit (ms : List (String × Tree)) : Prop := ∀ name ∈ memberNames, Fits Tree.text? name ms

/-- The members that header names are read by. -/
def members : List (Member HeaderNames) :=
  [.text "access_token" fun s n => { n with accessToken := s },
   .text "refresh_token" fun s n => { n with refreshToken := s },
   .text "csrf_token" fun s n => { n with csrfToken := s },
   .text "login_name" fun s n => { n with loginName := s },
   .text "login_salt" fun s n => { n with loginSalt := s },
   .text "login_proof" fun s n => { n with loginProof := s },
   .text "sms_code" fun s n => { n with smsCode := s },
   .text "sms_token" fun s n => { n with smsToken := s }]

theorem putsOver : PutsOver members overridden where
  nil _ := rfl
  skip d t ms name hname := by
    simp only [namesOf, members, Member.text, List.map_cons, List.map_nil, Member.name_of, List.mem_cons,
      List.not_mem_nil, or_false, not_or] at hname
    simp only [overridden, given_cons_of_ne, hname, ne_eq, not_false_eq_true]
  put d ms m hm t g hg hnone := by
    simp only [members, Member.text, List.mem_cons, List.not_mem_nil, or_false] at hm
    obtain rfl | rfl | rfl | rfl | rfl | rfl | rfl | rfl := hm <;>
    · obtain ⟨s, hs, rfl⟩ := Option.map_eq_some_iff.mp hg
      rw [Member.name_of] at hnone
      simp [overridden, given_cons_of_ne, given_cons_only hs hnone]

/-- Header names are read over the standard ones. -/
def layout : Layout HeaderNames where
  title := "HeaderNames"
  start := .standard
  members := members
  overlay := overridden
  distinct := by decide
  putsOver := putsOver

theorem decoder_eq : decoder = layout.decoder := rfl

theorem fit_iff {ms : List (String × Tree)} : layout.Fit ms ↔ Fit ms := by
  simp [Layout.Fit, layout, members, Member.text, Member.of, fits_map_iff, Fit, memberNames]

theorem sound (n : Nat) : ∀ m ∈ layout.members, m.Sound n := by
  intro m hm
  simp only [layout, members, List.mem_cons, List.not_mem_nil, or_false] at hm
  obtain rfl | rfl | rfl | rfl | rfl | rfl | rfl | rfl := hm <;> exact Member.sound_text n _ _

theorem decodes (n : Nat) (t : Tree) : Decodes decoder (n + 1) t (layout.means t) := by
  rw [decoder_eq]
  exact Layout.decodes (sound n) t

end HeaderNames

/-! ## Paths of handshakes -/

namespace Endpoints

/-- The members of a section of paths. -/
def memberNames : List String := ["login", "logout", "refresh", "status"]

/-- The paths of handshakes with those that a section gives put in their place. -/
def overridden (d : Endpoints) (ms : List (String × Tree)) : Endpoints where
  login := given Tree.text? d.login "login" ms
  logout := given Tree.text? d.logout "logout" ms
  refresh := given Tree.text? d.refresh "refresh" ms
  status := given Tree.text? d.status "status" ms

/-- Each path is given at most once, and as a text. -/
def Fit (ms : List (String × Tree)) : Prop := ∀ name ∈ memberNames, Fits Tree.text? name ms

/-- The members that paths are read by. -/
def members : List (Member Endpoints) :=
  [.text "login" fun s e => { e with login := s },
   .text "logout" fun s e => { e with logout := s },
   .text "refresh" fun s e => { e with refresh := s },
   .text "status" fun s e => { e with status := s }]

theorem putsOver : PutsOver members overridden where
  nil _ := rfl
  skip d t ms name hname := by
    simp only [namesOf, members, Member.text, List.map_cons, List.map_nil, Member.name_of, List.mem_cons,
      List.not_mem_nil, or_false, not_or] at hname
    simp only [overridden, given_cons_of_ne, hname, ne_eq, not_false_eq_true]
  put d ms m hm t g hg hnone := by
    simp only [members, Member.text, List.mem_cons, List.not_mem_nil, or_false] at hm
    obtain rfl | rfl | rfl | rfl := hm <;>
    · obtain ⟨s, hs, rfl⟩ := Option.map_eq_some_iff.mp hg
      rw [Member.name_of] at hnone
      simp [overridden, given_cons_of_ne, given_cons_only hs hnone]

/-- Paths are read over the standard ones. -/
def layout : Layout Endpoints where
  title := "Endpoints"
  start := .standard
  members := members
  overlay := overridden
  distinct := by decide
  putsOver := putsOver

theorem decoder_eq : decoder = layout.decoder := rfl

theorem fit_iff {ms : List (String × Tree)} : layout.Fit ms ↔ Fit ms := by
  simp [Layout.Fit, layout, members, Member.text, Member.of, fits_map_iff, Fit, memberNames]

theorem sound (n : Nat) : ∀ m ∈ layout.members, m.Sound n := by
  intro m hm
  simp only [layout, members, List.mem_cons, List.not_mem_nil, or_false] at hm
  obtain rfl | rfl | rfl | rfl := hm <;> exact Member.sound_text n _ _

theorem decodes (n : Nat) (t : Tree) : Decodes decoder (n + 1) t (layout.means t) := by
  rw [decoder_eq]
  exact Layout.decodes (sound n) t

end Endpoints

/-! ## Meaning of error codes -/

namespace ErrorCodes

/-- The members of a section of error codes. -/
def memberNames : List String :=
  ["csrf_invalid", "credentials_required", "login_failed", "refresh_required", "relogin_required"]

/-- The members that are one code. -/
def codeNames : List String := ["credentials_required", "login_failed"]

/-- The members that are several codes. -/
def listNames : List String := ["csrf_invalid", "refresh_required", "relogin_required"]

/-- The meaning of error codes with what a section gives put in its place. -/
def overridden (d : ErrorCodes) (ms : List (String × Tree)) : ErrorCodes where
  csrfInvalid := given (Tree.items? Tree.text?) d.csrfInvalid "csrf_invalid" ms
  credentialsRequired := given Tree.text? d.credentialsRequired "credentials_required" ms
  loginFailed := given Tree.text? d.loginFailed "login_failed" ms
  refreshRequired := given (Tree.items? Tree.text?) d.refreshRequired "refresh_required" ms
  reloginRequired := given (Tree.items? Tree.text?) d.reloginRequired "relogin_required" ms

/-- Each meaning is given at most once, and as a text or an array of texts. -/
def Fit (ms : List (String × Tree)) : Prop :=
  (∀ name ∈ codeNames, Fits Tree.text? name ms) ∧ ∀ name ∈ listNames, Fits (Tree.items? Tree.text?) name ms

/-- The members that the meaning of error codes is read by. -/
def members : List (Member ErrorCodes) :=
  [.texts "csrf_invalid" fun xs c => { c with csrfInvalid := xs },
   .text "credentials_required" fun s c => { c with credentialsRequired := s },
   .text "login_failed" fun s c => { c with loginFailed := s },
   .texts "refresh_required" fun xs c => { c with refreshRequired := xs },
   .texts "relogin_required" fun xs c => { c with reloginRequired := xs }]

theorem putsOver : PutsOver members overridden where
  nil _ := rfl
  skip d t ms name hname := by
    simp only [namesOf, members, Member.text, Member.texts, List.map_cons, List.map_nil, Member.name_of,
      List.mem_cons, List.not_mem_nil, or_false, not_or] at hname
    simp only [overridden, given_cons_of_ne, hname, ne_eq, not_false_eq_true]
  put d ms m hm t g hg hnone := by
    simp only [members, Member.text, Member.texts, List.mem_cons, List.not_mem_nil, or_false] at hm
    obtain rfl | rfl | rfl | rfl | rfl := hm <;>
    · obtain ⟨x, hx, rfl⟩ := Option.map_eq_some_iff.mp hg
      rw [Member.name_of] at hnone
      simp [overridden, given_cons_of_ne, given_cons_only hx hnone]

/-- The meaning of error codes is read over the standard one. -/
def layout : Layout ErrorCodes where
  title := "ErrorCodes"
  start := .standard
  members := members
  overlay := overridden
  distinct := by decide
  putsOver := putsOver

theorem decoder_eq : decoder = layout.decoder := rfl

theorem fit_iff {ms : List (String × Tree)} : layout.Fit ms ↔ Fit ms := by
  have hmembers : layout.Fit ms ↔ Fits (Tree.items? Tree.text?) "csrf_invalid" ms ∧
      Fits Tree.text? "credentials_required" ms ∧ Fits Tree.text? "login_failed" ms ∧
      Fits (Tree.items? Tree.text?) "refresh_required" ms ∧
      Fits (Tree.items? Tree.text?) "relogin_required" ms := by
    simp [Layout.Fit, layout, members, Member.text, Member.texts, Member.of, fits_map_iff]
  have hfit : Fit ms ↔ (Fits Tree.text? "credentials_required" ms ∧ Fits Tree.text? "login_failed" ms) ∧
      Fits (Tree.items? Tree.text?) "csrf_invalid" ms ∧
      Fits (Tree.items? Tree.text?) "refresh_required" ms ∧
      Fits (Tree.items? Tree.text?) "relogin_required" ms := by
    simp [Fit, codeNames, listNames]
  rw [hmembers, hfit]
  constructor
  · rintro ⟨hcsrf, hrequired, hfailed, hrefresh, hrelogin⟩
    exact ⟨⟨hrequired, hfailed⟩, hcsrf, hrefresh, hrelogin⟩
  · rintro ⟨⟨hrequired, hfailed⟩, hcsrf, hrefresh, hrelogin⟩
    exact ⟨hcsrf, hrequired, hfailed, hrefresh, hrelogin⟩

theorem sound (n : Nat) : ∀ m ∈ layout.members, m.Sound (n + 1) := by
  intro m hm
  simp only [layout, members, List.mem_cons, List.not_mem_nil, or_false] at hm
  obtain rfl | rfl | rfl | rfl | rfl := hm
  · exact Member.sound_texts n _ _
  · exact Member.sound_text (n + 1) _ _
  · exact Member.sound_text (n + 1) _ _
  · exact Member.sound_texts n _ _
  · exact Member.sound_texts n _ _

theorem decodes (n : Nat) (t : Tree) : Decodes decoder (n + 2) t (layout.means t) := by
  rw [decoder_eq]
  exact Layout.decodes (sound n) t

end ErrorCodes

/-! ## Limits of recovery -/

/-- The limit that a value is: a natural number up to 255. -/
def Json.Tree.limit? (t : Tree) : Option UInt8 := (t.nat? 8).map Nat.toUInt8

namespace RecoveryLimits

/-- The members of a section of limits. -/
def memberNames : List String := ["max_csrf_refreshes", "max_logins", "max_token_refreshes"]

/-- The limits of recovery with those that a section gives put in their place. -/
def overridden (d : RecoveryLimits) (ms : List (String × Tree)) : RecoveryLimits where
  csrfRefreshes := given Tree.limit? d.csrfRefreshes "max_csrf_refreshes" ms
  logins := given Tree.limit? d.logins "max_logins" ms
  tokenRefreshes := given Tree.limit? d.tokenRefreshes "max_token_refreshes" ms

/-- Each limit is given at most once, and as a natural number up to 255. -/
def Fit (ms : List (String × Tree)) : Prop := ∀ name ∈ memberNames, Fits Tree.limit? name ms

/-- The members that limits are read by. -/
def members : List (Member RecoveryLimits) :=
  [.nat "max_csrf_refreshes" 8 fun n l => { l with csrfRefreshes := n.toUInt8 },
   .nat "max_logins" 8 fun n l => { l with logins := n.toUInt8 },
   .nat "max_token_refreshes" 8 fun n l => { l with tokenRefreshes := n.toUInt8 }]

theorem putsOver : PutsOver members overridden where
  nil _ := rfl
  skip d t ms name hname := by
    simp only [namesOf, members, Member.nat, List.map_cons, List.map_nil, Member.name_of, List.mem_cons,
      List.not_mem_nil, or_false, not_or] at hname
    simp only [overridden, given_cons_of_ne, hname, ne_eq, not_false_eq_true]
  put d ms m hm t g hg hnone := by
    simp only [members, Member.nat, List.mem_cons, List.not_mem_nil, or_false] at hm
    obtain rfl | rfl | rfl := hm <;>
    · obtain ⟨n, hn, rfl⟩ := Option.map_eq_some_iff.mp hg
      have hlimit : t.limit? = some n.toUInt8 := by rw [Tree.limit?, hn, Option.map_some]
      rw [Member.name_of] at hnone
      simp [overridden, given_cons_of_ne, given_cons_only hlimit hnone]

/-- Limits are read over the standard ones. -/
def layout : Layout RecoveryLimits where
  title := "RecoveryLimits"
  start := .standard
  members := members
  overlay := overridden
  distinct := by decide
  putsOver := putsOver

theorem decoder_eq : decoder = layout.decoder := rfl

theorem fit_iff {ms : List (String × Tree)} : layout.Fit ms ↔ Fit ms := by
  have hlimit (name : String) : Fits Tree.limit? name ms ↔ Fits (Tree.nat? 8) name ms :=
    fits_map_iff Nat.toUInt8
  simp [Layout.Fit, layout, members, Member.nat, Member.of, fits_map_iff, Fit, memberNames, hlimit]

theorem sound (n : Nat) : ∀ m ∈ layout.members, m.Sound n := by
  intro m hm
  simp only [layout, members, List.mem_cons, List.not_mem_nil, or_false] at hm
  obtain rfl | rfl | rfl := hm <;> exact Member.sound_nat n _ (by decide) _

theorem decodes (n : Nat) (t : Tree) : Decodes decoder (n + 1) t (layout.means t) := by
  rw [decoder_eq]
  exact Layout.decodes (sound n) t

/-- A member refuses what is no limit. -/
theorem change_eq_none {m : Member RecoveryLimits} (hm : m ∈ layout.members) {t : Tree}
    (h : t.limit? = none) : m.change t = none := by
  have hnat : t.nat? 8 = none := Option.map_eq_none_iff.mp h
  simp only [layout, members, List.mem_cons, List.not_mem_nil, or_false] at hm
  obtain rfl | rfl | rfl := hm <;> exact Option.map_eq_none_iff.mpr hnat

end RecoveryLimits

/-! ## Settings -/

namespace Settings

variable {ms : List (String × Tree)} {body : Bytes} {address : String}

/-- The members of a document. -/
def memberNames : List String :=
  ["base_url", "user_agent", "timeout_secs", "headers", "endpoints", "error_codes", "recovery"]

/-- The members of each section. -/
def sectionNames : List (String × List String) :=
  [("headers", HeaderNames.memberNames), ("endpoints", Endpoints.memberNames),
   ("error_codes", ErrorCodes.memberNames), ("recovery", RecoveryLimits.memberNames)]

/-- The settings that a document describes: those for its address, with everything that it names put in its
place. -/
def described (address : String) (ms : List (String × Tree)) : Settings :=
  let d := Settings.new address
  { baseUrl := d.baseUrl
    userAgent := given (Tree.optional Tree.text?) d.userAgent "user_agent" ms
    timeoutSeconds := given (Tree.optional (Tree.nat? 64)) d.timeoutSeconds "timeout_secs" ms
    headers := d.headers.overridden (sectionMembers "headers" ms)
    endpoints := d.endpoints.overridden (sectionMembers "endpoints" ms)
    errorCodes := d.errorCodes.overridden (sectionMembers "error_codes" ms)
    recovery := d.recovery.overridden (sectionMembers "recovery" ms) }

/-- A document with an address and any other settings, each at most once and of its own type. -/
structure Fit (address : String) (ms : List (String × Tree)) : Prop where
  /-- The address is there, and is a text. -/
  baseUrl : valuesOf "base_url" ms = [.text (some address)]
  /-- The name of the client is a text or null. -/
  userAgent : Fits (Tree.optional Tree.text?) "user_agent" ms
  /-- The time limit is a natural number of 64 bits or null. -/
  timeoutSeconds : Fits (Tree.optional (Tree.nat? 64)) "timeout_secs" ms
  /-- The names of headers are a section of theirs. -/
  headers : SectionFits HeaderNames.Fit "headers" ms
  /-- The paths of handshakes are a section of theirs. -/
  endpoints : SectionFits Endpoints.Fit "endpoints" ms
  /-- The meaning of error codes is a section of its own. -/
  errorCodes : SectionFits ErrorCodes.Fit "error_codes" ms
  /-- The limits of recovery are a section of theirs. -/
  recovery : SectionFits RecoveryLimits.Fit "recovery" ms

/-- The members that settings are read by. -/
def members : List (Member Settings) :=
  [.of "base_url" true .string Tree.text? fun s c => { c with baseUrl := s },
   .of "user_agent" false Decoder.string.optional (Tree.optional Tree.text?)
    fun s c => { c with userAgent := s },
   .of "timeout_secs" false (Decoder.nat 64).optional (Tree.optional (Tree.nat? 64))
    fun n c => { c with timeoutSeconds := n },
   .of "headers" false HeaderNames.decoder HeaderNames.layout.means fun h c => { c with headers := h },
   .of "endpoints" false Endpoints.decoder Endpoints.layout.means fun e c => { c with endpoints := e },
   .of "error_codes" false ErrorCodes.decoder ErrorCodes.layout.means
    fun e c => { c with errorCodes := e },
   .of "recovery" false RecoveryLimits.decoder RecoveryLimits.layout.means
    fun l c => { c with recovery := l }]

/-- Settings with those that an object gives put in their place. -/
def overridden (d : Settings) (ms : List (String × Tree)) : Settings where
  baseUrl := given Tree.text? d.baseUrl "base_url" ms
  userAgent := given (Tree.optional Tree.text?) d.userAgent "user_agent" ms
  timeoutSeconds := given (Tree.optional (Tree.nat? 64)) d.timeoutSeconds "timeout_secs" ms
  headers := given HeaderNames.layout.means d.headers "headers" ms
  endpoints := given Endpoints.layout.means d.endpoints "endpoints" ms
  errorCodes := given ErrorCodes.layout.means d.errorCodes "error_codes" ms
  recovery := given RecoveryLimits.layout.means d.recovery "recovery" ms

theorem putsOver : PutsOver members overridden where
  nil _ := rfl
  skip d t ms name hname := by
    simp only [namesOf, members, List.map_cons, List.map_nil, Member.name_of, List.mem_cons,
      List.not_mem_nil, or_false, not_or] at hname
    simp only [overridden, given_cons_of_ne, hname, ne_eq, not_false_eq_true]
  put d ms m hm t g hg hnone := by
    simp only [members, List.mem_cons, List.not_mem_nil, or_false] at hm
    obtain rfl | rfl | rfl | rfl | rfl | rfl | rfl := hm <;>
    · obtain ⟨x, hx, rfl⟩ := Option.map_eq_some_iff.mp hg
      rw [Member.name_of] at hnone
      simp [overridden, given_cons_of_ne, given_cons_only hx hnone]

/-- Settings are read over those without an address. -/
def layout : Layout Settings where
  title := "ClientConfig"
  start := .new ""
  members := members
  overlay := overridden
  distinct := by decide
  putsOver := putsOver

theorem decoder_eq : decoder = layout.decoder := rfl

theorem sound (n : Nat) : ∀ m ∈ layout.members, m.Sound (n + 2) := by
  -- a section is one level of nesting, and the lists in it are another
  intro m hm
  simp only [layout, members, List.mem_cons, List.not_mem_nil, or_false] at hm
  obtain rfl | rfl | rfl | rfl | rfl | rfl | rfl := hm
  · exact Member.sound_of (Decodes.string (n + 2)) _ _ _
  · exact Member.sound_of (fun t => Decodes.optional (Decodes.string (n + 2) t)) _ _ _
  · exact Member.sound_of (fun t => Decodes.optional (Decodes.nat (by decide) (n + 2) t)) _ _ _
  · exact Member.sound_of (HeaderNames.decodes (n + 1)) _ _ _
  · exact Member.sound_of (Endpoints.decodes (n + 1)) _ _ _
  · exact Member.sound_of (ErrorCodes.decodes n) _ _ _
  · exact Member.sound_of (RecoveryLimits.decodes (n + 1)) _ _ _

/-! ## Documents that fit -/

theorem Fit.layout_fit (h : Fit address ms) : layout.Fit ms := by
  have hbase : Fits Tree.text? "base_url" ms := fits_of_only h.baseUrl rfl
  have hpresent : valuesOf "base_url" ms ≠ [] := by
    rw [h.baseUrl]
    exact List.cons_ne_nil _ _
  intro m hm
  simp only [layout, members, List.mem_cons, List.not_mem_nil, or_false] at hm
  obtain rfl | rfl | rfl | rfl | rfl | rfl | rfl := hm
  · exact ⟨(fits_map_iff _).mpr hbase, fun _ => hpresent⟩
  · exact ⟨(fits_map_iff _).mpr h.userAgent, nofun⟩
  · exact ⟨(fits_map_iff _).mpr h.timeoutSeconds, nofun⟩
  · exact ⟨(fits_map_iff _).mpr (h.headers.given_eq HeaderNames.fit_iff).1, nofun⟩
  · exact ⟨(fits_map_iff _).mpr (h.endpoints.given_eq Endpoints.fit_iff).1, nofun⟩
  · exact ⟨(fits_map_iff _).mpr (h.errorCodes.given_eq ErrorCodes.fit_iff).1, nofun⟩
  · exact ⟨(fits_map_iff _).mpr (h.recovery.given_eq RecoveryLimits.fit_iff).1, nofun⟩

/-- Over the defaults, a document that fits puts what it describes. -/
theorem Fit.overlay_eq (h : Fit address ms) : layout.overlay layout.start ms = described address ms := by
  have hbase : given Tree.text? "" "base_url" ms = address := by
    rw [given, h.baseUrl]
    rfl
  have hheaders := (h.headers.given_eq HeaderNames.fit_iff).2
  have hendpoints := (h.endpoints.given_eq Endpoints.fit_iff).2
  have hcodes := (h.errorCodes.given_eq ErrorCodes.fit_iff).2
  have hrecovery := (h.recovery.given_eq RecoveryLimits.fit_iff).2
  show overridden (.new "") ms = described address ms
  simp only [overridden, described, new, hbase]
  exact congr (congr (congr (congrArg _ hheaders) hendpoints) hcodes) hrecovery

/-! ## Files -/

/-- The document in a file is refused as no text of settings. -/
def Refused (body : Bytes) : Prop :=
  ∃ reason, ofFile (.content body) = .error (.serialization reason)

/-- A document is read as what its members say. -/
theorem toOption_read (h : IsText (.object (named ms)) body) :
    (decoder.read body).toOption = layout.means (.object (named ms)) := by
  rw [decoder_eq]
  exact Decodes.read (Layout.decodes (sound 124) _) h

/-- A document is text, so only its reading can fail. -/
theorem ofFile_content {t : Tree} (h : IsText t body) :
    ofFile (.content body) = (decoder.read body).mapError Error.ofFault := by
  obtain ⟨s, hs⟩ := h.exists_decoded
  simp only [ofFile, hs]

theorem ofFile_of_means {s : Settings} (h : IsText (.object (named ms)) body)
    (hs : layout.means (.object (named ms)) = some s) : ofFile (.content body) = .ok s := by
  rw [ofFile_content h]
  have hread := toOption_read h
  cases hr : decoder.read body with
  | error f =>
    rw [hr, hs] at hread
    cases hread
  | ok s' =>
    rw [hr, hs] at hread
    cases Option.some.inj hread
    rfl

theorem refused_of_means (h : IsText (.object (named ms)) body)
    (hnone : layout.means (.object (named ms)) = none) : Refused body := by
  rw [Refused, ofFile_content h]
  have hread := toOption_read h
  cases hr : decoder.read body with
  | error f => exact ⟨f.message, rfl⟩
  | ok s =>
    rw [hr, hnone] at hread
    cases hread

/-- A document is refused if a member of it refuses its value. -/
theorem refused_of_member {m : Member Settings} (hm : m ∈ layout.members)
    (h : IsText (.object (named ms)) body) {t : Tree} (ht : t ∈ valuesOf m.field.name ms)
    (hnone : m.change t = none) : Refused body :=
  refused_of_means h (Layout.means_eq_none_of_refused hm ht hnone)

/-- A document is refused if a section of it is no record. -/
theorem refused_of_section {σ : Type} {l : Layout σ} {d : Decoder σ} {put : σ → Settings → Settings}
    {name : String} (hm : Member.of name false d l.means put ∈ layout.members)
    (h : IsText (.object (named ms)) body) {t : Tree} (ht : t ∈ valuesOf name ms)
    (hnone : l.means t = none) : Refused body := by
  have hchange : (Member.of name false d l.means put).change t = none := by
    rw [Member.change_of, hnone, Option.map_none]
  exact refused_of_member hm h ht hchange

/-- A document is refused if its limits are none. -/
theorem refused_of_limits (h : IsText (.object (named ms)) body) {t : Tree}
    (ht : t ∈ valuesOf "recovery" ms) (hnone : RecoveryLimits.layout.means t = none) : Refused body :=
  -- the limits are the last of the members
  refused_of_section (.tail _ (.tail _ (.tail _ (.tail _ (.tail _ (.tail _ (.head _))))))) h ht hnone

/-- A document is refused if a member stands twice in a section. -/
theorem refused_of_repeatedInside (h : IsText (.object (named ms)) body)
    {names : String × List String} (hnames : names ∈ sectionNames) {inner : List (String × Tree)}
    (ht : .object (named inner) ∈ valuesOf names.1 ms) {name : String} (hname : name ∈ names.2)
    (hrepeated : 1 < (valuesOf name inner).length) : Refused body := by
  simp only [sectionNames, List.mem_cons, List.not_mem_nil, or_false] at hnames
  -- the sections are the members from the fourth on
  obtain rfl | rfl | rfl | rfl := hnames
  · have hnone : HeaderNames.layout.means (.object (named inner)) = none :=
      Layout.means_eq_none_of_repeated hname hrepeated
    exact refused_of_section (.tail _ (.tail _ (.tail _ (.head _)))) h ht hnone
  · have hnone : Endpoints.layout.means (.object (named inner)) = none :=
      Layout.means_eq_none_of_repeated hname hrepeated
    exact refused_of_section (.tail _ (.tail _ (.tail _ (.tail _ (.head _))))) h ht hnone
  · have hnone : ErrorCodes.layout.means (.object (named inner)) = none :=
      Layout.means_eq_none_of_repeated hname hrepeated
    exact refused_of_section (.tail _ (.tail _ (.tail _ (.tail _ (.tail _ (.head _)))))) h ht hnone
  · have hnone : RecoveryLimits.layout.means (.object (named inner)) = none :=
      Layout.means_eq_none_of_repeated hname hrepeated
    exact refused_of_limits h ht hnone

/-- What becomes of a document that holds given members. -/
structure ReadsByName (ms : List (String × Tree)) (body : Bytes) : Prop where
  /-- A document that fits is read as the settings that it describes. -/
  eq_ok : ∀ {address}, Fit address ms → ofFile (.content body) = .ok (described address ms)
  /-- A document without an address is refused. -/
  missing : valuesOf "base_url" ms = [] → Refused body
  /-- A document in which a member stands twice is refused. -/
  repeated : ∀ name ∈ memberNames, 1 < (valuesOf name ms).length → Refused body
  /-- A document with a section in which a member stands twice is refused. -/
  repeatedInside : ∀ names ∈ sectionNames, ∀ inner, .object (named inner) ∈ valuesOf names.1 ms →
    ∀ name ∈ names.2, 1 < (valuesOf name inner).length → Refused body
  /-- A document with a limit that is no natural number up to 255 is refused. -/
  beyond : ∀ inner, .object (named inner) ∈ valuesOf "recovery" ms →
    ∀ name ∈ RecoveryLimits.memberNames, ∀ t ∈ valuesOf name inner, t.limit? = none → Refused body
  /-- It is refused, too, when the limits are the items of an array. -/
  beyondItem : ∀ ts, .array ts ∈ valuesOf "recovery" ms → ∀ t ∈ ts, t.limit? = none → Refused body

/-- A document sets what it names and nothing else, whatever its members are and however they are written; it is
refused without an address, with a member twice, or with a limit that is none. -/
theorem ofFile_byName (h : IsText (.object (named ms)) body) : ReadsByName ms body where
  eq_ok hfit := by
    have hmeans := layout.means_of_fit hfit.layout_fit
    rw [hfit.overlay_eq] at hmeans
    exact ofFile_of_means h hmeans
  missing habsent :=
    refused_of_means h (Layout.means_eq_none_of_missing (l := layout) (.head _) rfl habsent)
  repeated name hname hrepeated :=
    refused_of_means h (Layout.means_eq_none_of_repeated (l := layout) hname hrepeated)
  repeatedInside names hnames inner ht name hname hrepeated :=
    refused_of_repeatedInside h hnames ht hname hrepeated
  beyond inner hinner name hname t ht hnone := by
    have hmember : name ∈ namesOf RecoveryLimits.layout.members := hname
    obtain ⟨m, hm, rfl⟩ := List.mem_map.mp hmember
    exact refused_of_limits h hinner
      (Layout.means_eq_none_of_refused hm ht (RecoveryLimits.change_eq_none hm hnone))
  beyondItem ts hts t ht hnone := by
    refine refused_of_limits h hts (Layout.means_array_eq_none (fun m hm => ?_) ht)
    exact RecoveryLimits.change_eq_none hm hnone

/-- A document with a name of a header and a limit, and with a member of another name in a section. -/
def partialBody : Bytes :=
  Utf8.encode ("\x7b\"base_url\":\"https://api\"," ++
    "\"headers\":\x7b\"csrf_token\":\"x-anti-forgery\",\"x\":null\x7d," ++
    "\"recovery\":\x7b\"max_logins\":1\x7d\x7d")

/-- The members of that document. -/
def partialMembers : List (String × Tree) :=
  [("base_url", .text (some "https://api")),
   ("headers", .object (named [("csrf_token", .text (some "x-anti-forgery")), ("x", .null)])),
   ("recovery", .object (named [("max_logins", .number [0x31])]))]

theorem isText_partialBody : IsText (.object (named partialMembers)) partialBody := by
  have hheaders (rest : Bytes) :
      Reads (.value (.object (named [("csrf_token", .text (some "x-anti-forgery")), ("x", .null)])))
        (0x7B :: 0x22 :: (Utf8.encode "csrf_token" ++ 0x22 :: 0x3A ::
            0x22 :: (Utf8.encode "x-anti-forgery" ++ 0x22 :: 0x2C ::
          0x22 :: (Utf8.encode "x" ++ 0x22 :: 0x3A ::
            0x6E :: 0x75 :: 0x6C :: 0x6C :: 0x7D :: rest)))) rest :=
    .object (.member (Named.plain (by decide) _) (Reads.plain (by decide) _) (.refl _)
      (.lastMember (Named.plain (by decide) _) .null (.refl _)))
  have hone : IsNumber [0x31] :=
    .parts (.inl rfl) (.digits rfl (by decide) (List.forall_mem_nil _)) .absent .absent
  have hrecovery (rest : Bytes) :
      Reads (.value (.object (named [("max_logins", .number [0x31])])))
        (0x7B :: 0x22 :: (Utf8.encode "max_logins" ++ 0x22 :: 0x3A :: 0x31 :: 0x7D :: rest)) rest :=
    .object (.lastMember (Named.plain (by decide) _) (.number hone) (.refl _))
  have hspelled : partialBody =
      0x7B :: 0x22 :: (Utf8.encode "base_url" ++ 0x22 :: 0x3A ::
        0x22 :: (Utf8.encode "https://api" ++ 0x22 :: 0x2C ::
      0x22 :: (Utf8.encode "headers" ++ 0x22 :: 0x3A ::
        0x7B :: 0x22 :: (Utf8.encode "csrf_token" ++ 0x22 :: 0x3A ::
            0x22 :: (Utf8.encode "x-anti-forgery" ++ 0x22 :: 0x2C ::
          0x22 :: (Utf8.encode "x" ++ 0x22 :: 0x3A ::
            0x6E :: 0x75 :: 0x6C :: 0x6C :: 0x7D :: 0x2C ::
      0x22 :: (Utf8.encode "recovery" ++ 0x22 :: 0x3A ::
        0x7B :: 0x22 :: (Utf8.encode "max_logins" ++ 0x22 :: 0x3A ::
          0x31 :: 0x7D :: [0x7D])))))))) := by
    decide +kernel
  rw [hspelled]
  exact ⟨_, [], .refl _, .object (.member (Named.plain (by decide) _) (Reads.plain (by decide) _) (.refl _)
    (.member (Named.plain (by decide) _) (hheaders _) (.refl _)
      (.lastMember (Named.plain (by decide) _) (hrecovery _) (.refl _)))), .refl _⟩

theorem ofFile_byName_partial : IsText (.object (named partialMembers)) partialBody ∧
    ofFile (.content partialBody) = .ok { Settings.new "https://api" with
      headers := { HeaderNames.standard with csrfToken := "x-anti-forgery" }
      recovery := { RecoveryLimits.standard with logins := 1 } } := by
  have hheaders : HeaderNames.Fit [("csrf_token", .text (some "x-anti-forgery")), ("x", .null)] := by
    unfold HeaderNames.Fit
    decide
  have hrecovery : RecoveryLimits.Fit [("max_logins", .number [0x31])] := by
    unfold RecoveryLimits.Fit
    decide
  have hfit : Fit "https://api" partialMembers := {
    baseUrl := rfl
    userAgent := fits_of_absent _ rfl
    timeoutSeconds := fits_of_absent _ rfl
    headers := .inr ⟨_, rfl, hheaders⟩
    endpoints := .inl rfl
    errorCodes := .inl rfl
    recovery := .inr ⟨_, rfl, hrecovery⟩ }
  exact ⟨isText_partialBody, (ofFile_byName isText_partialBody).eq_ok hfit⟩

end Settings

end SessionRecovery
