import SessionRecovery.Proofs.Client.Disguise
import SessionRecovery.Proofs.Client.Login
import SessionRecovery.Proofs.Digest.Base64
import SessionRecovery.Proofs.Digest.Sha256

/-!
# The proof that a client sends by default

By default a password is proved by the padded text of its keyed tag, where texts and tags are those laid down
for digit strings. The text is read back as the tag, and it can be sent in a header. So a login that was
answered with a salt hands over its second request unless the proof's header has no name.
-/

namespace SessionRecovery

open Header

/-! ## The text -/

/-- The digits of the laid down tag of a password under a salt, both in their bytes. -/
def saltedDigits (password salt : String) : List Bool :=
  Hmac.Standard.tag (Bits.ofBytes (Utf8.encode salt)) (Bits.ofBytes (Utf8.encode password))

/-- What a text has to be to prove a password for a salt. -/
structure Attests (password salt text : String) : Prop where
  /-- It is the laid down text of the tag. -/
  written : text.toList = Base64.Standard.text (saltedDigits password salt)
  /-- It has forty-four characters. -/
  length : text.length = 44
  /-- All but the last of them are of the alphabet, and the last is an equals sign. -/
  shape : ∃ symbols : List Char, symbols.length = 43 ∧
    (∀ ch ∈ symbols, ch ∈ Base64.Standard.alphabet) ∧ text.toList = symbols ++ ['=']
  /-- It is read as the thirty-two bytes of the tag, and no other text is. -/
  read : ∃ tag : Bytes, tag.length = 32 ∧ Bits.ofBytes tag = saltedDigits password salt ∧
    ∀ cs, Base64.decode cs = some tag ↔ cs = text.toList
  /-- A header can carry it. -/
  carried : value? text = some (Utf8.encode text)
  /-- It is read again from a header that carries it. -/
  received : text? (Utf8.encode text) = some text

/-- The default proof of every password for every salt is one. -/
theorem attests_passwordProof (password salt : String) :
    Attests password salt (passwordProof password salt) := by
  obtain ⟨tag, htag⟩ : ∃ tag, Hmac.tag (Utf8.encode salt) (Utf8.encode password) = tag := ⟨_, rfl⟩
  have hlength : tag.length = 32 := htag ▸ Hmac.length_tag _ _
  have hdigits : Bits.ofBytes tag = saltedDigits password salt := by
    rw [← htag, Hmac.ofBytes_tag, saltedDigits]
  have htext : (passwordProof password salt).toList = Base64.encode tag := by
    rw [passwordProof, htag, String.toList_ofList]
  have hvisible : Visible (passwordProof password salt) := Base64.visible_encode _
  obtain ⟨symbols, hsymbols, hmem, hshape⟩ := Base64.exists_symbols tag
  have hcount : symbols.length = 43 := by rw [hsymbols, hlength]
  have hclosed : (passwordProof password salt).toList = symbols ++ ['='] := by
    rw [htext, hshape, hcount]
    rfl
  refine ⟨?written, ?length, ⟨symbols, hcount, hmem, hclosed⟩, ⟨tag, hlength, hdigits, fun cs => ?read⟩,
    value?_eq_some_iff.mpr ⟨hvisible.writable, rfl⟩, hvisible.text?_encode⟩
  case written => rw [htext, ← Base64.text_ofBytes, hdigits]
  case length => rw [← String.length_toList, hclosed, List.length_append, hcount, List.length_singleton]
  case read => rw [Base64.decode_eq_some_iff, htext]

/-- The salt is the key, and the password is the message. -/
example : passwordProof "hunter2" "salt-1" = "vD0mTp49q3Qy6N00DTHUvOUVOqXl10hHFThd2MJCDqY=" := by
  decide +kernel

/-! ## The login -/

namespace Client

/-- How a login goes on after its first request was answered with a salt: it hands over the second one, unless
the header of the proof has no name. -/
structure Proves (c : Client) (cr : Credentials) (salt : String) (v : World)
    (x : Except Error Response) (w' : World) : Prop where
  /-- With a name, the second request can be built, is handed over, and carries the proof under that name where no
  token stands in its place. -/
  named : ∀ n, Name.parse? c.names.loginProof = some n →
    ∃ o, v.session.outbound c.names (c.proving cr salt) = .ok o ∧ w'.sent = v.sent ++ [o] ∧
      (v.session.tokenUnder c.names n = none →
        o.headers.values n = [Utf8.encode (c.proof cr.password salt)])
  /-- Without one, the login fails for it, and nothing more is handed over. -/
  nameless : Name.parse? c.names.loginProof = none →
    x = .error (.serialization (Fault.name c.names.loginProof).message) ∧ w'.sent = v.sent

variable {c : Client} {cr : Credentials} {w : World} {salt : String}

/-- After a challenge with a salt, the headers of the first request can be built again. -/
theorem Salted.exists_outboundHeaders {login : String}
    (hy : c.Salted (c.challenged login w).1 salt) : ∃ fields,
      (c.challenged login w).2.session.outboundHeaders c.names [(c.names.loginName, login)] = .ok fields := by
  -- the salt came with a reply, so the request was built once, and only tokens were taken over since then
  obtain ⟨answer, hfirst⟩ := exists_yields_challenged c login w
  obtain ⟨d, rfl, -, -⟩ := (salted_iff hfirst.read hfirst.unanswered).mp hy
  obtain ⟨o, ho⟩ := Option.isSome_iff_exists.mp (hfirst.handed rfl)
  have hcarries : w.session.Carries c.names (c.challenged login w).2.session := by
    rw [hfirst.session]
    exact Session.carries_capture _ _ _
  obtain ⟨o', ho'⟩ := hcarries.exists_outbound (World.handed?_eq_some_iff.mp ho).2
  exact (Session.exists_outbound_iff.mp ⟨o', ho'⟩).2

/-- The second request has the header of the first one, and then that of the proof. -/
theorem headers_proving (c : Client) (cr : Credentials) (salt : String) : (c.proving cr salt).headers =
    [(c.names.loginName, cr.login)] ++ [(c.names.loginProof, c.proof cr.password salt)] := rfl

/-- The proof is the last header under its name. -/
theorem lastUnder_proving {n : Name} (hn : Name.parse? c.names.loginProof = some n) :
    lastUnder n (c.proving cr salt).headers = some (c.proof cr.password salt) := by
  have hproof : lastUnder n [(c.names.loginProof, c.proof cr.password salt)] =
      some (c.proof cr.password salt) := by
    rw [lastUnder, lastUnder, if_pos hn]
    rfl
  rw [headers_proving, lastUnder_append, hproof]
  rfl

/-- Where the headers of the first request can be built, those of the second can fail to be built only because
the header of a proof that can be sent has no name. -/
theorem outboundHeaders_proving_eq_error_iff {s : Session} {fields : Fields} {fault : Fault}
    (hw : Writable (c.proof cr.password salt))
    (hfirst : s.outboundHeaders c.names [(c.names.loginName, cr.login)] = .ok fields) :
    s.outboundHeaders c.names (c.proving cr salt).headers = .error fault ↔
      Name.parse? c.names.loginProof = none ∧ fault = .name c.names.loginProof := by
  rw [headers_proving, Session.outboundHeaders_concat_eq_error_iff hw, hfirst]
  simp

/-- A login whose proof can be sent goes on with it after a challenge with a salt. -/
theorem proves_of_writable (hw : Writable (c.proof cr.password salt))
    (hy : c.Salted (c.challenged cr.login w).1 salt) (hc : (c.challenged cr.login w).2.cancelled = false) :
    c.Proves cr salt (c.challenged cr.login w).2 (c.login cr w).1 (c.login cr w).2 := by
  obtain ⟨second, answer, hend⟩ := c.exists_concludes cr w
  obtain ⟨hsent, -, -⟩ := hend.sent_received
  obtain ⟨first, hfirst⟩ := hy.exists_outboundHeaders
  have hquery : (c.proving cr salt).query = .ok none := rfl
  refine ⟨fun n hn => ?named, fun hnone => ?nameless⟩
  case named =>
    obtain ⟨fields, hfields⟩ : ∃ fields, (c.challenged cr.login w).2.session.outboundHeaders c.names
        (c.proving cr salt).headers = .ok fields := by
      cases hbuilt : (c.challenged cr.login w).2.session.outboundHeaders c.names
          (c.proving cr salt).headers with
      | ok fields => exact ⟨fields, rfl⟩
      | error fault =>
        have hno := ((outboundHeaders_proving_eq_error_iff hw hfirst).mp hbuilt).1
        cases hno.symm.trans hn
    obtain ⟨o, ho⟩ := Session.exists_outbound_iff.mpr ⟨⟨_, hquery⟩, fields, hfields⟩
    have hsecond : second = some o := hend.second_iff.mpr ⟨hc, salt, hy, ho⟩
    refine ⟨o, ho, by rw [hsent, hsecond]; rfl, fun hfree => ?_⟩
    rw [Session.values_outbound ho n, Session.textUnder, hfree, lastUnder_proving hn]
    rfl
  case nameless =>
    have hunbuilt := (outboundHeaders_proving_eq_error_iff hw hfirst).mpr ⟨hnone, rfl⟩
    have hfailed : (c.challenged cr.login w).2.session.outbound c.names (c.proving cr salt) =
        .error (.serialization (Fault.name c.names.loginProof).message) := by
      rw [Session.outbound, hquery, hunbuilt]
    have hsecond : second = none := by
      rw [Option.eq_none_iff_forall_ne_some]
      intro o ho
      obtain ⟨-, salt', hy', hbuilt⟩ := hend.second_iff.mp ho
      rw [hy.eq hy', hfailed] at hbuilt
      cases hbuilt
    have hdispatch := World.dispatch_of_unbuildable hc hfailed
    refine ⟨(hend.eq_of_salted hy).2 _ hc (congrArg Prod.fst hdispatch), ?_⟩
    rw [hsent, hsecond]
    exact List.append_nil _

/-- By default, every password is proved for every salt by the padded text of its keyed tag, forty-four characters
that are read back as the tag and that every header can carry. A header with it is never the reason why the
headers of a request cannot be built, but for its name; and a login goes on with it after every challenge with
a salt, if the caller did not give up. -/
theorem passwordProof_proves :
    (∀ password salt, Attests password salt (passwordProof password salt)) ∧
    (∀ (s : Session) (names : HeaderNames) (extra : List (String × String)) (name password salt : String)
      (fault : Fault),
      s.outboundHeaders names (extra ++ [(name, passwordProof password salt)]) = .error fault ↔
        s.outboundHeaders names extra = .error fault ∨
          (∃ fields, s.outboundHeaders names extra = .ok fields) ∧
            Name.parse? name = none ∧ fault = .name name) ∧
    ∀ (c : Client) (cr : Credentials) (w : World) (salt : String), c.proof = passwordProof →
      c.Salted (c.challenged cr.login w).1 salt → (c.challenged cr.login w).2.cancelled = false →
      c.Proves cr salt (c.challenged cr.login w).2 (c.login cr w).1 (c.login cr w).2 := by
  refine ⟨attests_passwordProof, fun s names extra name password salt fault => ?_,
    fun c cr w salt hproof hy hc => ?_⟩
  · exact Session.outboundHeaders_concat_eq_error_iff (writable_passwordProof password salt)
  · refine proves_of_writable ?_ hy hc
    rw [hproof]
    exact writable_passwordProof cr.password salt

/-- A reply that asks for the proof of a password for a salt. -/
def asking : Delivery :=
  ⟨401, [(⟨"x-auth-login-salt"⟩, Utf8.encode "abc123")],
    Utf8.encode "\x7b\"code\": \"credentials_required\"\x7d"⟩

/-- A world in which the server asks for the proof of a password, and then lets in. -/
def welcoming : World :=
  ⟨⟨"https://a", none, "", "", ""⟩, .inMemory none none,
    [⟨.ok asking, .never⟩, ⟨.ok ⟨200, [], []⟩, .never⟩], false, []⟩

/-- A client with the default settings proves a password for the salt that it was given. -/
theorem passwordProof_proves_welcoming :
    Attests "secret" "abc123" "jw/atRcUbuYwdN7hQp+w1cLVXXidj5L7ucaPGM/8ljI=" ∧
    (ofSettings (.new "https://a")).Proves ⟨"alice", "secret"⟩ "abc123"
      ((ofSettings (.new "https://a")).challenged "alice" welcoming).2
      ((ofSettings (.new "https://a")).login ⟨"alice", "secret"⟩ welcoming).1
      ((ofSettings (.new "https://a")).login ⟨"alice", "secret"⟩ welcoming).2 ∧
    (((ofSettings (.new "https://a")).login ⟨"alice", "secret"⟩ welcoming).2.sent.map
      fun o => o.headers.values ⟨"x-auth-login-phash"⟩) =
        [[], [Utf8.encode "jw/atRcUbuYwdN7hQp+w1cLVXXidj5L7ucaPGM/8ljI="]] := by
  have htext : passwordProof "secret" "abc123" = "jw/atRcUbuYwdN7hQp+w1cLVXXidj5L7ucaPGM/8ljI=" := by
    decide +kernel
  have hsalted : (ofSettings (.new "https://a")).Salted
      ((ofSettings (.new "https://a")).challenged "alice" welcoming).1 "abc123" :=
    ⟨⟨401, asking.headers, asking.body, some ⟨"credentials_required", "", ""⟩⟩, by decide +kernel,
      by decide +kernel, by decide +kernel⟩
  refine ⟨htext ▸ passwordProof_proves.1 "secret" "abc123", ?_, by decide +kernel⟩
  exact passwordProof_proves.2.2 _ ⟨"alice", "secret"⟩ welcoming "abc123" rfl hsalted (by decide +kernel)

end Client

end SessionRecovery
