import SessionRecovery.Proofs.Client.Replay
import SessionRecovery.Proofs.Client.Resend
import SessionRecovery.Proofs.Session.Precedence

/-!
# What a confirmation adds

A confirmation is the request itself but for two headers. Both are appended to the caller's own, where the last
one under a name wins, so that a new code takes the place of every older one. Neither depends on a token of the
session as long as they have names of their own, and so they stay as they are when the request is sent again.
-/

namespace SessionRecovery

open Header Observation

/-- The two headers of a confirmation have names of their own: neither name is the other one or that of a token,
in any letter case. -/
structure HeaderNames.SetApart (names : HeaderNames) : Prop where
  /-- They are two. -/
  other : ¬ Header.SameLetters names.smsCode names.smsToken
  /-- The code does not stand where the access token does. -/
  codeAccess : ¬ Header.SameLetters names.accessToken names.smsCode
  /-- The code does not stand where the anti-forgery token does. -/
  codeCsrf : ¬ Header.SameLetters names.csrfToken names.smsCode
  /-- The token of the confirmation does not stand where the access token does. -/
  tokenAccess : ¬ Header.SameLetters names.accessToken names.smsToken
  /-- The token of the confirmation does not stand where the anti-forgery token does. -/
  tokenCsrf : ¬ Header.SameLetters names.csrfToken names.smsToken

/-- The names used unless others are set are apart. -/
theorem HeaderNames.setApart_standard : HeaderNames.standard.SetApart := by
  constructor <;> decide +kernel

namespace Outbound

/-- Two requests on the wire are the same but for the two headers of a confirmation. -/
structure SameButConfirmation (names : HeaderNames) (plain confirmation : Outbound) : Prop where
  /-- They have one method. -/
  method : confirmation.method = plain.method
  /-- They have one URL. -/
  url : confirmation.url = plain.url
  /-- They have one body. -/
  body : confirmation.body = plain.body
  /-- They have the same values under all other names. -/
  headers : ∀ n, Name.parse? names.smsCode ≠ some n → Name.parse? names.smsToken ≠ some n →
    confirmation.headers.values n = plain.headers.values n

/-- What a confirmation echoes of a reply under a name: the first value, if it is legible, and otherwise what
the request has there without it. -/
def echo (previous : Response) (plain : Outbound) (n : Name) : List Bytes :=
  match (previous.headers.values n).head? with
  | some v => if Legible v then [v] else plain.headers.values n
  | none => plain.headers.values n

/-- A request on the wire confirms another one: it carries the code, and the token of the reply. -/
structure Confirms (names : HeaderNames) (previous : Response) (code : String)
    (plain confirmation : Outbound) : Prop where
  /-- The code stands under its name, and no older one does. -/
  code : ∃ n, Name.parse? names.smsCode = some n ∧ confirmation.headers.values n = [Utf8.encode code]
  /-- The token of the reply stands under its name, if it can be read. -/
  token : ∀ n, Name.parse? names.smsToken = some n →
    confirmation.headers.values n = echo previous plain n

end Outbound

namespace Header

/-- A text spells another name than a text of other letters. -/
theorem Name.parse?_ne_of_not_sameLetters {a b : String} {n : Name} (hb : Name.parse? b = some n)
    (h : ¬ SameLetters a b) : Name.parse? a ≠ some n :=
  mt (parse?_iff_sameLetters hb).mp h

/-- A legible value is what sends its text. -/
theorem encode_asciiText {v : Bytes} (h : Legible v) : Utf8.encode (asciiText v) = v := by
  have htext : Header.text? v = some (asciiText v) := by
    have hread := filter_text? v
    rw [if_pos h] at hread
    exact (Option.filter_eq_some_iff.mp hread).1
  exact (encode_of_text? htext).1

end Header

/-- Where no token stands, a session sends what the caller has last there, or what the client calls itself. -/
theorem Session.textUnder_of_apart {s : Session} {names : HeaderNames} {text : String} {n : Name}
    {extra : List (String × String)} (hn : Name.parse? text = some n)
    (haccess : ¬ SameLetters names.accessToken text) (hcsrf : ¬ SameLetters names.csrfToken text) :
    s.textUnder names extra n = (lastUnder n extra).or (s.agentUnder n) := by
  have hnone : s.tokenUnder names n = none := by
    rw [Session.tokenUnder, if_neg fun h => Name.parse?_ne_of_not_sameLetters hn hcsrf h.2,
      if_neg fun h => Name.parse?_ne_of_not_sameLetters hn haccess h.2]
  rw [Session.textUnder, hnone]

namespace Client

variable {c : Client} {previous : Response} {code : String} {r : Request} {n : Name}

/-- The headers of a confirmation are appended to the caller's own: the code, and then the token of the reply,
if one can be read. -/
theorem confirmed_headers (c : Client) (previous : Response) (code : String) (r : Request) :
    (c.confirmed previous code r).headers = r.headers ++ ((c.names.smsCode, code) ::
      ((previous.headers.nonEmptyText? c.names.smsToken).map (c.names.smsToken, ·)).toList) := by
  rw [confirmed]
  cases previous.headers.nonEmptyText? c.names.smsToken with
  | none => rfl
  | some token => exact List.append_assoc _ _ _

/-- A confirmation leaves the query as it is. -/
theorem confirmed_query (c : Client) (previous : Response) (code : String) (r : Request) :
    (c.confirmed previous code r).query = r.query := by
  rw [confirmed]
  cases previous.headers.nonEmptyText? c.names.smsToken <;> rfl

/-- Under a name of neither of its headers a confirmation has what the request has. -/
theorem lastUnder_confirmed_of_ne (hcode : Name.parse? c.names.smsCode ≠ some n)
    (htoken : Name.parse? c.names.smsToken ≠ some n) :
    lastUnder n (c.confirmed previous code r).headers = lastUnder n r.headers := by
  have hadded : lastUnder n ((c.names.smsCode, code) ::
      ((previous.headers.nonEmptyText? c.names.smsToken).map (c.names.smsToken, ·)).toList) = none := by
    cases previous.headers.nonEmptyText? c.names.smsToken <;> simp [lastUnder, hcode, htoken]
  rw [confirmed_headers, lastUnder_append, hadded, Option.none_or]

/-- Under the name of the code a confirmation has the new code last. -/
theorem lastUnder_confirmed_code (hcode : Name.parse? c.names.smsCode = some n)
    (htoken : Name.parse? c.names.smsToken ≠ some n) :
    lastUnder n (c.confirmed previous code r).headers = some code := by
  have hadded : lastUnder n ((c.names.smsCode, code) ::
      ((previous.headers.nonEmptyText? c.names.smsToken).map (c.names.smsToken, ·)).toList) = some code := by
    cases previous.headers.nonEmptyText? c.names.smsToken <;> simp [lastUnder, hcode, htoken]
  rw [confirmed_headers, lastUnder_append, hadded, Option.some_or]

/-- Under the name of its token a confirmation has that of the reply last, or what the request has. -/
theorem lastUnder_confirmed_token (hcode : Name.parse? c.names.smsCode ≠ some n)
    (htoken : Name.parse? c.names.smsToken = some n) :
    lastUnder n (c.confirmed previous code r).headers =
      (previous.headers.nonEmptyText? c.names.smsToken).or (lastUnder n r.headers) := by
  have hadded : lastUnder n ((c.names.smsCode, code) ::
      ((previous.headers.nonEmptyText? c.names.smsToken).map (c.names.smsToken, ·)).toList) =
        previous.headers.nonEmptyText? c.names.smsToken := by
    cases previous.headers.nonEmptyText? c.names.smsToken <;> simp [lastUnder, hcode, htoken]
  rw [confirmed_headers, lastUnder_append, hadded]

variable {s s' : Session} {o o' : Outbound}

/-- A request and its confirmation, built from one session, are the same but for two headers. -/
theorem outbound_sameButConfirmation (ho : s.outbound c.names r = .ok o)
    (ho' : s.outbound c.names (c.confirmed previous code r) = .ok o') :
    o.SameButConfirmation c.names o' := by
  have hvalues := Session.values_outbound ho
  have hvalues' := Session.values_outbound ho'
  obtain ⟨query, headers, hquery, -, rfl⟩ := Session.outbound_eq_ok_iff.mp ho
  obtain ⟨query', headers', hquery', -, rfl⟩ := Session.outbound_eq_ok_iff.mp ho'
  rw [confirmed_query, hquery] at hquery'
  cases hquery'
  have hparts : (c.confirmed previous code r).method = r.method ∧
      (c.confirmed previous code r).path = r.path ∧ (c.confirmed previous code r).body = r.body := by
    rw [confirmed]
    cases previous.headers.nonEmptyText? c.names.smsToken <;> exact ⟨rfl, rfl, rfl⟩
  obtain ⟨hmethod, hpath, hbody⟩ := hparts
  refine ⟨hmethod, by rw [hpath], hbody, fun n hcode htoken => ?_⟩
  rw [hvalues, hvalues', Session.textUnder, Session.textUnder, lastUnder_confirmed_of_ne hcode htoken]

/-- A confirmation carries its two headers in any session in which the client calls itself the same. -/
theorem outbound_confirms (hapart : c.names.SetApart) (hagent : s'.userAgent = s.userAgent)
    (ho : s.outbound c.names r = .ok o)
    (ho' : s'.outbound c.names (c.confirmed previous code r) = .ok o') :
    o.Confirms c.names previous code o' := by
  have hvalues := Session.values_outbound ho
  have hvalues' := Session.values_outbound ho'
  have hsameAgent (n : Name) : s'.agentUnder n = s.agentUnder n := by
    rw [Session.agentUnder, Session.agentUnder, hagent]
  constructor
  · obtain ⟨-, headers, -, hheaders, -⟩ := Session.outbound_eq_ok_iff.mp ho'
    have hsendable := (s'.exists_outboundHeaders_iff c.names _).mp ⟨headers, hheaders⟩
    have hmem : (c.names.smsCode, code) ∈ (c.confirmed previous code r).headers := by
      rw [confirmed_headers]
      exact List.mem_append_right _ List.mem_cons_self
    obtain ⟨n, hn, -⟩ := hsendable.extra _ hmem
    have htoken : Name.parse? c.names.smsToken ≠ some n :=
      Name.parse?_ne_of_not_sameLetters hn fun h => hapart.other h.symm
    refine ⟨n, hn, ?_⟩
    rw [hvalues', Session.textUnder_of_apart hn hapart.codeAccess hapart.codeCsrf,
      lastUnder_confirmed_code hn htoken]
    rfl
  · intro n hn
    have hcode : Name.parse? c.names.smsCode ≠ some n :=
      Name.parse?_ne_of_not_sameLetters hn hapart.other
    rw [Outbound.echo, hvalues', hvalues, Session.textUnder_of_apart hn hapart.tokenAccess hapart.tokenCsrf,
      Session.textUnder_of_apart hn hapart.tokenAccess hapart.tokenCsrf, lastUnder_confirmed_token hcode hn,
      hsameAgent, Fields.nonEmptyText?_eq, hn, Option.bind_some]
    cases (previous.headers.values n).head? with
    | none => rfl
    | some v =>
      rw [Option.bind_some]
      dsimp only
      split
      · next hv => simp [encode_asciiText hv]
      · rfl

/-- A confirmation is the request itself but for the two headers of the confirmation, whatever they are called.
If their names are their own, the code is the new one, and the token is the first one of the reply, or what the
request has there when that cannot be read. The call sends the confirmation in the worlds that its observations
tell of, and besides it the steps of handshakes. In each of them it hands just its own request to the network, and
this carries the same two headers, whatever recovery has made of the session. -/
theorem confirmation_exactly (c : Client) (previous : Response) (code : String) (r : Request) (w : World)
    {plain confirmation : Outbound} (hplain : w.session.outbound c.names r = .ok plain)
    (hconfirmation : w.session.outbound c.names (c.confirmed previous code r) = .ok confirmation) :
    plain.SameButConfirmation c.names confirmation ∧
      c.Sends (c.confirmed previous code r) w
        (origins w (c.controller.observations c.handler (c.confirmed previous code r) w))
        (c.sendConfirmation previous code r w).2 ∧
      (c.names.SetApart → plain.Confirms c.names previous code confirmation ∧
        ∀ v ∈ origins w (c.controller.observations c.handler (c.confirmed previous code r) w),
          (c.dispatch (c.confirmed previous code r) v).2.sent =
            v.sent ++ (v.handed? c.names (c.confirmed previous code r)).toList ∧
          ∀ o, v.handed? c.names (c.confirmed previous code r) = some o →
            plain.Confirms c.names previous code o) := by
  refine ⟨outbound_sameButConfirmation hplain hconfirmation, c.sends_send _ w,
    fun hapart => ⟨?_, fun v hv => ⟨?_, ?_⟩⟩⟩
  · exact outbound_confirms hapart rfl hplain hconfirmation
  · exact (World.dispatched_dispatch c.names _ v).sent_eq
  · intro o ho
    obtain ⟨hwalk, -⟩ := c.controller.walk_observations c.handler (c.confirmed previous code r) w
    have hcarried : w.session.Carries c.names v.session :=
      hwalk.moves_of_mem_origins (handler_moves (World.carries_moves c.names)) hv
    exact outbound_confirms hapart hcarried.userAgent hplain (World.handed?_eq_some_iff.mp ho).2

/-- A session whose anti-forgery token is refused once before a confirmation is taken. -/
def refusedOnce : World :=
  ⟨⟨"https://a", none, "t", "r", ""⟩, .inMemory none none,
    [⟨.ok ⟨403, [], Utf8.encode "\x7b\"code\": \"csrf_token_invalid\"\x7d"⟩, .never⟩,
      ⟨.ok ⟨200, [(⟨"x-csrf"⟩, [0x63])], []⟩, .never⟩, ⟨.ok ⟨200, [], []⟩, .never⟩], false, []⟩

/-- A new code takes the place of an old one that is spelled otherwise, both times that the request is sent. -/
theorem confirmation_exactly_repeated :
    let c := ofSettings (.new "https://a")
    let r := (Request.new .post "/").withHeader "X-Auth-SMS-Code" "1"
    let previous : Response := ⟨200, [(⟨"x-auth-sms-token"⟩, [0x61]), (⟨"x-auth-sms-token"⟩, [0x62])], [], none⟩
    ∃ plain confirmation, refusedOnce.session.outbound c.names r = .ok plain ∧
      refusedOnce.session.outbound c.names (c.confirmed previous "2" r) = .ok confirmation ∧
      plain.headers.values ⟨"x-auth-sms-code"⟩ = [[0x31]] ∧
      plain.SameButConfirmation c.names confirmation ∧
      plain.Confirms c.names previous "2" confirmation ∧
      (c.sendConfirmation previous "2" r refusedOnce).2.sent.map (fun o =>
        (o.headers.values ⟨"x-auth-sms-code"⟩, o.headers.values ⟨"x-auth-sms-token"⟩)) =
          [([[0x32]], [[0x61]]), ([], []), ([[0x32]], [[0x61]])] := by
  intro c r previous
  have hplain : refusedOnce.session.outbound c.names r = .ok ⟨.post, "https://a/",
      [(⟨"x-auth-access-token"⟩, [0x74]), (⟨"x-auth-sms-code"⟩, [0x31])], some Json.null.bytes⟩ := by
    decide +kernel
  have hconfirmation : refusedOnce.session.outbound c.names (c.confirmed previous "2" r) = .ok ⟨.post,
      "https://a/", [(⟨"x-auth-access-token"⟩, [0x74]), (⟨"x-auth-sms-code"⟩, [0x32]),
        (⟨"x-auth-sms-token"⟩, [0x61])], some Json.null.bytes⟩ := by
    decide +kernel
  obtain ⟨hsame, -, hsends⟩ := confirmation_exactly c previous "2" r refusedOnce hplain hconfirmation
  refine ⟨_, _, hplain, hconfirmation, rfl, hsame, (hsends HeaderNames.setApart_standard).1, ?_⟩
  decide +kernel

end Client

end SessionRecovery
