import SessionRecovery.Proofs.Client.Concealment
import SessionRecovery.Proofs.Client.Independence
import SessionRecovery.Proofs.Client.Lockstep
import SessionRecovery.Proofs.Session.Spelling

/-!
# Two clients that spell names otherwise

Two clients are set up alike but for the letter case of header names, and are asked the same but for the letter
case of the caller's own names. Given the same replies they go in lockstep: they hold the same session after every
operation, send the same requests and ask the same of the provider. Only the words of an error differ, where a
name that is none is repeated in them.
-/

namespace SessionRecovery

open Header

/-- Errors that repeat a name in another letter case are indistinct. -/
theorem Error.indistinct_sameLetters : Error.Indistinct Error.SameLetters where
  refl := .same
  cancelled h := by
    cases h with
    | same e => exact Iff.rfl
    | name hname => exact iff_of_false nofun nofun

/-- Operations that are the same but for the letter case of the caller's own names. -/
inductive Operation.SameLetters : Operation → Operation → Prop
  /-- The same operation. -/
  | same (op : Operation) : SameLetters op op
  /-- Calls. -/
  | send {r q : Request} (h : r.SameLetters q) : SameLetters (.send r) (.send q)
  /-- Calls whose answer is read. -/
  | call (decoder : Json.Decoder Json) {r q : Request} (h : r.SameLetters q) :
      SameLetters (.call decoder r) (.call decoder q)
  /-- Dispatches. -/
  | dispatch {r q : Request} (h : r.SameLetters q) : SameLetters (.dispatch r) (.dispatch q)
  /-- Confirmations. -/
  | confirm (previous : Response) (code : String) {r q : Request} (h : r.SameLetters q) :
      SameLetters (.confirm previous code r) (.confirm previous code q)

/-- Runs that differ in nothing but the letter case of the caller's own names. -/
abbrev Leeway.letterCase : Leeway :=
  ⟨Request.SameLetters, fun x y => y = x, fun cr cr' => cr' = cr⟩

/-- Two histories are the same but for what was reported. -/
def SameDealings (h g : List Occurrence) : Prop :=
  g.filter (·.event?.isNone) = h.filter (·.event?.isNone)

theorem SameDealings.lasting : Lasting SameDealings := fun h g o hhg => by
  rw [SameDealings, List.filter_append, List.filter_append, hhg]

/-- What was reported does not count. -/
theorem SameDealings.report {h g : List Occurrence} (hhg : SameDealings h g) (e f : Event) :
    SameDealings (h ++ [.reported e]) (g ++ [.reported f]) := by
  rw [SameDealings, List.filter_append, List.filter_append, hhg]
  rfl

namespace World

variable {names names' : HeaderNames} {r q : Request}

/-- Two worlds are the same but for what was reported in them. -/
abbrev Matches : World → World → Prop := Twins id SameDealings

/-- In one world, names in any letter case bring the same reply, or no reply for the same reason. -/
theorem dispatch_sameLetters (h : names.SameLetters names') (hr : r.SameLetters q) (w : World) :
    Tally Error.SameLetters (fun x y => y = x) (dispatch names r w).1 (dispatch names' q w).1 ∧
      (dispatch names' q w).2 = (dispatch names r w).2 := by
  cases hc : w.cancelled with
  | true =>
    rw [dispatch_of_cancelled names r hc, dispatch_of_cancelled names' q hc]
    exact ⟨.error (.same _), rfl⟩
  | false =>
    have houtbound := Session.outbound_sameLetters h w.session hr
    cases ho : w.session.outbound names r <;> cases ho' : w.session.outbound names' q <;>
      rw [ho, ho'] at houtbound <;> cases houtbound
    · next he =>
      rw [dispatch_of_unbuildable hc ho, dispatch_of_unbuildable hc ho']
      exact ⟨.error he, rfl⟩
    · next o o' heq =>
      -- past this point names are only looked up, and the request is only called by its method and path
      have hannounced : w.announced q = w.announced r := by
        rw [announced, announced, hr.method, hr.path]
      have hawait : await q o' = await r o := by
        funext v
        rw [await, await, hr.method, hr.path, heq]
      have haccept : accept names' q = accept names r := by
        funext d v
        rw [accept, accept, takeTokens, takeTokens, Session.captureChanges_sameLetters h,
          Session.capture_sameLetters h, hr.path]
      rw [dispatch_of_built hc ho, dispatch_of_built hc ho', hannounced, hawait, haccept]
      exact ⟨.of_eq .same rfl, rfl⟩

end World

namespace Client

open World

variable {c : Client} {names' : HeaderNames}

/-- A client that spells names otherwise goes in lockstep. -/
theorem lockstep_sameLetters (h : c.names.SameLetters names') :
    Lockstep c { c with names := names' } .letterCase Error.SameLetters Matches where
  toAccords := (Twins.couples SameDealings.lasting c).toAccords
  indistinct := Error.indistinct_sameLetters
  complain k _ _ _ _ _ hwv := hwv.note (hwv.history.report _ _)
  endpoints := rfl
  controller := rfl
  alike {x y} hxy := by
    rw [show y = x from hxy]
    exact .refl x
  salted {x y} hxy := by
    rw [show y = x from hxy, salt?, salt?, Fields.nonEmptyText?_eq_of_sameLetters _ h.loginSalt]
  named := Request.SameLetters.operation
  same := .refl
  challenge login := Request.SameLetters.withHeader (.refl _) h.loginName login
  renewal {w v} hwv := by
    rw [hwv.session]
    exact Request.SameLetters.withHeader (.refl _) h.refreshToken _
  confirmed {x y r q} code hxy hr := by
    have hcode := hr.withHeader h.smsCode code
    rw [show y = x from hxy, confirmed, confirmed, Fields.nonEmptyText?_eq_of_sameLetters _ h.smsToken]
    cases x.headers.nonEmptyText? c.names.smsToken with
    | none => exact hcode
    | some token => exact hcode.withHeader h.smsToken token
  dispatch {r q} hr w v hwv := by
    obtain ⟨hreply, hend⟩ := Twins.dispatch_couples c.names SameDealings.lasting r w v hwv
    obtain ⟨hspelled, hsame⟩ := dispatch_sameLetters h hr v
    rw [hreply.eq] at hspelled
    exact ⟨hspelled, hsame ▸ hend⟩
  askCredentials := Run.couples_iff_lockstep.mp (Twins.askCredentials SameDealings.lasting)

/-- So do its logins. -/
theorem loginLockstep_sameLetters (h : c.names.SameLetters names') :
    LoginLockstep c { c with names := names' } .letterCase Error.SameLetters Matches := by
  intro cr cr' hcr
  rw [show cr' = cr from hcr]
  refine (lockstep_sameLetters h).login rfl fun {x y t u} hxy ht hu => ?_
  have hsalt : u = t := by
    rw [show y = x from hxy, salt?, Fields.nonEmptyText?_eq_of_sameLetters _ h.loginSalt] at hu
    exact Option.some.inj (hu.symm.trans ht)
  rw [hsalt]
  exact Request.SameLetters.withHeader (.withHeader (.refl _) h.loginName cr.login) h.loginProof _

end Client

/-- Operations that spell names otherwise are coupled. -/
theorem Operation.SameLetters.coupled {op op' : Operation} (h : op.SameLetters op') :
    op.Coupled .letterCase World.Matches op' := by
  cases h with
  | send hr => exact .send hr
  | call decoder hr => exact .call decoder hr
  | dispatch hr => exact .dispatch hr
  | confirm previous code hr => exact .confirm rfl code hr
  | same =>
    cases op with
    | update change => exact .update fun w v hwv => hwv.change change
    | send r => exact .send (.refl r)
    | call decoder r => exact .call decoder (.refl r)
    | exchange decoder method path payload => exact .exchange decoder method path payload
    | dispatch r => exact .dispatch (.refl r)
    | login cr => exact .login rfl
    | logout => exact .logout
    | prepare => exact .prepare
    | updateCsrfToken => exact .updateCsrfToken
    | requestRefreshToken => exact .requestRefreshToken
    | updateTokens => exact .updateTokens
    | confirm previous code r => exact .confirm rfl code (.refl r)

namespace Client

open World

variable {c : Client} {names names' : HeaderNames}

/-- Whole scripts go in lockstep: the worlds stay the same but for what was reported, and the answers but for the
words of an error. -/
theorem perform_lockstep (h : c.names.SameLetters names') {turns turns' : List (Bool × Operation)}
    (ht : List.Forall₂ (fun t u => u.1 = t.1 ∧ t.2.SameLetters u.2) turns turns') {w v : World}
    (hwv : Matches w v) :
    Matches (c.perform turns w) (({ c with names := names' } : Client).perform turns' v) ∧
      List.Forall₂ (Tally Error.SameLetters (Answer.Lockstep Error.SameLetters fun x y => y = x))
        (c.answers turns w) (({ c with names := names' } : Client).answers turns' v) := by
  induction ht generalizing w v with
  | nil => exact ⟨hwv, .nil⟩
  | @cons t u ts us htu _ ih =>
    obtain ⟨b, op⟩ := t
    obtain ⟨b', op'⟩ := u
    obtain ⟨hb, hop⟩ := htu
    have hbegun : Matches (w.begin b) (v.begin b') :=
      ⟨hwv.session, hwv.provider, hwv.replies, hb, hwv.history⟩
    obtain ⟨hanswer, hend⟩ :=
      (lockstep_sameLetters h).run (loginLockstep_sameLetters h) hop.coupled _ _ hbegun
    obtain ⟨hlast, hanswers⟩ := ih hend
    exact ⟨hlast, .cons hanswer hanswers⟩

/-- Names of headers are the same in any letter case, wherever they are compared. The headers of a request are the
same, or cannot be built, with names in either spelling; a reply's headers are read as the same fields, the same
tokens are taken from them, and a look-up gives the same text. So a client that spells the configured names
otherwise, and is asked with names that are spelled otherwise, holds the same session and has had the same dealings
after any script of operations and for any replies: it has sent the same requests, received the same replies, and
made the same calls of the provider. Its answers are the same, or errors that differ at most in the spelling of a
name. -/
theorem perform_sameLetters {names names' : HeaderNames} (h : names.SameLetters names') :
    (∀ (s : Session) (extra extra' : List (String × String)), SameHeaders extra extra' →
      (s.outboundHeaders names' extra').toOption = (s.outboundHeaders names extra).toOption) ∧
    (∀ hs hs' : List (String × Bytes), SameHeaders hs hs' → Fields.spelled? hs' = Fields.spelled? hs) ∧
    (∀ (s : Session) (fields : Fields), s.capture names' fields = s.capture names fields ∧
      s.captureChanges names' fields = s.captureChanges names fields) ∧
    (∀ (x : Response) (a b : String), SameLetters a b → x.header? b = x.header? a) ∧
    ∀ c d : Client, c.names = names → d = { c with names := names' } →
      ∀ turns turns' : List (Bool × Operation),
        List.Forall₂ (fun t u => u.1 = t.1 ∧ t.2.SameLetters u.2) turns turns' → ∀ w : World,
          (d.perform turns' w).session = (c.perform turns w).session ∧
          (d.perform turns' w).dealings = (c.perform turns w).dealings ∧
          (d.perform turns' w).provider = (c.perform turns w).provider ∧
          List.Forall₂ (Tally Error.SameLetters (Answer.Lockstep Error.SameLetters fun x y => y = x))
            (c.answers turns w) (d.answers turns' w) := by
  refine ⟨fun s extra extra' hextra => ?_, fun hs hs' => Fields.spelled?_eq_of_sameHeaders,
    fun s fields => ⟨?_, ?_⟩, fun x a b => x.headers.text?_eq_of_sameLetters, ?_⟩
  · exact (Session.outboundHeaders_sameLetters h s hextra).toOption_eq
  · exact Session.capture_sameLetters h s fields
  · exact Session.captureChanges_sameLetters h s fields
  · rintro c d rfl rfl turns turns' ht w
    have hmatch : Matches w w :=
      ⟨rfl, (Provider.mapCredentials_id _).symm, rfl, rfl, rfl⟩
    obtain ⟨hend, hanswers⟩ := perform_lockstep h ht hmatch
    refine ⟨hend.session, hend.history, ?_, hanswers⟩
    rw [hend.provider, Provider.mapCredentials_id]

/-- The names used unless others are set, in capitals. -/
def capitals : HeaderNames :=
  ⟨"X-AUTH-ACCESS-TOKEN", "X-AUTH-REFRESH-TOKEN", "X-CSRF", "X-AUTH-LOGIN", "X-AUTH-LOGIN-SALT",
    "X-AUTH-LOGIN-PHASH", "X-AUTH-SMS-CODE", "X-AUTH-SMS-TOKEN"⟩

/-- With names in capitals a request carries the same token in place of the caller's own header, and the token of
the reply is taken over. -/
theorem perform_sameLetters_capitals :
    let c := ofSettings (.new "https://a")
    let d : Client := { c with names := capitals }
    let turns : List (Bool × Operation) := [(false, .send ((Request.new .get "/").withHeader "x-csrf" "mine"))]
    let turns' : List (Bool × Operation) := [(false, .send ((Request.new .get "/").withHeader "X-Csrf" "mine"))]
    let w : World := ⟨⟨"https://a", none, "", "", "s"⟩, .inMemory none none,
      [⟨.ok ⟨200, [(⟨"x-csrf"⟩, [0x63])], []⟩, .never⟩], false, []⟩
    HeaderNames.standard.SameLetters capitals ∧
      (d.perform turns' w).session = (c.perform turns w).session ∧
      (d.perform turns' w).dealings = (c.perform turns w).dealings ∧
      (c.perform turns w).session.csrf = "c" ∧
      (c.perform turns w).sent.map (·.headers.values ⟨"x-csrf"⟩) = [[[0x73]]] := by
  intro c d turns turns' w
  have hnames : HeaderNames.standard.SameLetters capitals := by constructor <;> decide +kernel
  have hrequest : ((Request.new .get "/").withHeader "x-csrf" "mine").SameLetters
      ((Request.new .get "/").withHeader "X-Csrf" "mine") :=
    Request.SameLetters.withHeader (.refl _) (by decide +kernel) _
  obtain ⟨-, -, -, -, hruns⟩ := perform_sameLetters hnames
  obtain ⟨hsession, hdealings, -⟩ := hruns c d rfl rfl turns turns' (.cons ⟨rfl, .send hrequest⟩ .nil) w
  exact ⟨hnames, hsession, hdealings, by decide +kernel, by decide +kernel⟩

end Client

end SessionRecovery
