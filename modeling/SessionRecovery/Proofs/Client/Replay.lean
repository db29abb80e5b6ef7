import Mathlib.Control.Monad.Basic
import SessionRecovery.Proofs.Client.Dispatch
import SessionRecovery.Proofs.Client.Motion

/-!
# The session as a replay

After any sequence of operations the session is what the replies that were received make of the first
session, one after another, together with the logouts that succeeded and the changes that the program
made itself, each at its place. Nothing else ever changes a token.
-/

namespace SessionRecovery

namespace Header

/-- A byte that reads as text: a tab, or visible ASCII with the space. -/
def Readable (b : UInt8) : Prop := b = 0x09 ∨ 0x20 ≤ b ∧ b ≤ 0x7E

instance (b : UInt8) : Decidable (Readable b) := inferInstanceAs (Decidable (_ ∨ _))

/-- The text whose characters have the bytes as code points. -/
def asciiText (v : Bytes) : String := String.ofList (v.map fun b => Char.ofNat b.toNat)

/-- Readable bytes are those that a value is read by. -/
theorem isTextByte_iff (b : UInt8) : isTextByte b = true ↔ Readable b := by
  have hlt : b < 0x7F ↔ b ≤ 0x7E := by
    rw [UInt8.lt_iff_toNat_lt, UInt8.le_iff_toNat_le]
    exact Nat.lt_succ_iff
  simp only [isTextByte, Readable, Bool.or_eq_true, Bool.and_eq_true, decide_eq_true_eq,
    beq_iff_eq, hlt]
  exact Or.comm

/-- A value that may replace a token: it is not empty, and readable throughout. -/
def Legible (v : Bytes) : Prop := v ≠ [] ∧ ∀ b ∈ v, Readable b

instance (v : Bytes) : Decidable (Legible v) :=
  @instDecidableAnd _ _ _ (List.decidableBAll Readable v)

/-- A token after a reply: the first value under its own header replaces it, if it is legible. -/
def Fields.slotAfter (fields : Fields) (name old : String) : String :=
  match (Name.parse? name).bind fun n => (fields.values n).head? with
  | some v => if Legible v then asciiText v else old
  | none => old

/-- What can be read of a value and is not empty is its text, if it is legible. -/
theorem filter_text? (v : Bytes) :
    (Header.text? v).filter (· ≠ "") = if Legible v then some (asciiText v) else none := by
  have hread : v.all isTextByte = true ↔ ∀ b ∈ v, Readable b := by
    simp only [List.all_eq_true, isTextByte_iff]
  have hempty : asciiText v = "" ↔ v = [] := by
    rw [asciiText, ← String.toList_inj, String.toList_ofList, String.toList_empty,
      List.map_eq_nil_iff]
  rw [Header.text?]
  by_cases hv : ∀ b ∈ v, Readable b
  · rw [if_pos (hread.mpr hv), ← asciiText, Option.filter_some]
    by_cases he : v = []
    · have hd : ¬ decide (asciiText v ≠ "") = true :=
        fun h => of_decide_eq_true h (hempty.mpr he)
      rw [if_neg hd, if_neg fun h => h.1 he]
    · have hd : decide (asciiText v ≠ "") = true := decide_eq_true (mt hempty.mp he)
      rw [if_pos hd, if_pos ⟨he, hv⟩]
  · rw [if_neg (mt hread.mp hv), if_neg fun h => hv h.2, Option.filter_none]

/-- The text under a name is that of the first value, if it is legible. -/
theorem Fields.nonEmptyText?_eq (fields : Fields) (name : String) :
    fields.nonEmptyText? name = ((Name.parse? name).bind fun n => (fields.values n).head?).bind
      fun v => if Legible v then some (asciiText v) else none := by
  have hget : fields.get? = fun n => (fields.values n).head? := funext fields.get?_eq_head?
  rw [nonEmptyText?, text?, hget]
  cases (Name.parse? name).bind fun n => (fields.values n).head? with
  | none => rfl
  | some v => exact filter_text? v

/-- There is a text under a name just when the first value is legible. -/
theorem Fields.nonEmptyText?_eq_some_iff {fields : Fields} {name text : String} :
    fields.nonEmptyText? name = some text ↔ ∃ n v, Name.parse? name = some n ∧
      (fields.values n).head? = some v ∧ Legible v ∧ text = asciiText v := by
  rw [nonEmptyText?_eq, Option.bind_eq_some_iff]
  constructor
  · rintro ⟨v, hv, htext⟩
    obtain ⟨n, hn, hv⟩ := Option.bind_eq_some_iff.mp hv
    split at htext
    · next hl => exact ⟨n, v, hn, hv, hl, (Option.some.inj htext).symm⟩
    · cases htext
  · rintro ⟨n, v, hn, hv, hl, rfl⟩
    exact ⟨v, Option.bind_eq_some_iff.mpr ⟨n, hn, hv⟩, if_pos hl⟩

/-- What a session takes over from a header is what the header makes of the token. -/
theorem Fields.nonEmptyText?_getD (fields : Fields) (name old : String) :
    (fields.nonEmptyText? name).getD old = fields.slotAfter name old := by
  rw [nonEmptyText?_eq, slotAfter]
  cases (Name.parse? name).bind fun n => (fields.values n).head? with
  | none => rfl
  | some v =>
    rw [Option.bind_some]
    dsimp only
    split <;> rfl

/-- No reply takes a token away. -/
theorem Fields.slotAfter_ne_empty {old : String} (h : old ≠ "") (fields : Fields) (name : String) :
    fields.slotAfter name old ≠ "" := by
  rw [← nonEmptyText?_getD]
  cases hv : fields.nonEmptyText? name with
  | none => exact h
  | some text =>
    rw [nonEmptyText?] at hv
    exact of_decide_eq_true (Option.filter_eq_some_iff.mp hv).2

end Header

/-- The session after a reply: each token follows its own header. -/
def Session.after (names : HeaderNames) (s : Session) (d : Delivery) : Session :=
  { s with
    access := d.headers.slotAfter names.accessToken s.access
    refresh := d.headers.slotAfter names.refreshToken s.refresh
    csrf := d.headers.slotAfter names.csrfToken s.csrf }

/-- Taking over the tokens of a reply follows it. -/
theorem Session.capture_eq_after (names : HeaderNames) (s : Session) (d : Delivery) :
    s.capture names d.headers = s.after names d := by
  rw [capture, after, Header.Fields.nonEmptyText?_getD, Header.Fields.nonEmptyText?_getD,
    Header.Fields.nonEmptyText?_getD]

/-- What changes a session. -/
inductive SessionChange where
  /-- A reply was received. -/
  | reply (delivery : Delivery)
  /-- A logout succeeded. -/
  | logout
  /-- The program changed the session itself. -/
  | edit (change : Session → Session)

/-- The reply of a change. -/
def SessionChange.reply? : SessionChange → Option Delivery
  | .reply d => some d
  | _ => none

/-- The session after a change. -/
def Session.follow (names : HeaderNames) (s : Session) : SessionChange → Session
  | .reply d => s.after names d
  | .logout => ⟨s.baseUrl, s.userAgent, "", "", ""⟩
  | .edit change => change s

/-- The session after some changes, one after another. -/
def Session.replay (names : HeaderNames) (s : Session) (changes : List SessionChange) : Session :=
  changes.foldl (Session.follow names) s

/-- Changes after others. -/
theorem Session.replay_append (names : HeaderNames) (s : Session) (as bs : List SessionChange) :
    s.replay names (as ++ bs) = (s.replay names as).replay names bs := List.foldl_append

/-- The replies of changes. -/
def SessionChange.replies (changes : List SessionChange) : List Delivery :=
  changes.filterMap (·.reply?)

/-- The replies among joined changes. -/
theorem SessionChange.replies_append (as bs : List SessionChange) :
    replies (as ++ bs) = replies as ++ replies bs := List.filterMap_append

/-- The replies of replies. -/
@[simp] theorem SessionChange.replies_map (ds : List Delivery) :
    replies (ds.map .reply) = ds := by
  rw [replies, List.filterMap_map]
  exact List.filterMap_some

/-! ## Replies as the only changes -/

namespace World

/-- From one world to another, replies were received, and the session followed them and nothing else. -/
def Tracks (names : HeaderNames) (w w' : World) : Prop :=
  ∃ ds, w'.received = w.received ++ ds ∧ w'.session = w.session.replay names (ds.map .reply)

variable {names : HeaderNames} {w w' : World}

/-- Where neither the replies nor the session change, no reply was received. -/
theorem Tracks.of_eq (hr : w'.received = w.received) (hs : w'.session = w.session) :
    Tracks names w w' := ⟨[], by rw [hr, List.append_nil], hs⟩

instance (names : HeaderNames) : IsPreorder World (Tracks names) where
  refl w := .of_eq rfl rfl
  trans := by
    rintro a b c ⟨ds, hr, hs⟩ ⟨ds', hr', hs'⟩
    refine ⟨ds ++ ds', ?_, ?_⟩
    · rw [hr', hr, List.append_assoc]
    · rw [hs', hs, List.map_append, Session.replay_append]

/-- A dispatch follows the reply that it receives, even one that it cannot read. -/
theorem Dispatched.tracks {r : Request} {x : Except Error Response}
    (hd : Dispatched names r w x w') : Tracks names w w' := by
  obtain ⟨-, hr, hs⟩ | ⟨d, hr, hs, -⟩ := hd.unanswered_or_answered
  · exact .of_eq hr hs
  · rw [Session.capture_eq_after] at hs
    exact ⟨[d], hr, hs⟩

/-- Everything that a client is made of changes its session by replies only. -/
theorem tracks_moves (names : HeaderNames) : World.Moves names (Tracks names) where
  dispatch r w := (dispatched_dispatch names r w).tracks
  askCredentials w _ := .of_eq (received_askCredentials w) rfl
  save token w := .of_eq (received_save w token) rfl
  report e w := .of_eq (received_report w e) rfl

end World

/-! ## Operations -/

/-- The operation succeeded. -/
def Answer.succeeded : Except Error Answer → Bool
  | .ok _ => true
  | .error _ => false

/-- How an operation failed, if it did. -/
def Answer.failure? : Except Error Answer → Option Error
  | .error e => some e
  | .ok (.summary (.error e) _) => some e
  | .ok _ => none

/-- What an operation that received some replies does to the session: the replies change it, a logout
clears the tokens after its last reply if it succeeds, and a change of the program's own is made. -/
def Operation.changes (answer : Except Error Answer) (received : List Delivery) :
    Operation → List SessionChange
  | .update change => received.map .reply ++ [.edit change]
  | .logout => received.map .reply ++ if Answer.succeeded answer then [.logout] else []
  | _ => received.map .reply

/-- The replies among the changes of an operation are those that it received. -/
theorem Operation.replies_changes (op : Operation) (answer : Except Error Answer)
    (received : List Delivery) :
    SessionChange.replies (op.changes answer received) = received := by
  cases op with
  | update change =>
    rw [changes, SessionChange.replies_append, SessionChange.replies_map]
    exact List.append_nil received
  | logout =>
    rw [changes, SessionChange.replies_append, SessionChange.replies_map]
    cases Answer.succeeded answer <;> exact List.append_nil received
  | _ => exact SessionChange.replies_map received

/-- From one world to another, an operation received replies, and the session followed its changes. -/
def Operation.Follows (names : HeaderNames) (op : Operation) (w : World)
    (answer : Except Error Answer) (w' : World) : Prop :=
  ∃ ds, w'.received = w.received ++ ds ∧
    w'.session = w.session.replay names (op.changes answer ds)

/-- The world after its tokens were forgotten, the stored one included. -/
def World.forgotten (w : World) : World :=
  ((({ w with session := w.session.clearTokens } : World).save "").report .logoutSuccess)

namespace Client

/-- A logout fails where its request does or is answered by a failure, and otherwise forgets the tokens after
all that its request led to. -/
theorem logout_cases (c : Client) (w : World) :
    ∃ x w', c.send (.new .post c.endpoints.logout) w = (x, w') ∧
      ((∃ e, (∀ e', x = .error e' → e' = e) ∧ c.logout w = (.error e, w')) ∨
        ∃ r r', x = .ok r ∧ c.logout w = (.ok r', w'.forgotten)) := by
  obtain ⟨x, w', hx⟩ : ∃ x w', c.send (.new .post c.endpoints.logout) w = (x, w') := ⟨_, _, rfl⟩
  refine ⟨x, w', hx, ?_⟩
  cases x with
  | error e =>
    refine .inl ⟨e, fun _ he => (Except.error.inj he).symm, ?_⟩
    rw [logout, Run.bind_error hx]
  | ok response =>
    cases hr : response.toResult with
    | error e =>
      refine .inl ⟨e, fun _ he => (nomatch he), ?_⟩
      rw [logout, Run.bind_ok hx, hr, Run.bind_error (Run.ofResult_apply _ _)]
    | ok response' =>
      refine .inr ⟨response, response', rfl, ?_⟩
      rw [logout, Run.bind_ok hx, hr, Run.bind_ok (Run.ofResult_apply _ _)]
      rfl

/-- Every operation makes just its changes. -/
theorem follows_run (c : Client) (op : Operation) (w : World) :
    op.Follows c.names w (op.run c w).1 (op.run c w).2 := by
  have hm := World.tracks_moves c.names
  have respond {r : Run World Response} (hr : Run.Moves (World.Tracks c.names) r) :
      w.Tracks c.names (Operation.respond r w).2 := Run.Moves.bind hr (fun _ => .pure _) w
  have evaluate {r : Run World Json} (hr : Run.Moves (World.Tracks c.names) r) :
      w.Tracks c.names (Operation.evaluate r w).2 := Run.Moves.bind hr (fun _ => .pure _) w
  cases op with
  | update change => exact ⟨[], (List.append_nil _).symm, rfl⟩
  | send request => exact send_moves hm request w
  | call decoder request => exact evaluate (call_moves hm decoder request)
  | exchange decoder method path payload => exact evaluate (call_moves hm decoder _)
  | dispatch request => exact respond (hm.dispatch request)
  | login credentials => exact respond (login_moves hm.toSpeaks credentials)
  | prepare => exact respond (updateCsrfToken_moves hm.toSpeaks)
  | updateCsrfToken => exact respond (updateCsrfToken_moves hm.toSpeaks)
  | requestRefreshToken => exact respond (requestRefreshToken_moves hm.toSpeaks)
  | updateTokens => exact respond (updateTokens_moves hm.toSpeaks)
  | confirm previous code request => exact respond (send_moves hm _)
  | logout =>
    obtain ⟨x, w', hx, hcases⟩ := c.logout_cases w
    obtain ⟨ds, hr, hs⟩ := (send_moves hm _).of_eq hx
    rcases hcases with ⟨e, -, hrun⟩ | ⟨-, r, -, hrun⟩
    · have hop : Operation.run c .logout w = (.error e, w') := by
        rw [Operation.run, Operation.respond, Run.bind_error hrun]
      rw [hop]
      refine ⟨ds, hr, ?_⟩
      rw [hs, Operation.changes]
      simp only [Answer.succeeded, Bool.false_eq_true, if_false, List.append_nil]
    · have hop : Operation.run c .logout w = (.ok (.response r), w'.forgotten) := by
        rw [Operation.run, Operation.respond, Run.bind_ok hrun, Run.pure_apply]
      rw [hop]
      refine ⟨ds, ?_, ?_⟩
      · rw [World.forgotten, World.received_report, World.received_save]
        exact hr
      · rw [Operation.changes, Session.replay_append, ← hs]
        rfl

/-- Runs an operation whose caller may have given up already. -/
def turn (c : Client) (t : Bool × Operation) (w : World) : Except Error Answer × World :=
  t.2.run c (w.begin t.1)

/-- Runs operations one after another, whatever becomes of each of them. -/
def perform (c : Client) : List (Bool × Operation) → World → World
  | [], w => w
  | t :: ts, w => c.perform ts (c.turn t w).2

/-- The changes of operations, one after another. -/
def changes (c : Client) : List (Bool × Operation) → World → List SessionChange
  | [], _ => []
  | t :: ts, w =>
    t.2.changes (c.turn t w).1 ((c.turn t w).2.received.drop w.received.length) ++
      c.changes ts (c.turn t w).2

/-- The session after any operations is the replay of their changes, whose replies are those that were
received meanwhile. -/
theorem session_perform (c : Client) (turns : List (Bool × Operation)) (w : World) :
    (c.perform turns w).session = w.session.replay c.names (c.changes turns w) ∧
    (c.perform turns w).received =
      w.received ++ SessionChange.replies (c.changes turns w) := by
  induction turns generalizing w with
  | nil => exact ⟨rfl, (List.append_nil _).symm⟩
  | cons t ts ih =>
    obtain ⟨ds, hr, hs⟩ := c.follows_run t.2 (w.begin t.1)
    -- what is new among the replies is what the operation received
    have hdrop : (c.turn t w).2.received.drop w.received.length = ds := by
      have hr' : (c.turn t w).2.received = w.received ++ ds := hr
      rw [hr', List.drop_left]
    have hs' : (c.turn t w).2.session =
        w.session.replay c.names (t.2.changes (c.turn t w).1 ds) := hs
    obtain ⟨hsession, hreceived⟩ := ih (c.turn t w).2
    rw [perform, changes, hdrop]
    constructor
    · rw [hsession, hs', Session.replay_append]
    · rw [hreceived, SessionChange.replies_append, Operation.replies_changes, ← List.append_assoc]
      exact congrArg (· ++ _) hr

/-- The session is exactly the history of the replies received. Whatever a program asks of a client that
was set up with some settings, under any network and provider, the session is the replay, from the
address, the name of the client and the stored refresh token, of every reply received, in order, of the
logouts that succeeded and of the program's own changes. -/
theorem session_connect {settings : Settings} {provider : Provider} {replies : List Reply}
    {c : Client} {w : World} (h : connect settings provider replies = .ok (c, w))
    (proof : String → String → String) (turns : List (Bool × Operation)) :
    ∃ baseUrl, settings.normalizedUrl = .ok baseUrl ∧
      (({ c with proof } : Client).perform turns w).session =
        Session.replay settings.headers
          ⟨baseUrl, settings.userAgent.filter (· ≠ ""), "", provider.stored.getD "", ""⟩
          (({ c with proof } : Client).changes turns w) ∧
      (({ c with proof } : Client).perform turns w).received =
        SessionChange.replies (({ c with proof } : Client).changes turns w) := by
  rw [connect] at h
  cases hurl : settings.normalizedUrl with
  | error e =>
    rw [hurl] at h
    cases h
  | ok baseUrl =>
    rw [hurl] at h
    cases h
    have hstored : provider.refreshToken.getD "" = provider.stored.getD "" := by
      rw [Provider.refreshToken]
      cases provider.stored with
      | none => rfl
      | some token =>
        rw [Option.filter_some]
        by_cases ht : token = ""
        · subst ht
          rfl
        · rw [if_pos (decide_eq_true ht)]
    obtain ⟨hsession, hreceived⟩ := session_perform ({ ofSettings settings with proof } : Client)
      turns (World.report (.clientCreated baseUrl
        (firstSession baseUrl settings.userAgent provider).hasRefresh)
          ⟨firstSession baseUrl settings.userAgent provider, provider, replies, false, []⟩)
    refine ⟨baseUrl, rfl, ?_, hreceived⟩
    rw [← hstored]
    exact hsession

/-- A reply that brings an access token. -/
def granted : Reply := ⟨.ok ⟨200, [(⟨"x-auth-access-token"⟩, [0x74])], []⟩, .never⟩

/-- A client that resumes with a stored refresh token, and what it works on. -/
def resumed : Client × World :=
  (ofSettings (.new "https://a"), World.report (.clientCreated "https://a" true)
    ⟨⟨"https://a", none, "", "r", ""⟩, .inMemory none (some "r"), [granted], false, []⟩)

/-- A client that resumes with a refresh token, receives an access token and then fails to log out keeps
both. -/
theorem session_connect_resumed :
    connect (.new "https://a") (.inMemory none (some "r")) [granted] = .ok resumed ∧
    (resumed.1.perform [(false, .dispatch (.new .get "/")), (false, .logout)] resumed.2).session =
      ⟨"https://a", none, "t", "r", ""⟩ := by
  have hurl : (Settings.new "https://a").normalizedUrl = .ok "https://a" := by decide +kernel
  have h : connect (.new "https://a") (.inMemory none (some "r")) [granted] = .ok resumed := by
    rw [connect, hurl]
    rfl
  obtain ⟨baseUrl, hbase, hsession, -⟩ := session_connect h passwordProof
    [(false, .dispatch (.new .get "/")), (false, .logout)]
  cases hbase.symm.trans hurl
  refine ⟨h, hsession.trans ?_⟩
  decide +kernel

end Client

end SessionRecovery
