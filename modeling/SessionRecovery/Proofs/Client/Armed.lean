import SessionRecovery.Proofs.Client.Custody
import SessionRecovery.Proofs.Client.Resend
import SessionRecovery.Proofs.Session.Faults

/-!
# Tokens that can be sent

Which header values may become a token and which texts may be sent are two different rules. Every token that
a reply brings meets both, under any names of headers, and a session begins without the tokens that it sends.
So as long as the program does not change the session itself, no token is ever the reason why a request
cannot be built.
-/

namespace SessionRecovery

/-- The change is the program's own. -/
def SessionChange.edits : SessionChange → Bool
  | .edit _ => true
  | _ => false

/-- The changes of an operation that does not change the session itself are none of the program's own. -/
theorem Operation.edits_of_mem_changes {op : Operation} (he : op.edits = false)
    {answer : Except Error Answer} {received : List Delivery} {change : SessionChange}
    (hm : change ∈ op.changes answer received) : change.edits = false := by
  have hreply (h : change ∈ received.map .reply) : change.edits = false := by
    obtain ⟨d, -, rfl⟩ := List.mem_map.mp h
    rfl
  cases op with
  | update => cases he
  | logout =>
    rcases List.mem_append.mp hm with h | h
    · exact hreply h
    · split at h
      · rw [List.mem_singleton.mp h]
        rfl
      · cases h
  | _ => exact hreply hm

/-- The changes of operations that do not change the session themselves are none of the program's own. -/
theorem Client.edits_of_mem_changes {c : Client} {turns : List (Bool × Operation)} {w : World}
    (he : ∀ t ∈ turns, t.2.edits = false) {change : SessionChange}
    (hm : change ∈ c.changes turns w) : change.edits = false := by
  induction turns generalizing w with
  | nil => cases hm
  | cons t ts ih =>
    rcases List.mem_append.mp hm with h | h
    · exact Operation.edits_of_mem_changes (he t List.mem_cons_self) h
    · exact ih (fun u hu => he u (List.mem_cons_of_mem t hu)) h

namespace Session

variable {names : HeaderNames} {s : Session}

/-- Without tokens there is none that cannot be sent. -/
theorem armed_of_empty (ha : s.access = "") (hc : s.csrf = "") : s.Armed names :=
  ⟨fun h => absurd ha h, fun h => absurd hc h⟩

/-- A change that is not the program's own leaves tokens that can be sent. -/
theorem Armed.follow (hs : s.Armed names) {change : SessionChange} (he : change.edits = false) :
    (s.follow names change).Armed names := by
  cases change with
  | reply d =>
    rw [Session.follow, ← capture_eq_after]
    exact (carries_capture s names d.headers).armed hs
  | logout => exact armed_of_empty rfl rfl
  | edit change => cases he

/-- Changes that are not the program's own leave tokens that can be sent. -/
theorem Armed.replay (hs : s.Armed names) {changes : List SessionChange}
    (he : ∀ change ∈ changes, change.edits = false) : (s.replay names changes).Armed names := by
  induction changes generalizing s with
  | nil => exact hs
  | cons change rest ih =>
    exact ih (hs.follow (he change List.mem_cons_self)) fun other hm =>
      he other (List.mem_cons_of_mem change hm)

end Session

namespace Client

/-- The names of headers and the tokens with which a client begins. -/
theorem armed_connect {settings : Settings} {provider : Provider} {replies : List Reply}
    {c : Client} {w : World} (h : connect settings provider replies = .ok (c, w)) :
    c.names = settings.headers ∧ w.session.Armed settings.headers := by
  rw [connect] at h
  split at h
  · cases h
  · cases h
    exact ⟨rfl, Session.armed_of_empty rfl rfl⟩

/-- Tokens that were captured can always be sent. Whatever a program asks of a client but to change its
session, under any names of headers and whatever the network gives, the session is the replay of its
changes, and after any of them its tokens can be sent, so that building the headers of a request fails just
because of what the client calls itself or because of one of the caller's own headers. -/
theorem perform_armed {settings : Settings} {provider : Provider} {replies : List Reply}
    {c : Client} {w : World} (h : connect settings provider replies = .ok (c, w))
    (proof : String → String → String) {turns : List (Bool × Operation)}
    (he : ∀ t ∈ turns, t.2.edits = false) :
    let client : Client := { c with proof }
    (client.perform turns w).session =
      w.session.replay settings.headers (client.changes turns w) ∧
    ∀ seen, seen <+: client.changes turns w →
      let s := w.session.replay settings.headers seen
      s.Armed settings.headers ∧ ∀ extra fault,
        s.outboundHeaders settings.headers extra = .error fault ↔
          s.Blames settings.headers extra fault := by
  intro client
  obtain ⟨hnames, hfirst⟩ := armed_connect h
  have hsession := (session_perform client turns w).1
  rw [show client.names = settings.headers from hnames] at hsession
  refine ⟨hsession, fun seen hseen => ?_⟩
  have harmed : (w.session.replay settings.headers seen).Armed settings.headers :=
    hfirst.replay fun change hm => edits_of_mem_changes he (hseen.subset hm)
  exact ⟨harmed, fun extra fault => harmed.outboundHeaders_eq_error_iff⟩

/-- A client that received an access token, and could not log out, can send it, and cannot build a request
with a header that has no name. -/
theorem perform_armed_resumed :
    connect (.new "https://a") (.inMemory none (some "r")) [granted] = .ok resumed ∧
    (∀ t ∈ [(false, Operation.dispatch (.new .get "/")), (false, .logout)],
      t.2.edits = false) ∧
    (resumed.1.perform [(false, .dispatch (.new .get "/")), (false, .logout)] resumed.2).session =
      ⟨"https://a", none, "t", "r", ""⟩ ∧
    Session.Armed .standard ⟨"https://a", none, "t", "r", ""⟩ ∧
    Session.outboundHeaders ⟨"https://a", none, "t", "r", ""⟩ .standard [("", "v")] =
      .error (.name "") := by
  have hurl : (Settings.new "https://a").normalizedUrl = .ok "https://a" := by decide +kernel
  have h : connect (.new "https://a") (.inMemory none (some "r")) [granted] = .ok resumed := by
    rw [connect, hurl]
    rfl
  have he : ∀ t ∈ [(false, Operation.dispatch (.new .get "/")), (false, .logout)],
      t.2.edits = false := by decide
  obtain ⟨hsession, hall⟩ := perform_armed h passwordProof he
  obtain ⟨harmed, hfault⟩ := hall _ (List.prefix_refl _)
  have hlast : (resumed.1.perform [(false, .dispatch (.new .get "/")), (false, .logout)]
      resumed.2).session = ⟨"https://a", none, "t", "r", ""⟩ := by decide +kernel
  rw [hsession.symm.trans hlast] at harmed hfault
  exact ⟨h, he, hlast, harmed, (hfault _ _).mpr (.header nofun (.here (.name (by decide))))⟩

end Client

end SessionRecovery
