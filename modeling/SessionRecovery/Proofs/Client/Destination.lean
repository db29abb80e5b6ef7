import SessionRecovery.Proofs.Client.Custody
import SessionRecovery.Proofs.Client.Resend
import SessionRecovery.Proofs.Settings.BaseUrl
import SessionRecovery.Proofs.Url.Destination

/-!
# Where requests go

The URL of a request is the text of the base URL, the path as it was given, and the query. Nothing looks at
the path, so the scheme always stays, but the authority stays only where something ends it: the base URL goes
on after its authority, or the path begins with a slash, a question mark or a number sign.
-/

namespace SessionRecovery

/-- A query only adds to a URL: after a question mark, or after one that is there. -/
theorem withQuery_toList (url : String) (query : Option String) :
    ∃ more, (withQuery url query).toList = url.toList ++ more ∧
      ('?' ∉ url.toList → ∀ c, more.head? = some c → c = '?') := by
  cases query with
  | none => exact ⟨[], by simp [withQuery], fun _ _ h => (nomatch h)⟩
  | some q =>
    rw [withQuery]
    split
    · next hq =>
      exact ⟨'&' :: q.toList, by simp [String.toList_append], fun h => absurd hq h⟩
    · exact ⟨'?' :: q.toList, by simp [String.toList_append], fun _ c h => by simpa using h.symm⟩

/-- The text that all paths follow begins with one of two schemes. -/
theorem Settings.exists_scheme_of_normalizeUrl {address base : String}
    (h : normalizeUrl address = .ok base) :
    ∃ scheme rest, scheme ∈ ["http".toList, "https".toList] ∧
      base.toList = scheme ++ "://".toList ++ rest :=
  namesScheme_iff.mp (isBase_of_normalizeUrl h).namesScheme

namespace Session

open Destination

variable {address base : String} {s : Session} {names : HeaderNames} {r : Request} {o : Outbound}

/-- A request has the scheme of the base URL, and its authority just when the base URL goes on after it or the
path does not go on with it. -/
theorem destination_of_outbound (hbase : Settings.normalizeUrl address = .ok base)
    (hs : s.baseUrl = base) (ho : s.outbound names r = .ok o) :
    (ofUrl o.url).scheme = (ofUrl base).scheme ∧
    ((ofUrl o.url).authority = (ofUrl base).authority ↔ Closed base ∨ Rooted r.path) := by
  obtain ⟨scheme, rest, hscheme, htext⟩ := Settings.exists_scheme_of_normalizeUrl hbase
  have hcolon : ':' ∉ scheme := (by decide : ∀ l ∈ ["http".toList, "https".toList], ':' ∉ l) _ hscheme
  have hmark : '?' ∉ scheme ++ "://".toList :=
    (by decide : ∀ l ∈ ["http".toList, "https".toList], '?' ∉ l ++ "://".toList) _ hscheme
  obtain ⟨query, headers, -, -, rfl⟩ := outbound_eq_ok_iff.mp ho
  obtain ⟨more, hmore, hfirst⟩ := withQuery_toList (s.url r.path) query
  have hurl : (s.url r.path).toList = scheme ++ "://".toList ++ (rest ++ r.path.toList) := by
    rw [url, hs, String.toList_append, htext, List.append_assoc]
  have hcut : cut (withQuery (s.url r.path) query).toList =
      (scheme, rest ++ (r.path.toList ++ more)) := by
    rw [hmore, hurl, List.append_assoc _ _ more, cut_scheme hcolon, List.append_assoc]
  have hcutBase : cut base.toList = (scheme, rest) := by rw [htext, cut_scheme hcolon]
  simp only [ofUrl, Closed, Rooted, hcut, hcutBase, takeWhile_append_eq_iff, true_and]
  refine or_congr_right' fun hopen => ?_
  cases hpath : r.path.toList with
  | cons c cs => rfl
  | nil =>
    -- without a path, what follows is the query, whose mark is new
    have hnew : '?' ∉ (s.url r.path).toList := by
      rw [hurl, hpath, List.append_nil, List.mem_append, not_or]
      exact ⟨hmark, fun hm => hopen ⟨_, hm, rfl⟩⟩
    refine iff_of_true (fun c hc => ?_) ?_
    · rw [hfirst hnew c hc]
      rfl
    · rintro c ⟨⟩

/-- A path that goes on with the host of a base URL leads elsewhere, and the access token goes with it. -/
theorem destination_strays :
    Settings.normalizeUrl "https://api.test" = .ok "https://api.test" ∧
    (ofUrl "https://api.test").authority = "api.test".toList ∧
    ∃ o, outbound ⟨"https://api.test", none, "a", "", ""⟩ .standard (.new .get "@evil.test/x") =
        .ok o ∧
      (ofUrl o.url).authority = "api.test@evil.test".toList ∧
      o.headers.values ⟨"x-auth-access-token"⟩ = [[0x61]] := by
  refine ⟨by decide +kernel, by decide +kernel, _, rfl, ?_, ?_⟩ <;> decide +kernel

end Session

namespace World

open Destination

variable {address base : String} {names : HeaderNames} {w : World}

/-- Whatever request a session with a base URL sends, the URL that is handed to the network has the scheme of
the base URL, and has its authority just when the base URL goes on after it, or the path is empty or begins
with a character that ends it. -/
theorem dispatch_destination (hbase : Settings.normalizeUrl address = .ok base)
    (hw : w.session.baseUrl = base) (names : HeaderNames) (r : Request) :
    ∃ os, (dispatch names r w).2.sent = w.sent ++ os ∧ ∀ o ∈ os,
      (ofUrl o.url).scheme = (ofUrl base).scheme ∧
      ((ofUrl o.url).authority = (ofUrl base).authority ↔ Closed base ∨ Rooted r.path) := by
  refine ⟨_, (dispatched_dispatch names r w).sent_eq, fun o ho => ?_⟩
  obtain ⟨-, hbuilt⟩ := handed?_eq_some_iff.mp (Option.mem_toList.mp ho)
  exact Session.destination_of_outbound hbase hw hbuilt

/-- A request with a path that begins with a slash goes to the host of the base URL. -/
theorem dispatch_destination_rooted :
    Settings.normalizeUrl "https://api.test/" = .ok "https://api.test" ∧
    ∃ o, (dispatch .standard (.new .get "/x") ⟨⟨"https://api.test", none, "a", "", ""⟩,
        .inMemory none none, [], false, []⟩).2.sent = [o] ∧ o.url = "https://api.test/x" ∧
      (ofUrl o.url).authority = (ofUrl "https://api.test").authority := by
  have hbase : Settings.normalizeUrl "https://api.test/" = .ok "https://api.test" := by
    decide +kernel
  obtain ⟨os, hsent, hall⟩ := dispatch_destination (w := ⟨⟨"https://api.test", none, "a", "", ""⟩,
    .inMemory none none, [], false, []⟩) hbase rfl .standard (.new .get "/x")
  have hone : (dispatch .standard (.new .get "/x") ⟨⟨"https://api.test", none, "a", "", ""⟩,
      .inMemory none none, [], false, []⟩).2.sent =
        [⟨.get, "https://api.test/x", [(⟨"x-auth-access-token"⟩, [0x61])], none⟩] := by
    decide +kernel
  have hos : _ = os := hone.symm.trans hsent
  subst hos
  have hrooted : Rooted "/x" := fun c hc => by
    cases hc
    rfl
  exact ⟨hbase, _, hone, rfl, (hall _ List.mem_cons_self).2.mpr (.inr hrooted)⟩

/-- From one world to another, a session with a base URL keeps it, and builds every request that is handed over
meanwhile. -/
def StaysAt (names : HeaderNames) (base : String) (w w' : World) : Prop :=
  w.session.baseUrl = base → w'.session.baseUrl = base ∧ ∃ os, w'.sent = w.sent ++ os ∧
    ∀ o ∈ os, ∃ s r, Session.baseUrl s = base ∧ s.outbound names r = .ok o

/-- Where neither the base URL nor the requests change, the session stays. -/
theorem StaysAt.of_eq {w' : World} (hb : w'.session.baseUrl = w.session.baseUrl)
    (hs : w'.sent = w.sent) : w.StaysAt names base w' :=
  fun hw => ⟨hb.trans hw, [], by rw [hs, List.append_nil], fun _ h => (nomatch h)⟩

instance (names : HeaderNames) (base : String) : IsPreorder World (StaysAt names base) where
  refl w := .of_eq rfl rfl
  trans := by
    intro a b c hab hbc ha
    obtain ⟨hb, os, hos, hbuilt⟩ := hab ha
    obtain ⟨hc, os', hos', hbuilt'⟩ := hbc hb
    refine ⟨hc, os ++ os', by rw [hos', hos, List.append_assoc], fun o ho => ?_⟩
    exact (List.mem_append.mp ho).elim (hbuilt o) (hbuilt' o)

/-- Everything that a client is made of stays at its base URL. -/
theorem staysAt_moves (names : HeaderNames) (base : String) :
    World.Moves names (StaysAt names base) where
  dispatch r w hw := by
    have hd := dispatched_dispatch names r w
    refine ⟨?_, _, hd.sent_eq, fun o ho => ?_⟩
    · obtain ⟨-, -, hs⟩ | ⟨d, -, hs, -⟩ := hd.unanswered_or_answered
      · rw [hs, hw]
      · rw [hs]
        exact hw
    · exact ⟨_, r, hw, (handed?_eq_some_iff.mp (Option.mem_toList.mp ho)).2⟩
  askCredentials w _ := .of_eq rfl (sent_askCredentials w)
  save token w := .of_eq rfl (sent_save w token)
  report e w := .of_eq rfl (sent_report w e)

end World

namespace Client

open Destination

variable {settings : Settings} {provider : Provider} {replies : List Reply} {c : Client}
  {w : World} {base : String}

/-- A client begins with the base URL of its settings, and has sent nothing. -/
theorem baseUrl_connect (h : connect settings provider replies = .ok (c, w)) :
    settings.normalizedUrl = .ok w.session.baseUrl ∧ w.sent = [] := by
  rw [connect] at h
  cases hurl : settings.normalizedUrl with
  | error e =>
    rw [hurl] at h
    cases h
  | ok base =>
    rw [hurl] at h
    cases h
    exact ⟨rfl, rfl⟩

/-- Over its whole life, a client whose base URL goes on after its authority sends every request to the scheme
and the authority of its base URL, whatever the paths are. -/
theorem perform_destination (h : connect settings provider replies = .ok (c, w))
    (proof : String → String → String) {turns : List (Bool × Operation)}
    (he : ∀ t ∈ turns, t.2.edits = false) (hclosed : Closed w.session.baseUrl) :
    ∀ o ∈ (({ c with proof } : Client).perform turns w).sent,
      ofUrl o.url = ofUrl w.session.baseUrl := by
  obtain ⟨hbase, hnone⟩ := baseUrl_connect h
  have hm := (World.staysAt_moves ({ c with proof } : Client).names w.session.baseUrl).toRetains
  have hstays : w.StaysAt _ w.session.baseUrl (({ c with proof } : Client).perform turns w) :=
    perform_retains hm (fun v => .of_eq rfl (World.sent_forgotten v)) (fun _ _ => .of_eq rfl rfl) he
  obtain ⟨-, os, hos, hbuilt⟩ := hstays rfl
  intro o ho
  rw [hos, hnone, List.nil_append] at ho
  obtain ⟨s, r, hs, ho⟩ := hbuilt o ho
  obtain ⟨hscheme, hauthority⟩ := Session.destination_of_outbound hbase hs ho
  exact Destination.ext hscheme (hauthority.mpr (.inl hclosed))

end Client

end SessionRecovery
