import Mathlib.Data.List.TakeWhile
import SessionRecovery.Proofs.Client.Resend
import SessionRecovery.Proofs.Text.Utf8

/-!
# Queries read back

The payload of a reading or removing call is refused only where a query has no place for it. Otherwise the
query holds the keys and texts of the payload and nothing else: splitting it at its marks and resolving its
escapes gives them back, and the URL that it is put behind keeps its own text and its own parameters.
-/

namespace SessionRecovery.Query

/-! ## What a payload holds -/

/-- The value holds others. -/
def nests : Json → Bool
  | .arr _ => true
  | .obj _ => true
  | _ => false

/-- A payload has no place in a query, and a fault says why. -/
inductive Refused : Json → Fault → Prop where
  /-- It is neither null nor an object. -/
  | payload {j : Json} (hnull : j ≠ .null) (hobject : ∀ ms, j ≠ .obj ms) :
    Refused j (.payload (kindWords j))
  /-- A member of it is an object. -/
  | member {ms inner : List (String × Json)} {key : String} (h : (key, .obj inner) ∈ ms) :
    Refused (.obj ms) (.parameter key (kindWords (.obj inner)))
  /-- A member of it is an array with an item that holds others. -/
  | item {ms : List (String × Json)} {key : String} {items : List Json} {j : Json}
    (h : (key, .arr items) ∈ ms) (hj : j ∈ items) (hnests : nests j = true) :
    Refused (.obj ms) (.parameter key (kindWords j))

/-- The text of a scalar other than null: a text itself, and what JSON writes for the others. -/
def text? : Json → Option String
  | .str s => some s
  | .bool b => some (Json.bool b).render
  | .num n => some (Json.num n).render
  | _ => none

/-- The texts of a member: its own, or those of its items. -/
def texts : Json → List String
  | .arr items => items.filterMap text?
  | j => (text? j).toList

/-- The keys and texts of a payload. -/
def contents : Json → List (String × String)
  | .obj ms => ms.flatMap fun m => (texts m.2).map (m.1, ·)
  | _ => []

/-- The texts of a member are those of the values that it contributes. -/
theorem texts_eq (j : Json) : texts j = (memberValues j).filterMap text? := by
  cases j <;> simp [texts, memberValues, text?]

/-- An object is refused for a member's value that holds others. -/
theorem refused_obj_iff {ms : List (String × Json)} {f : Fault} : Refused (.obj ms) f ↔
    ∃ m ∈ ms, ∃ j ∈ memberValues m.2, nests j = true ∧ f = .parameter m.1 (kindWords j) := by
  constructor
  · intro h
    cases h with
    | payload _ hobject => exact absurd rfl (hobject ms)
    | member h => exact ⟨_, h, _, List.mem_cons_self, rfl, rfl⟩
    | item h hj hnests => exact ⟨_, h, _, hj, hnests, rfl⟩
  · rintro ⟨⟨key, value⟩, hm, j, hj, hnests, rfl⟩
    cases value with
    | arr items => exact .item hm hj hnests
    | obj inner =>
      cases List.mem_singleton.mp hj
      exact .member hm
    | null | bool | num | str =>
      cases List.mem_singleton.mp hj
      cases hnests

/-- The keys of a payload in normal form stand in the order of their bytes. -/
theorem pairwise_contents {j : Json} (h : j.normalize = j) :
    ((contents j).map fun p => Utf8.encode p.1).Pairwise (· ≤ ·) := by
  cases j with
  | obj ms =>
    have hascending : Ascending ms := by
      rw [Json.normalize] at h
      rw [← Json.obj.inj h]
      exact ascending_collect _
    rw [contents, List.pairwise_map, List.pairwise_flatMap]
    refine ⟨fun m _ => ?_, hascending.imp fun hlt p hp q hq => ?_⟩
    · rw [List.pairwise_map]
      exact List.pairwise_of_forall fun _ _ => List.le_refl _
    · obtain ⟨_, -, rfl⟩ := List.mem_map.mp hp
      obtain ⟨_, -, rfl⟩ := List.mem_map.mp hq
      exact List.le_of_lt (Utf8.encode_lt_encode hlt)
  | null | bool | num | str | arr => exact .nil

/-! ## The pairs of a payload -/

/-- A value gives its text, or is refused. -/
theorem scalar_eq (key : String) (j : Json) : scalar key j =
    if nests j = true then .error (.parameter key (kindWords j)) else .ok (text? j) := by
  cases j <;> rfl

/-- The values of a key give the pairs of their texts, or one of them is refused. -/
theorem valuePairs_cases (key : String) (js : List Json) :
    (∃ j ∈ js, nests j = true ∧ valuePairs key js = .error (.parameter key (kindWords j))) ∨
      (∀ j ∈ js, nests j = false) ∧ valuePairs key js = .ok ((js.filterMap text?).map (key, ·)) := by
  induction js with
  | nil => exact .inr ⟨nofun, rfl⟩
  | cons j js ih =>
    rw [valuePairs, scalar_eq]
    cases hj : nests j with
    | true => exact .inl ⟨j, List.mem_cons_self, hj, rfl⟩
    | false =>
      obtain ⟨i, hi, hnests, heq⟩ | ⟨hplain, heq⟩ := ih
      · exact .inl ⟨i, List.mem_cons_of_mem _ hi, hnests, by rw [heq]; rfl⟩
      · refine .inr ⟨List.forall_mem_cons.mpr ⟨hj, hplain⟩, ?_⟩
        rw [heq, List.filterMap_cons]
        cases text? j <;> rfl

/-- Members give the pairs of their texts, or a value of one of them is refused. -/
theorem memberPairs_cases (ms : List (String × Json)) :
    (∃ m ∈ ms, ∃ j ∈ memberValues m.2, nests j = true ∧
      memberPairs ms = .error (.parameter m.1 (kindWords j))) ∨
    (∀ m ∈ ms, ∀ j ∈ memberValues m.2, nests j = false) ∧
      memberPairs ms = .ok (contents (.obj ms)) := by
  induction ms with
  | nil => exact .inr ⟨nofun, rfl⟩
  | cons m ms ih =>
    obtain ⟨key, value⟩ := m
    rw [memberPairs]
    obtain ⟨j, hj, hnests, heq⟩ | ⟨hplain, heq⟩ := valuePairs_cases key (memberValues value)
    · exact .inl ⟨_, List.mem_cons_self, j, hj, hnests, by rw [heq]; rfl⟩
    · obtain ⟨m, hm, j, hj, hnests, hrest⟩ | ⟨hplains, hrest⟩ := ih
      · exact .inl ⟨m, List.mem_cons_of_mem _ hm, j, hj, hnests, by rw [heq, hrest]; rfl⟩
      · refine .inr ⟨List.forall_mem_cons.mpr ⟨hplain, hplains⟩, ?_⟩
        have hcontents : contents (.obj ((key, value) :: ms)) =
            ((memberValues value).filterMap text?).map (key, ·) ++ contents (.obj ms) := by
          rw [contents, contents, List.flatMap_cons, texts_eq]
        rw [heq, hrest, hcontents]
        rfl

/-- A payload is refused for a fault that it has, or it has none and gives its keys and texts. -/
theorem pairs_cases (j : Json) : (∃ f, Refused j f ∧ pairs j = .error f) ∨
    (∀ f, ¬ Refused j f) ∧ pairs j = .ok (contents j) := by
  cases j with
  | null => exact .inr ⟨fun f h => by cases h; contradiction, rfl⟩
  | obj ms =>
    obtain ⟨m, hm, j, hj, hnests, heq⟩ | ⟨hplain, heq⟩ := memberPairs_cases ms
    · exact .inl ⟨_, refused_obj_iff.mpr ⟨m, hm, j, hj, hnests, rfl⟩, heq⟩
    · refine .inr ⟨fun f h => ?_, heq⟩
      obtain ⟨m, hm, j, hj, hnests, -⟩ := refused_obj_iff.mp h
      exact Bool.false_ne_true ((hplain m hm j hj).symm.trans hnests)
  | bool | num | str | arr => exact .inl ⟨_, .payload nofun nofun, rfl⟩

/-! ## The characters of a query -/

/-- A letter, a digit, or one of four others. -/
def Unreserved (c : Char) : Prop := c.isAlphanum = true ∨ c ∈ ['-', '_', '.', '~']

instance (c : Char) : Decidable (Unreserved c) := inferInstanceAs (Decidable (_ ∨ _))

/-- A digit of an escape. -/
def EscapeDigit (c : Char) : Prop := '0' ≤ c ∧ c ≤ '9' ∨ 'A' ≤ c ∧ c ≤ 'F'

instance (c : Char) : Decidable (EscapeDigit c) := inferInstanceAs (Decidable (_ ∨ _))

/-- A text of unreserved characters, escapes and the two marks. -/
inductive Spelled : List Char → Prop where
  /-- The empty text. -/
  | nil : Spelled []
  /-- One character more that stands for itself. -/
  | plain {c : Char} {cs : List Char} (hc : Unreserved c) (h : Spelled cs) : Spelled (c :: cs)
  /-- One escape more. -/
  | escape {high low : Char} {cs : List Char} (hhigh : EscapeDigit high) (hlow : EscapeDigit low)
    (h : Spelled cs) : Spelled ('%' :: high :: low :: cs)
  /-- One mark more. -/
  | mark {c : Char} {cs : List Char} (hc : c = '=' ∨ c = '&') (h : Spelled cs) : Spelled (c :: cs)

/-- A byte that stands for itself is an unreserved character. -/
theorem unreserved_read : ∀ n < 0x100, isUnreserved (UInt8.ofNat n) = true →
    Unreserved (Char.ofNat n) ∧ (Char.ofNat n).toNat = n ∧ n < 0x80 := by
  decide +kernel

/-- A hexadecimal digit of an escape has its value. -/
theorem upperHexDigit_read : ∀ n < 0x10, EscapeDigit (Bytes.upperHexDigit n) ∧
    hexValue? (Bytes.upperHexDigit n) = some n := by
  decide +kernel

/-- What begins an escape or is a mark is not unreserved. -/
theorem Unreserved.ne {c : Char} (h : Unreserved c) : c ≠ '%' ∧ c ≠ '=' ∧ c ≠ '&' := by
  refine ⟨?_, ?_, ?_⟩ <;>
  · rintro rfl
    revert h
    decide

/-- A mark is no digit. -/
theorem EscapeDigit.ne {c : Char} (h : EscapeDigit c) : c ≠ '=' ∧ c ≠ '&' := by
  refine ⟨?_, ?_⟩ <;>
  · rintro rfl
    revert h
    decide

/-- A byte is encoded as itself, which is unreserved then, or as an escape. -/
theorem encodeByte_cases (b : UInt8) :
    (∃ c : Char, encodeByte b = [c] ∧ Unreserved c ∧ c.toNat < 0x80 ∧ UInt8.ofNat c.toNat = b) ∨
    ∃ high low, encodeByte b = ['%', high, low] ∧ EscapeDigit high ∧ EscapeDigit low ∧
      hexValue? high = some (b.toNat / 16) ∧ hexValue? low = some (b.toNat % 16) := by
  have hb : b.toNat < 0x100 := b.toNat_lt
  rw [encodeByte]
  split
  · next h =>
    obtain ⟨hc, hcode, hsmall⟩ := unreserved_read b.toNat hb (by rw [UInt8.ofNat_toNat]; exact h)
    exact .inl ⟨_, rfl, hc, by rw [hcode]; exact hsmall, by rw [hcode, UInt8.ofNat_toNat]⟩
  · obtain ⟨hhigh, hhighValue⟩ := upperHexDigit_read (b.toNat / 16) (by omega)
    obtain ⟨hlow, hlowValue⟩ := upperHexDigit_read (b.toNat % 16) (by omega)
    exact .inr ⟨_, _, rfl, hhigh, hlow, hhighValue, hlowValue⟩

/-- An encoded text can stand before any other. -/
theorem Spelled.encode (s : String) {cs : List Char} (h : Spelled cs) :
    Spelled (Query.encode s ++ cs) := by
  rw [Query.encode]
  induction Utf8.encode s with
  | nil => exact h
  | cons b bs ih =>
    rw [List.flatMap_cons, List.append_assoc]
    obtain ⟨c, heq, hc, -, -⟩ | ⟨high, low, heq, hhigh, hlow, -, -⟩ := encodeByte_cases b
    · rw [heq]
      exact .plain hc ih
    · rw [heq]
      exact .escape hhigh hlow ih

/-- The marks do not stand in an encoded text. -/
theorem ne_mark_of_mem_encode {s : String} {c : Char} (h : c ∈ encode s) : c ≠ '=' ∧ c ≠ '&' := by
  obtain ⟨b, -, hc⟩ := List.mem_flatMap.mp h
  obtain ⟨d, heq, hd, -, -⟩ | ⟨high, low, heq, hhigh, hlow, -, -⟩ := encodeByte_cases b
  · rw [heq, List.mem_singleton] at hc
    rw [hc]
    exact hd.ne.2
  · rw [heq, List.mem_cons, List.mem_cons, List.mem_singleton] at hc
    obtain rfl | rfl | rfl := hc
    · decide
    · exact hhigh.ne
    · exact hlow.ne

/-- The pairs of a query are spelled with its characters. -/
theorem spelled_render (ps : List (String × String)) : Spelled (render ps) := by
  have hpair (p : String × String) {cs : List Char} (h : Spelled cs) :
      Spelled (renderPair p ++ cs) := by
    rw [renderPair, List.append_assoc]
    exact .encode p.1 (.mark (.inl rfl) (.encode p.2 h))
  rw [render]
  induction ps with
  | nil => exact .nil
  | cons p ps ih =>
    cases ps with
    | nil =>
      have hlast : Spelled (renderPair p ++ []) := hpair p .nil
      simpa [List.intercalate_singleton] using hlast
    | cons q ps =>
      rw [List.map_cons, List.map_cons, List.intercalate_cons_cons, List.append_assoc]
      exact hpair p (.mark (.inr rfl) ih)

/-! ## Reading a query -/

/-- The texts on both sides of the first equals sign. -/
def readPair (cs : List Char) : Option (String × String) :=
  match cs.dropWhile (· != '=') with
  | [] => none
  | _ :: value => do
    let key ← decode (cs.takeWhile (· != '='))
    let text ← decode value
    some (key, text)

/-- The pairs between the ampersands. -/
def read (query : String) : Option (List (String × String)) :=
  (query.toList.splitOn '&').mapM readPair

/-- A text is cut at the first place of a character. -/
theorem cut_at {c : Char} {cs : List Char} (h : c ∉ cs) (rest : List Char) :
    (cs ++ c :: rest).takeWhile (· != c) = cs ∧ (cs ++ c :: rest).dropWhile (· != c) = c :: rest := by
  have hne : ∀ d ∈ cs, (d != c) = true := fun d hd => bne_iff_ne.mpr fun heq => h (heq ▸ hd)
  have hstop : (c != c) = false := bne_self_eq_false c
  rw [List.takeWhile_append_of_pos hne, List.dropWhile_append_of_pos hne, List.takeWhile_cons,
    List.dropWhile_cons, hstop]
  exact ⟨List.append_nil cs, rfl⟩

/-- An encoded byte is decoded to it, whatever follows. -/
theorem decodeBytes_encodeByte (b : UInt8) (rest : List Char) :
    decodeBytes (encodeByte b ++ rest) = (decodeBytes rest).map (b :: ·) := by
  obtain ⟨c, heq, hc, hsmall, hcode⟩ | ⟨high, low, heq, -, -, hhigh, hlow⟩ := encodeByte_cases b
  · have hplain : ¬ (c = '%' ∨ 0x80 ≤ c.toNat) := not_or.mpr ⟨hc.ne.1, by omega⟩
    rw [heq, List.singleton_append, decodeBytes.eq_def]
    split
    · next h => cases h
    · next h => exact absurd (List.cons.inj h).1 hc.ne.1
    · next h =>
      cases h
      rw [if_neg hplain, hcode]
      cases decodeBytes rest <;> rfl
  · have hbyte : UInt8.ofNat (b.toNat / 16 * 16 + b.toNat % 16) = b := by
      rw [Nat.div_add_mod', UInt8.ofNat_toNat]
    rw [heq, List.cons_append, List.cons_append, List.cons_append, List.nil_append, decodeBytes,
      hhigh, hlow]
    simp only [Option.bind_eq_bind, Option.bind_some, hbyte]
    cases decodeBytes rest <;> rfl

/-- An encoded text is decoded to it. -/
theorem decode_encode (s : String) : decode (encode s) = some s := by
  have hbytes : ∀ bs : Bytes, decodeBytes (bs.flatMap encodeByte) = some bs := by
    intro bs
    induction bs with
    | nil => rfl
    | cons b bs ih => rw [List.flatMap_cons, decodeBytes_encodeByte, ih, Option.map_some]
  rw [decode, encode, hbytes, Option.bind_some, Utf8.decode?_encode]

/-- A pair is read back. -/
theorem readPair_renderPair (p : String × String) : readPair (renderPair p) = some p := by
  have hmark : '=' ∉ encode p.1 := fun h => (ne_mark_of_mem_encode h).1 rfl
  obtain ⟨hkey, htext⟩ := cut_at hmark (encode p.2)
  rw [readPair, renderPair, hkey, htext]
  simp [decode_encode]

/-- Pairs are read back. -/
theorem read_render {ps : List (String × String)} (h : ps ≠ []) :
    read (String.ofList (render ps)) = some ps := by
  have hmark : ∀ cs ∈ ps.map renderPair, '&' ∉ cs := by
    intro cs hcs hmem
    obtain ⟨p, -, rfl⟩ := List.mem_map.mp hcs
    rw [renderPair, List.mem_append, List.mem_cons] at hmem
    obtain hkey | heq | htext := hmem
    · exact (ne_mark_of_mem_encode hkey).2 rfl
    · revert heq
      decide
    · exact (ne_mark_of_mem_encode htext).2 rfl
  have hne : ps.map renderPair ≠ [] := fun hnil => h (List.map_eq_nil_iff.mp hnil)
  rw [read, String.toList_ofList, render, List.splitOn_intercalate '&' hmark hne]
  clear h hmark hne
  induction ps with
  | nil => rfl
  | cons p ps ih => simp [List.mapM_cons, readPair_renderPair, ih]

/-- A query conveys pairs. -/
structure Conveys (query : Option String) (ps : List (String × String)) : Prop where
  /-- Without pairs, and only then, there is none. -/
  none_iff : query = none ↔ ps = []
  /-- It has only the characters of a query. -/
  spelled : ∀ q ∈ query, Spelled q.toList
  /-- It is read as the pairs. -/
  read : ∀ q ∈ query, Query.read q = some ps

/-- The query of a payload is refused for a fault of the payload, or conveys its keys and texts. -/
theorem ofPayload_cases (j : Json) : (∃ f, Refused j f ∧ ofPayload j = .error f) ∨
    (∀ f, ¬ Refused j f) ∧ ∃ query, ofPayload j = .ok query ∧ Conveys query (contents j) := by
  obtain ⟨f, hf, heq⟩ | ⟨hnone, heq⟩ := pairs_cases j
  · exact .inl ⟨f, hf, by rw [ofPayload, heq]; rfl⟩
  · refine .inr ⟨hnone, _, by rw [ofPayload, heq]; rfl, ?_⟩
    cases hps : contents j with
    | nil => exact ⟨by simp, nofun, nofun⟩
    | cons p ps =>
      refine ⟨by simp, ?_, ?_⟩
      · rintro q ⟨⟩
        rw [String.toList_ofList]
        exact spelled_render _
      · rintro q ⟨⟩
        exact read_render (List.cons_ne_nil p ps)

/-! ## The query in a URL -/

/-- What stands before the first question mark of a URL. -/
def before (url : String) : List Char := url.toList.takeWhile (· != '?')

/-- What stands after it. -/
def after (url : String) : List Char := (url.toList.dropWhile (· != '?')).drop 1

/-- What stands between ampersands, where something does. -/
def segments (cs : List Char) : List (List Char) :=
  (cs.splitOn '&').filter fun part => !part.isEmpty

/-- What follows an ampersand makes segments of its own. -/
theorem segments_append (cs ds : List Char) :
    segments (cs ++ '&' :: ds) = segments cs ++ segments ds := by
  have hsplit : (cs ++ '&' :: ds).splitOn '&' = cs.splitOn '&' ++ ds.splitOn '&' :=
    List.splitOnP_append_cons cs ds (beq_self_eq_true '&')
  rw [segments, hsplit, List.filter_append, segments, segments]

/-- A query is put after the first question mark, behind the segments that are there. -/
theorem withQuery_splits (url : String) (query : Option String) :
    before (withQuery url query) = before url ∧
      segments (after (withQuery url query)) =
        segments (after url) ++ query.toList.flatMap fun q => segments q.toList := by
  cases query with
  | none => exact ⟨rfl, (List.append_nil _).symm⟩
  | some q =>
    rw [withQuery, Option.toList_some, List.flatMap_singleton]
    split
    · next hmark =>
      obtain ⟨cs, rest, hurl, hcs⟩ := List.eq_append_cons_of_mem hmark
      have hlonger : (url ++ "&" ++ q).toList = cs ++ '?' :: (rest ++ '&' :: q.toList) := by
        rw [String.toList_append, String.toList_append, hurl, List.append_assoc, List.append_assoc]
        rfl
      rw [before, before, after, after, hlonger, hurl, (cut_at hcs _).1, (cut_at hcs _).1,
        (cut_at hcs _).2, (cut_at hcs _).2]
      exact ⟨rfl, segments_append rest q.toList⟩
    · next hmark =>
      have hlonger : (url ++ "?" ++ q).toList = url.toList ++ '?' :: q.toList := by
        rw [String.toList_append, String.toList_append, List.append_assoc]
        rfl
      have hplain : ∀ c ∈ url.toList, (c != '?') = true :=
        fun c hc => bne_iff_ne.mpr fun heq => hmark (heq ▸ hc)
      have hbefore : before url = url.toList := List.takeWhile_eq_self_iff.mpr hplain
      have hafter : after url = [] := by
        rw [after, List.dropWhile_eq_nil_iff.mpr hplain, List.drop_nil]
      rw [hbefore, hafter, before, after, hlonger, (cut_at hmark _).1, (cut_at hmark _).2]
      exact ⟨rfl, rfl⟩

end SessionRecovery.Query

namespace SessionRecovery.Request

open Query

/-- The value that a call carries, null where there is none. -/
def carried (r : Request) : Json := (r.payload.map (·.value)).getD .null

/-- What a call carries is in normal form. -/
theorem normalize_carried (r : Request) : r.carried.normalize = r.carried := by
  rw [carried]
  cases r.payload with
  | none => rfl
  | some p => exact p.normal

/-- The query of a reading or removing call is that of what the call carries. -/
theorem query_eq {r : Request} (h : r.method.usesQuery = true) :
    r.query = (ofPayload r.carried).mapError fun f => .serialization f.message := by
  rw [query, carried]
  cases r.payload with
  | none => rfl
  | some p => exact if_pos h

/-- The payload of a reading or removing call travels in its query, faithfully and whenever it can. Building
the request fails on the payload just when the payload is refused, with the words of a fault that it has.
Otherwise nothing but the headers can fail; the query conveys the texts of the payload, key by key in the
order of their bytes; there is no body; and the URL has the text of base URL and path before its first
question mark, and after it their segments and then those of the query. -/
theorem outbound_conveys (r : Request) (h : r.method = .get ∨ r.method = .delete) (s : Session)
    (names : HeaderNames) :
    ((∃ e, r.query = .error e) ↔ ∃ f, Refused r.carried f) ∧
    (∀ e, r.query = .error e → s.outbound names r = .error e ∧
      ∃ f, Refused r.carried f ∧ e = .serialization f.message) ∧
    ∀ query, r.query = .ok query →
      ((∃ o, s.outbound names r = .ok o) ↔
        ∃ fields, s.outboundHeaders names r.headers = .ok fields) ∧
      ((contents r.carried).map fun p => Utf8.encode p.1).Pairwise (· ≤ ·) ∧
      Conveys query (contents r.carried) ∧
      ∀ o, s.outbound names r = .ok o → o.body = none ∧
        before o.url = before (s.baseUrl ++ r.path) ∧
        segments (after o.url) = segments (after (s.baseUrl ++ r.path)) ++
          query.toList.flatMap fun q => segments q.toList := by
  have hmethod : r.method.usesQuery = true := by
    rcases h with h | h <;> rw [h] <;> rfl
  have hquery := query_eq hmethod
  have hbody : r.body = none := by rw [body, if_pos hmethod]
  obtain ⟨f, hf, heq⟩ | ⟨hnone, conveyed, heq, hconveys⟩ := ofPayload_cases r.carried
  · have hfails : r.query = .error (.serialization f.message) := by rw [hquery, heq]; rfl
    refine ⟨iff_of_true ⟨_, hfails⟩ ⟨f, hf⟩, fun e he => ?_, fun query hq => ?_⟩
    · cases hfails.symm.trans he
      exact ⟨by rw [Session.outbound, hfails], f, hf, rfl⟩
    · cases hfails.symm.trans hq
  · have hgives : r.query = .ok conveyed := by rw [hquery, heq]; rfl
    refine ⟨iff_of_false ?_ (not_exists.mpr hnone), fun e he => ?_, fun query hq => ?_⟩
    · rintro ⟨e, he⟩
      cases hgives.symm.trans he
    · cases hgives.symm.trans he
    cases hgives.symm.trans hq
    have hbuilt : (∃ o, s.outbound names r = .ok o) ↔
        ∃ fields, s.outboundHeaders names r.headers = .ok fields :=
      Session.exists_outbound_iff.trans (and_iff_right ⟨conveyed, hgives⟩)
    refine ⟨hbuilt, pairwise_contents r.normalize_carried, hconveys, fun o ho => ?_⟩
    obtain ⟨query, fields, hq', -, rfl⟩ := Session.outbound_eq_ok_iff.mp ho
    cases hgives.symm.trans hq'
    obtain ⟨hbefore, hsegments⟩ := withQuery_splits (s.url r.path) conveyed
    exact ⟨hbody, hbefore, hsegments⟩

/-- A removal at a path with parameters of its own, with marks, nulls and nothing in its keys and texts. -/
def cleanUp : Request :=
  (new .delete "/files?page=1&&").withPayload
    (.obj [("\u00e9", .arr [.str "", .null, .str "a&b=c"]), ("n", .ofNat 7), ("", .str "100% ?#"),
      ("n", .bool true), ("z", .null)])

theorem outbound_conveys_cleanUp :
    (cleanUp.method = .get ∨ cleanUp.method = .delete) ∧
    ∃ query, cleanUp.query = .ok query ∧
      Conveys query [("", "100% ?#"), ("n", "true"), ("\u00e9", ""), ("\u00e9", "a&b=c")] ∧
      ∃ o, (Session.mk "https://a" none "" "" "").outbound .standard cleanUp = .ok o ∧
        o.body = none ∧ before o.url = "https://a/files".toList ∧
        segments (after o.url) = "page=1".toList :: query.toList.flatMap fun q => segments q.toList := by
  have hmethod : cleanUp.method = .get ∨ cleanUp.method = .delete := .inr rfl
  have hquery : cleanUp.query =
      .ok (some "=100%25%20%3F%23&n=true&%C3%A9=&%C3%A9=a%26b%3Dc") := by rfl
  have hcontents : contents cleanUp.carried =
      [("", "100% ?#"), ("n", "true"), ("\u00e9", ""), ("\u00e9", "a&b=c")] := by decide +kernel
  obtain ⟨-, -, hconveys⟩ :=
    outbound_conveys cleanUp hmethod (Session.mk "https://a" none "" "" "") .standard
  obtain ⟨hbuilt, -, hpairs, hurl⟩ := hconveys _ hquery
  rw [hcontents] at hpairs
  obtain ⟨o, ho⟩ := hbuilt.mpr ⟨[], rfl⟩
  obtain ⟨hbody, hbefore, hafter⟩ := hurl o ho
  exact ⟨hmethod, _, hquery, hpairs, o, ho, hbody, hbefore.trans (by decide +kernel), hafter⟩

end SessionRecovery.Request
