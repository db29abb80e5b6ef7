import Mathlib
import SessionRecovery.Proofs.Url.Destination

/-!
# The server that a base URL names

An address that names the scheme of a web server in small letters keeps its server: the base URL names the
scheme and the authority that the address names, and where no authority stands in front of a query or a
fragment there is no base URL. The scheme is looked for in these letters only, and after the slashes at the end
have been taken away. In other letters, or with nothing but slashes behind it, it is not seen, and the base URL
names a server after it.
-/

namespace SessionRecovery.Settings

open Text Destination Url

variable {address base : String} {scheme : Scheme} {name rest : List Char}

/-- Without the blanks around it, an address begins with the scheme of a web server, in letters of either
case. -/
structure Begins (address : String) (scheme : Scheme) (name rest : List Char) : Prop where
  /-- The scheme is one of a web server. -/
  isWeb : scheme.isWeb = true
  /-- The name of the scheme may be written in large letters. -/
  spelled : name.map Char.toLower = scheme.text
  /-- The name stands in front. -/
  trimmed : trimChars address.toList = name ++ "://".toList ++ rest

/-- The authority that stands behind a scheme and its slashes. -/
def authorityOf (rest : List Char) : List Char :=
  (rest.dropWhile (· == '/')).takeWhile fun c => !closes c

/-! ## Names of schemes -/

/-- A letter is written small or large. -/
theorem eq_toLower_or (c : Char) : c = c.toLower ∨ c = c.toLower.toUpper := by
  by_cases h : c.isUpper = true
  · rw [Char.toUpper_toLower_eq_toUpper]
    exact .inr (Char.toUpper_eq_of_not_isLower (Char.not_isLower_of_isUpper h)).symm
  · exact .inl (Char.toLower_eq_of_not_isUpper h).symm

/-- The ways to write a name in letters of either case. -/
def spellings : List Char → List (List Char)
  | [] => [[]]
  | c :: cs => (spellings cs).flatMap fun s => [c :: s, c.toUpper :: s]

/-- A name that is another one but for the case of its letters is one of its spellings. -/
theorem mem_spellings (name : List Char) : name ∈ spellings (name.map Char.toLower) := by
  induction name with
  | nil => exact List.mem_singleton.mpr rfl
  | cons c cs ih =>
    refine List.mem_flatMap.mpr ⟨cs, ih, ?_⟩
    rcases eq_toLower_or c with h | h
    · rw [← h]
      exact List.mem_cons_self
    · rw [← h]
      exact List.mem_cons_of_mem _ (List.mem_singleton.mpr rfl)

/-- The name of a web server's scheme is made of letters. -/
theorem isAlpha_of_spelled (hweb : scheme.isWeb = true) (hname : name.map Char.toLower = scheme.text) :
    ∀ c ∈ name, c.isAlpha = true := by
  intro c hc
  have hlower : c.toLower ∈ scheme.text := hname ▸ List.mem_map_of_mem hc
  have hletters : scheme.text.all Char.isAlpha = true := by
    rcases Scheme.isWeb_iff.mp hweb with rfl | rfl <;> rfl
  rw [← Char.isAlpha_toLower_eq_isAlpha]
  exact List.all_eq_true.mp hletters _ hlower

/-- A letter is nothing that a URL is divided by. -/
theorem plain_of_isAlpha {c : Char} (h : c.isAlpha = true) :
    isControl c = false ∧ isSlash c = false ∧ closes c = false ∧ c ≠ ':' := by
  refine ⟨?_, ?_, ?_, ?_⟩
  · refine Bool.eq_false_iff.mpr fun hs => ?_
    have hall : ∀ n < 0x21, (Char.ofNat n).isAlpha = false := by decide
    have hc := hall c.toNat (Nat.lt_succ_of_le (of_decide_eq_true hs))
    rw [Char.ofNat_toNat, h] at hc
    cases hc
  · refine Bool.eq_false_iff.mpr fun hs => ?_
    simp only [isSlash, Bool.or_eq_true, beq_iff_eq] at hs
    rcases hs with rfl | rfl <;> exact absurd h (by decide)
  · refine Bool.eq_false_iff.mpr fun hs => ?_
    simp only [closes, Bool.or_eq_true, beq_iff_eq] at hs
    obtain (rfl | rfl) | rfl := hs <;> exact absurd h (by decide)
  · rintro rfl
    exact absurd h (by decide)

/-- However it is written, the name of a web server's scheme is a host, and with a colon behind it one without
a port. -/
theorem readAuthority_spelled (hweb : scheme.isWeb = true)
    (hname : name.map Char.toLower = scheme.text) :
    readAuthority .https true (name ++ [':']) = .ok (.ofHost (.named scheme.text), []) := by
  have hall : ∀ scheme ∈ [Scheme.http, .https], ∀ name ∈ spellings scheme.text,
      readAuthority .https true (name ++ [':']) = .ok (.ofHost (.named scheme.text), []) := by
    decide +kernel
  have hspelled : name ∈ spellings scheme.text := hname ▸ mem_spellings name
  rcases Scheme.isWeb_iff.mp hweb with rfl | rfl
  · exact hall .http List.mem_cons_self name hspelled
  · exact hall .https (List.mem_cons_of_mem _ List.mem_cons_self) name hspelled

/-! ## The three kinds of addresses -/

/-- An address that does not become a URL is no base URL. -/
theorem normalizeUrl_eq_error {f : Url.Fault} (hne : trimmedUrl address ≠ [])
    (hf : Url.parse (String.ofList (withScheme (trimmedUrl address))) = .error f) :
    normalizeUrl address = .error (.config ("Invalid base URL '" ++
      String.ofList (withScheme (trimmedUrl address)) ++ "': " ++ f.message)) := by
  rw [normalizeUrl]
  split
  · next h => exact absurd h hne
  · next h => simp only [hf]

/-- An address that becomes a URL is a base URL. -/
theorem normalizeUrl_eq_ok_of_addressee {named : Url.Scheme × Option Authority}
    (hne : trimmedUrl address ≠ [])
    (h : addressee (String.ofList (withScheme (trimmedUrl address))) = .ok named) :
    normalizeUrl address = .ok (String.ofList (withScheme (trimmedUrl address))) := by
  refine normalizeUrl_eq_ok_iff.mpr ⟨hne, rfl, ?_⟩
  cases hu : Url.parse (String.ofList (withScheme (trimmedUrl address))) with
  | ok u => exact ⟨u, rfl⟩
  | error f =>
    rw [addressee, hu] at h
    cases h

/-- What stands behind a scheme: slashes, an authority, and what ends it. -/
theorem exists_parts (rest : List Char) : ∃ slashes tail, rest = slashes ++ (authorityOf rest ++ tail) ∧
    (∀ c ∈ slashes, c = '/') ∧ rest.dropWhile (· == '/') = authorityOf rest ++ tail ∧
    (∀ c ∈ authorityOf rest, closes c = false) ∧ ∀ c, tail.head? = some c → closes c = true := by
  have hparts : rest.dropWhile (· == '/') =
      authorityOf rest ++ (rest.dropWhile (· == '/')).dropWhile fun c => !closes c :=
    List.takeWhile_append_dropWhile.symm
  refine ⟨rest.takeWhile (· == '/'), _, ?_, fun c hc => ?_, hparts, fun c hc => ?_, fun c hc => ?_⟩
  · rw [← hparts, List.takeWhile_append_dropWhile]
  · simpa using List.mem_takeWhile_imp hc
  · simpa using List.mem_takeWhile_imp hc
  · simpa using (dropWhile_eq_iff.mp rfl).2 c hc

/-- Slashes at the end of a text are dropped from what ends an authority, which then ends one still. -/
theorem head?_dropEndWhile {tail : List Char} {p : Char → Bool}
    (h : ∀ c, tail.head? = some c → p c = true) :
    ∀ c, (dropEndWhile (· == '/') tail).head? = some c → p c = true := by
  obtain ⟨⟨dropped, htail, -⟩, -⟩ := dropEndWhile_eq_iff.mp (rfl : dropEndWhile (· == '/') tail = _)
  refine fun c hc => h c ?_
  rw [htail, List.head?_append, hc, Option.some_or]

/-- What is left of an address that begins with a scheme. -/
theorem Begins.trimmedUrl_eq (h : Begins address scheme name rest) :
    trimmedUrl address = name ++ [':'] ++ dropEndWhile (· == '/') ("//".toList ++ rest) := by
  rw [trimmedUrl, h.trimmed, ← dropEndWhile_append (c := ':') List.getLast?_concat (by decide)]
  simp

/-- In small letters and in front of something other than slashes, the scheme of an address is seen. -/
theorem Begins.withScheme_trimmedUrl (h : Begins address scheme scheme.text rest) {c : Char}
    {front : List Char} {tail : List Char} (hrest : rest = front ++ tail)
    (hlast : front.getLast? = some c) (hc : c ≠ '/') :
    trimmedUrl address = scheme.text ++ "://".toList ++ (front ++ dropEndWhile (· == '/') tail) ∧
      withScheme (trimmedUrl address) = trimmedUrl address := by
  have htrimmed : trimmedUrl address =
      scheme.text ++ "://".toList ++ (front ++ dropEndWhile (· == '/') tail) := by
    have hfront : ("//".toList ++ front).getLast? = some c := by
      rw [List.getLast?_append, hlast, Option.some_or]
    have hkept : ∀ d, d = c → (d == '/') = false := fun d hd => beq_false_of_ne (hd ▸ hc)
    rw [h.trimmedUrl_eq, hrest, ← List.append_assoc, dropEndWhile_append hfront (hkept c rfl)]
    simp
  refine ⟨htrimmed, withScheme_eq_self (namesScheme_iff.mpr ⟨scheme.text, _, ?_, htrimmed⟩)⟩
  rcases Scheme.isWeb_iff.mp h.isWeb with rfl | rfl <;> decide

section

variable (h : Begins address scheme scheme.text rest)

include h

/-- With a valid authority, the base URL keeps the scheme and the authority of the address. -/
theorem Begins.keeps (hlast : ∀ c, (authorityOf rest).getLast? = some c → isControl c = false)
    {named : Url.Scheme × Option Authority}
    (hvalid : addressee (String.ofList (scheme.text ++ "://".toList ++ authorityOf rest)) = .ok named) :
    normalizeUrl address = .ok (String.ofList (trimmedUrl address)) ∧
      addressee (String.ofList (trimmedUrl address)) = .ok named := by
  obtain ⟨slashes, tail, hrest, hslashes, -, hauthority, htail⟩ := exists_parts rest
  cases hend : (authorityOf rest).getLast? with
  | none =>
    have hempty : ∀ c ∈ ([] : List Char), c = '/' := List.forall_mem_nil _
    have hnil : ∀ c, ([] : List Char).head? = some c → c = '?' ∨ c = '#' := fun c hc => by cases hc
    have hnone := parse_of_no_authority h.isWeb hempty hnil
    simp only [List.append_nil] at hnone
    rw [List.getLast?_eq_none_iff.mp hend, List.append_nil, addressee, hnone] at hvalid
    cases hvalid
  | some c =>
    have hopen : c ≠ '/' := by
      rintro rfl
      exact absurd (hauthority _ (List.mem_of_getLast? hend)) (by decide)
    have hsplit : rest = (slashes ++ authorityOf rest) ++ tail := by
      rw [List.append_assoc]
      exact hrest
    have hlastOf : (slashes ++ authorityOf rest).getLast? = some c := by
      rw [List.getLast?_append, hend, Option.some_or]
    obtain ⟨htrimmed, hself⟩ := h.withScheme_trimmedUrl hsplit hlastOf hopen
    have hnamed : addressee (String.ofList (trimmedUrl address)) = .ok named := by
      rw [htrimmed, List.append_assoc slashes]
      exact addressee_eq_ok h.isWeb hslashes hauthority hlast (head?_dropEndWhile htail) hvalid
    have hne : trimmedUrl address ≠ [] := by
      rw [htrimmed]
      simp
    refine ⟨?_, hnamed⟩
    have hok := normalizeUrl_eq_ok_of_addressee hne (by rw [hself]; exact hnamed)
    rwa [hself] at hok

/-- Without an authority in front of a query or a fragment, an address is no base URL. -/
theorem Begins.refused (hnone : authorityOf rest = []) (hsome : rest.dropWhile (· == '/') ≠ []) :
    normalizeUrl address = .error (.config ("Invalid base URL '" ++
      String.ofList (trimmedUrl address) ++ "': " ++ "empty host")) := by
  obtain ⟨slashes, tail, hrest, hslashes, hbehind, -, htail⟩ := exists_parts rest
  rw [hnone, List.nil_append] at hrest hbehind
  cases tail with
  | nil => exact absurd hbehind hsome
  | cons c tail =>
    have hmark : c = '?' ∨ c = '#' := by
      have hc := htail c rfl
      have hopen := (dropWhile_eq_iff.mp hbehind).2 c rfl
      simp only [closes, hopen, Bool.false_or, Bool.or_eq_true, beq_iff_eq] at hc
      exact hc
    have hopen : c ≠ '/' := by
      rcases hmark with rfl | rfl <;> decide
    have hsplit : rest = (slashes ++ [c]) ++ tail := by
      rw [hrest]
      simp
    obtain ⟨htrimmed, hself⟩ := h.withScheme_trimmedUrl hsplit List.getLast?_concat hopen
    have hfails : Url.parse (String.ofList (withScheme (trimmedUrl address))) = .error .host := by
      rw [hself, htrimmed, List.append_assoc slashes]
      refine parse_of_no_authority h.isWeb hslashes ?_
      intro d hd
      rw [List.singleton_append, List.head?_cons, Option.some.injEq] at hd
      rwa [← hd]
    have herror := normalizeUrl_eq_error (by rw [htrimmed]; simp) hfails
    rwa [hself] at herror

end

/-- A scheme that is not in small letters, or that nothing but slashes follows, is not seen when the scheme is
looked for. -/
theorem Begins.namesScheme_eq_false (h : Begins address scheme name rest)
    (hunseen : name ≠ scheme.text ∨ rest.dropWhile (· == '/') = []) :
    namesScheme (trimmedUrl address) = false := by
  refine Bool.eq_false_iff.mpr fun hnames => ?_
  obtain ⟨seen, behind, hseen, htext⟩ := namesScheme_iff.mp hnames
  rw [h.trimmedUrl_eq, List.append_assoc, List.append_assoc] at htext
  have hname : name = seen := by
    have hspan (front back : List Char) (hfront : ':' ∉ front) :
        (front ++ ':' :: back).takeWhile (· ≠ ':') = front := by
      rw [List.takeWhile_append_of_pos fun c hc => decide_eq_true (ne_of_mem_of_not_mem hc hfront),
        List.takeWhile_cons_of_neg (by decide), List.append_nil]
    have hcolon : ':' ∉ name := fun hc =>
      (plain_of_isAlpha (isAlpha_of_spelled h.isWeb h.spelled _ hc)).2.2.2 rfl
    have hcolonSeen : ':' ∉ seen := by
      simp only [List.mem_cons, List.not_mem_nil, or_false] at hseen
      rcases hseen with rfl | rfl <;> decide
    have hcut := congrArg (List.takeWhile (· ≠ ':')) htext
    rwa [List.singleton_append, hspan _ _ hcolon, show "://".toList ++ behind = ':' :: _ from rfl,
      hspan _ _ hcolonSeen] at hcut
  rcases hunseen with hlarge | hslashes
  · refine hlarge ?_
    rw [← h.spelled, hname]
    simp only [List.mem_cons, List.not_mem_nil, or_false] at hseen
    rcases hseen with rfl | rfl <;> rfl
  · have hnone : dropEndWhile (· == '/') ("//".toList ++ rest) = [] := by
      refine dropEndWhile_eq_iff.mpr ⟨⟨"//".toList ++ rest, List.nil_append _ |>.symm, fun c hc => ?_⟩, by simp⟩
      rcases List.mem_append.mp hc with hc | hc
      · simpa using hc
      · exact List.dropWhile_eq_nil_iff.mp hslashes c hc
    rw [hnone, hname, List.append_cancel_left_eq] at htext
    cases htext

/-- A scheme that is not seen becomes the server of a URL of the scheme that is put in front. -/
theorem Begins.strays (h : Begins address scheme name rest)
    (hunseen : name ≠ scheme.text ∨ rest.dropWhile (· == '/') = []) :
    normalizeUrl address = .ok (String.ofList ("https://".toList ++ trimmedUrl address)) ∧
      addressee (String.ofList ("https://".toList ++ trimmedUrl address)) =
        .ok (.https, some (.ofHost (.named scheme.text))) := by
  have hwith : withScheme (trimmedUrl address) = "https://".toList ++ trimmedUrl address :=
    if_neg (by rw [h.namesScheme_eq_false hunseen]; exact Bool.false_ne_true)
  have hplain : ∀ c ∈ name ++ [':'], isControl c = false ∧ isSlash c = false ∧ closes c = false := by
    intro c hc
    rcases List.mem_append.mp hc with hc | hc
    · have hletter := plain_of_isAlpha (isAlpha_of_spelled h.isWeb h.spelled c hc)
      exact ⟨hletter.1, hletter.2.1, hletter.2.2.1⟩
    · rw [List.mem_singleton.mp hc]
      decide
  have htidy : tidied (name ++ [':']) = name ++ [':'] := tidied_eq_self fun c hc => (hplain c hc).1
  have hopen : (tidied (name ++ [':'])).dropWhile isSlash ≠ [] := by
    intro hempty
    have hplaced := place_eq_self fun c hc => (hplain c hc).2.1
    rw [← htidy, Url.place, hempty, htidy] at hplaced
    exact List.append_ne_nil_of_right_ne_nil _ (List.cons_ne_nil _ _) hplaced.symm
  have htail : ∀ c, (dropEndWhile (· == '/') ("//".toList ++ rest)).head? = some c →
      closes c = true := head?_dropEndWhile fun c hc => by cases hc; rfl
  have hnamed : addressee (String.ofList ("https://".toList ++ trimmedUrl address)) =
      .ok (.https, some (.ofHost (.named scheme.text))) := by
    have hweb : Url.Scheme.https.isWeb = true := rfl
    have hempty : ∀ c ∈ ([] : List Char), c = '/' := List.forall_mem_nil _
    have happend := addressee_append hweb hempty (fun c hc => (hplain c hc).2.2)
      (fun c hc => (hplain c (List.mem_of_getLast? hc)).1) hopen htail
    rw [htidy, place_eq_self fun c hc => (hplain c hc).2.1,
      readAuthority_spelled h.isWeb h.spelled, ← h.trimmedUrl_eq] at happend
    exact happend
  refine ⟨?_, hnamed⟩
  have hne : trimmedUrl address ≠ [] := by
    rw [h.trimmedUrl_eq]
    simp
  have hok := normalizeUrl_eq_ok_of_addressee hne (by rw [hwith]; exact hnamed)
  rwa [hwith] at hok

/-- An address that begins with the scheme of a web server keeps its server if the scheme is in small letters and
a valid authority follows, however many slashes stand between them; if a query or a fragment follows instead, it
is refused. If the scheme is not in small letters, or only slashes follow, the base URL has a second scheme in
front, and the server it names is called like the scheme of the address. -/
theorem normalizeUrl_addressee (h : Begins address scheme name rest) :
    (name = scheme.text →
      (∀ c, (authorityOf rest).getLast? = some c → isControl c = false) →
      ∀ a, addressee (String.ofList (scheme.text ++ "://".toList ++ authorityOf rest)) =
        .ok (scheme, some a) →
      normalizeUrl address = .ok (String.ofList (trimmedUrl address)) ∧
        addressee (String.ofList (trimmedUrl address)) = .ok (scheme, some a)) ∧
    (name = scheme.text → authorityOf rest = [] → rest.dropWhile (· == '/') ≠ [] →
      normalizeUrl address = .error (.config ("Invalid base URL '" ++
        String.ofList (trimmedUrl address) ++ "': " ++ "empty host"))) ∧
    (name ≠ scheme.text ∨ rest.dropWhile (· == '/') = [] →
      normalizeUrl address = .ok (String.ofList ("https://".toList ++ trimmedUrl address)) ∧
        addressee (String.ofList ("https://".toList ++ trimmedUrl address)) =
          .ok (.https, some (.ofHost (.named scheme.text)))) := by
  refine ⟨?_, ?_, h.strays⟩
  · rintro rfl hlast a hvalid
    exact h.keeps hlast hvalid
  · rintro rfl hnone hsome
    exact h.refused hnone hsome

/-- A server with a port, behind blanks and one slash too many. -/
theorem normalizeUrl_addressee_port :
    Begins " http:///api.test:8080/v1/ " .http "http".toList "/api.test:8080/v1/".toList ∧
    normalizeUrl " http:///api.test:8080/v1/ " = .ok "http:///api.test:8080/v1" ∧
    addressee "http:///api.test:8080/v1" =
      .ok (.http, some ⟨[], none, .named "api.test".toList, some 8080⟩) := by
  have h : Begins " http:///api.test:8080/v1/ " .http "http".toList "/api.test:8080/v1/".toList :=
    ⟨rfl, by decide +kernel, by decide +kernel⟩
  have hauthority : authorityOf "/api.test:8080/v1/".toList = "api.test:8080".toList := by
    decide +kernel
  have htrimmed : trimmedUrl " http:///api.test:8080/v1/ " = "http:///api.test:8080/v1".toList := by
    decide +kernel
  obtain ⟨hok, hnamed⟩ := (normalizeUrl_addressee h).1 rfl
    (fun c hc => by
      rw [hauthority] at hc
      cases hc
      rfl)
    ⟨[], none, .named "api.test".toList, some 8080⟩ (by rw [hauthority]; decide +kernel)
  rw [htrimmed, String.ofList_toList] at hok hnamed
  exact ⟨h, hok, hnamed⟩

/-- A scheme in large letters and a scheme alone are taken for servers of those names. -/
theorem normalizeUrl_misses_scheme :
    normalizeUrl "HTTP://api.test" = .ok "https://HTTP://api.test" ∧
    addressee "https://HTTP://api.test" = .ok (.https, some (.ofHost (.named "http".toList))) ∧
    normalizeUrl "http://" = .ok "https://http:" ∧
    addressee "https://http:" = .ok (.https, some (.ofHost (.named "http".toList))) := by
  refine ⟨?_, ?_, ?_, ?_⟩ <;> decide +kernel

end SessionRecovery.Settings
