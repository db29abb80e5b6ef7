import Mathlib.Data.List.TakeDrop
import SessionRecovery.Proofs.Settings.BaseUrl

/-!
# Where a URL leads

The destination of a URL stands at its beginning, and what the URL means agrees with it.
-/

/-! ## The beginning of a URL

Where a URL leads is read off its text: the scheme stands before the first `://`, the authority after it, up
to the first character that ends one. -/

namespace SessionRecovery

/-- Where a URL leads, read off its text. -/
@[ext]
structure Destination where
  /-- What stands before the first `://`. -/
  scheme : List Char
  /-- What stands after it, up to a slash, a question mark or a number sign. -/
  authority : List Char
  deriving DecidableEq

namespace Destination

/-- The characters that end an authority. -/
def closes (c : Char) : Bool := c == '/' || c == '?' || c == '#'

/-- What stands before and after the first `://` of a text. -/
def cut : List Char → List Char × List Char
  | [] => ([], [])
  | c :: cs =>
    if "://".toList.isPrefixOf (c :: cs) then ([], cs.drop 2) else (c :: (cut cs).1, (cut cs).2)

/-- The destination of a URL. -/
def ofUrl (url : String) : Destination :=
  ⟨(cut url.toList).1, (cut url.toList).2.takeWhile fun c => !closes c⟩

/-- The URL goes on after its authority. -/
def Closed (url : String) : Prop := ∃ c ∈ (cut url.toList).2, closes c = true

/-- The path is empty or begins with a character that ends an authority. -/
def Rooted (path : String) : Prop := ∀ c, path.toList.head? = some c → closes c = true

/-- A scheme has no colon, so the first `://` is the one after it. -/
theorem cut_scheme {scheme : List Char} (h : ':' ∉ scheme) (rest : List Char) :
    cut (scheme ++ "://".toList ++ rest) = (scheme, rest) := by
  induction scheme with
  | nil => rfl
  | cons c cs ih =>
    rw [List.mem_cons, not_or] at h
    have hc : "://".toList.isPrefixOf (c :: (cs ++ "://".toList ++ rest)) = false := by
      rw [show "://".toList = ':' :: "//".toList from rfl, List.isPrefixOf,
        beq_false_of_ne h.1, Bool.false_and]
    rw [List.cons_append, List.cons_append, cut, hc, ih h.2]
    rfl

/-- A text stops at the same place when more follows, just when something in it or at the beginning of what
follows stops it. -/
theorem takeWhile_append_eq_iff (rest more : List Char) :
    (rest ++ more).takeWhile (fun c => !closes c) = rest.takeWhile (fun c => !closes c) ↔
      (∃ c ∈ rest, closes c = true) ∨ ∀ c, more.head? = some c → closes c = true := by
  induction rest with
  | nil =>
    cases more with
    | nil => simp
    | cons c cs => cases hc : closes c <;> simp [hc]
  | cons c cs ih => cases hc : closes c <;> simp [hc, ih]

end Destination

end SessionRecovery

/-! ## Where a URL of the network leads

The scheme and the authority of a URL of a web server are read off the beginning of its text: whatever number
of slashes stands after the scheme, and whatever follows the authority after a slash, a question mark or a
number sign, they are those of the URL that ends with the authority. -/

namespace SessionRecovery.Url

open Text Destination

variable {scheme : Scheme}

/-- The scheme and the authority that a URL names. -/
def addressee (s : String) : Except Fault (Scheme × Option Authority) :=
  (parse s).map fun u => (u.scheme, u.authority)

/-- What a text has in the place of the authority: what stands after its slashes, up to the next one. -/
def place (cs : List Char) : List Char := (cs.dropWhile isSlash).takeWhile (!isSlash ·)

/-- What a URL of the network has in the place of the authority. -/
def seat (cs : List Char) : List Char := place ((cs.takeWhile (· ≠ '#')).takeWhile (· ≠ '?'))

/-- What is split off begins at the first mark. -/
theorem splitOff_fst (mark : Char) (cs : List Char) :
    (splitOff mark cs).1 = cs.takeWhile (· ≠ mark) := by
  rw [splitOff, List.span_eq_takeWhile_dropWhile]
  cases cs.dropWhile (· ≠ mark) <;> rfl

/-- There are two schemes of web servers. -/
theorem Scheme.isWeb_iff : scheme.isWeb = true ↔ scheme = .http ∨ scheme = .https := by
  rw [isWeb, Bool.or_eq_true, beq_iff_eq, beq_iff_eq]

/-- The scheme of a web server is read in small letters. -/
theorem readScheme_web (h : scheme.isWeb = true) (rest : List Char) :
    readScheme (scheme.text ++ ':' :: rest) = .ok (scheme, rest) := by
  rcases Scheme.isWeb_iff.mp h with rfl | rfl <;> rfl

/-- The authority of a URL of the network is what stands in its place. -/
theorem readNetwork_eq (scheme : Scheme) (cs : List Char) :
    ∃ path, readNetwork scheme cs =
      (readAuthority scheme true (place cs)).map fun a => (some a.1, path) := by
  refine ⟨.steps (stepsOf (straightened (((cs.dropWhile isSlash).dropWhile (!isSlash ·)).drop 1))), ?_⟩
  rw [readNetwork, List.span_eq_takeWhile_dropWhile]
  change (readAuthority scheme true (place cs)).bind _ = _
  cases readAuthority scheme true (place cs) <;> rfl

/-- A web server is named by the authority that stands in the place of one. -/
theorem addressee_web (h : scheme.isWeb = true) {s : String} {rest : List Char}
    (hs : relevant s.toList = scheme.text ++ ':' :: rest) :
    addressee s = (readAuthority scheme true (seat rest)).map fun a => (scheme, some a.1) := by
  obtain ⟨path, hnetwork⟩ := readNetwork_eq scheme (splitOff '?' (splitOff '#' rest).1).1
  simp only [splitOff_fst] at hnetwork
  rw [addressee, parse, hs, readScheme_web h, seat]
  rcases Scheme.isWeb_iff.mp h with rfl | rfl <;>
  · simp only [bind, Except.bind, splitOff_fst, hnetwork]
    cases readAuthority _ true _ <;> rfl

/-! ### What does not count -/

/-- A control or the space. -/
def isControl (c : Char) : Bool := c.toNat ≤ 0x20

/-- The end of a text without what does not count in a URL. -/
def tidied (cs : List Char) : List Char :=
  (dropEndWhile isControl cs).filter fun c => c ≠ '\t' ∧ c ≠ '\n' ∧ c ≠ '\x0d'

/-- Nothing is dropped beyond a character that is not of the class. -/
theorem dropEndWhile_append {p : Char → Bool} {xs : List Char} {c : Char} (hc : xs.getLast? = some c)
    (hp : p c = false) (ys : List Char) : dropEndWhile p (xs ++ ys) = xs ++ dropEndWhile p ys := by
  obtain ⟨⟨dropped, hys, hdropped⟩, hlast⟩ := dropEndWhile_eq_iff.mp (rfl : dropEndWhile p ys = _)
  refine dropEndWhile_eq_iff.mpr ⟨⟨dropped, by rw [List.append_assoc, ← hys], hdropped⟩, fun d hd => ?_⟩
  rw [List.getLast?_append, Option.or_eq_some_iff] at hd
  rcases hd with hd | ⟨-, hd⟩
  · exact hlast d hd
  · rw [hc, Option.some.injEq] at hd
    rwa [← hd]

/-- Behind a scheme, what does not count is left out. -/
theorem relevant_web (h : scheme.isWeb = true) (cs : List Char) :
    relevant (scheme.text ++ "://".toList ++ cs) = scheme.text ++ "://".toList ++ tidied cs := by
  have hfront : (scheme.text ++ "://".toList ++ cs).dropWhile (·.toNat ≤ 0x20) =
      scheme.text ++ "://".toList ++ cs := by
    rcases Scheme.isWeb_iff.mp h with rfl | rfl <;> rfl
  have hlast : (scheme.text ++ "://".toList).getLast? = some '/' := by
    rcases Scheme.isWeb_iff.mp h with rfl | rfl <;> rfl
  rw [relevant, hfront, dropEndWhile_append hlast (by decide), List.filter_append]
  rcases Scheme.isWeb_iff.mp h with rfl | rfl <;> rfl

/-- Behind a character that counts, the end of a text is tidied by itself. -/
theorem tidied_append {xs : List Char} {c : Char} (hc : xs.getLast? = some c)
    (h : isControl c = false) (ys : List Char) : tidied (xs ++ ys) = tidied xs ++ tidied ys := by
  have hself := dropEndWhile_append hc h []
  rw [show dropEndWhile isControl [] = [] from rfl, List.append_nil] at hself
  rw [tidied, tidied, tidied, dropEndWhile_append hc h, hself, List.filter_append]

/-- A character that ends an authority counts, so a text still begins with it when it is tidied. -/
theorem head?_tidied {cs : List Char} (h : ∀ c, cs.head? = some c → closes c = true) :
    (tidied cs).head? = cs.head? := by
  cases cs with
  | nil => rfl
  | cons d cs =>
    have hd := h d rfl
    simp only [closes, Bool.or_eq_true, beq_iff_eq] at hd
    obtain (rfl | rfl) | rfl := hd <;>
    · rw [← List.singleton_append, tidied, dropEndWhile_append rfl (by decide), List.filter_append]
      rfl

/-- Tidying adds nothing. -/
theorem mem_of_mem_tidied {cs : List Char} {c : Char} (h : c ∈ tidied cs) : c ∈ cs := by
  obtain ⟨⟨dropped, hcs, -⟩, -⟩ := dropEndWhile_eq_iff.mp (rfl : dropEndWhile isControl cs = _)
  rw [hcs]
  exact List.mem_append_left _ (List.mem_filter.mp h).1

/-- A text in which everything counts is tidy. -/
theorem tidied_eq_self {cs : List Char} (h : ∀ c ∈ cs, isControl c = false) : tidied cs = cs := by
  have hkept : dropEndWhile isControl cs = cs :=
    dropEndWhile_eq_iff.mpr ⟨⟨[], by simp, by simp⟩, fun c hc => h c (List.mem_of_getLast? hc)⟩
  rw [tidied, hkept, List.filter_eq_self]
  intro c hc
  refine decide_eq_true ⟨?_, ?_, ?_⟩ <;>
  · rintro rfl
    exact absurd (h _ hc) (by decide)

/-- Slashes count. -/
theorem tidied_slashes {slashes : List Char} (h : ∀ c ∈ slashes, c = '/') (ys : List Char) :
    tidied (slashes ++ ys) = tidied slashes ++ tidied ys := by
  cases hlast : slashes.getLast? with
  | none =>
    rw [List.getLast?_eq_none_iff.mp hlast]
    rfl
  | some c =>
    refine tidied_append hlast ?_ ys
    rw [h c (List.mem_of_getLast? hlast)]
    rfl

/-! ### What stands in the place of an authority -/

/-- A text is taken up to the same place when what follows begins with a character that ends it. -/
theorem takeWhile_append {p : Char → Bool} {ys : List Char}
    (h : ∀ c, ys.head? = some c → p c = false) (xs : List Char) :
    (xs ++ ys).takeWhile p = xs.takeWhile p := by
  induction xs with
  | nil =>
    cases ys with
    | nil => rfl
    | cons c cs => exact List.takeWhile_cons_of_neg (by rw [h c rfl]; exact Bool.false_ne_true)
  | cons c cs ih => rw [List.cons_append, List.takeWhile_cons, List.takeWhile_cons, ih]

/-- The place of an authority does not depend on the slashes in front of it and on what follows a slash. -/
theorem place_append {slashes cs tail : List Char} (hslashes : ∀ c ∈ slashes, isSlash c = true)
    (hne : cs.dropWhile isSlash ≠ []) (htail : ∀ c, tail.head? = some c → isSlash c = true) :
    place (slashes ++ cs ++ tail) = place cs := by
  rw [place, place, List.append_assoc, List.dropWhile_append_of_pos hslashes, List.dropWhile_append,
    if_neg (by rwa [List.isEmpty_iff])]
  exact takeWhile_append (fun c hc => by rw [htail c hc]; rfl) _

/-- A text without slashes stands in the place of an authority. -/
theorem place_eq_self {cs : List Char} (h : ∀ c ∈ cs, isSlash c = false) : place cs = cs := by
  have hkept : cs.dropWhile isSlash = cs :=
    dropWhile_eq_iff.mpr ⟨⟨[], by simp, by simp⟩, fun c hc => h c (List.mem_of_head? hc)⟩
  rw [place, hkept, List.takeWhile_eq_self_iff]
  exact fun c hc => by rw [h c hc]; rfl

/-- Of what begins with a slash, a question mark or a number sign, at most a slash is left in front of the
query and the fragment. -/
theorem head?_front {tail : List Char} (h : ∀ c, tail.head? = some c → closes c = true) :
    ∀ c, ((tail.takeWhile (· ≠ '#')).takeWhile (· ≠ '?')).head? = some c → c = '/' := by
  cases tail with
  | nil => exact fun c hc => by cases hc
  | cons d cs =>
    have hd := h d rfl
    simp only [closes, Bool.or_eq_true, beq_iff_eq] at hd
    obtain (rfl | rfl) | rfl := hd
    · intro c hc
      rw [List.takeWhile_cons_of_pos (by decide), List.takeWhile_cons_of_pos (by decide)] at hc
      cases hc
      rfl
    · intro c hc
      rw [List.takeWhile_cons_of_pos (by decide), List.takeWhile_cons_of_neg (by decide)] at hc
      cases hc
    · intro c hc
      rw [List.takeWhile_cons_of_neg (by decide)] at hc
      cases hc

/-- The front of a text in which nothing begins a query or a fragment goes on with that of what follows. -/
theorem front_append {xs : List Char} (h : ∀ c ∈ xs, c ≠ '?' ∧ c ≠ '#') (ys : List Char) :
    (((xs ++ ys).takeWhile (· ≠ '#')).takeWhile (· ≠ '?')) =
      xs ++ ((ys.takeWhile (· ≠ '#')).takeWhile (· ≠ '?')) := by
  rw [List.takeWhile_append_of_pos fun c hc => decide_eq_true (h c hc).2,
    List.takeWhile_append_of_pos fun c hc => decide_eq_true (h c hc).1]

/-- Neither slashes in front of an authority nor what ends it change what is read. -/
theorem seat_append {slashes cs tail : List Char} (hslashes : ∀ c ∈ slashes, c = '/')
    (hcs : ∀ c ∈ cs, closes c = false) (hne : cs.dropWhile isSlash ≠ [])
    (htail : ∀ c, tail.head? = some c → closes c = true) :
    seat (slashes ++ cs ++ tail) = place cs := by
  have hplain : ∀ c ∈ slashes ++ cs, c ≠ '?' ∧ c ≠ '#' := by
    intro c hc
    rcases List.mem_append.mp hc with hc | hc
    · rw [hslashes c hc]
      decide
    · have hopen := hcs c hc
      simp only [closes, Bool.or_eq_false_iff, beq_eq_false_iff_ne] at hopen
      exact ⟨hopen.1.2, hopen.2⟩
  rw [seat, front_append hplain]
  refine place_append (fun c hc => ?_) hne fun c hc => ?_
  · rw [hslashes c hc]
    rfl
  · rw [head?_front htail c hc]
    rfl

/-- In front of a query or a fragment, slashes in either direction leave no place for an authority. -/
theorem seat_slashes {slashes tail : List Char} (hslashes : ∀ c ∈ slashes, isSlash c = true)
    (htail : ∀ c, tail.head? = some c → c = '?' ∨ c = '#') : seat (slashes ++ tail) = [] := by
  have hfront : (tail.takeWhile (· ≠ '#')).takeWhile (· ≠ '?') = [] := by
    cases tail with
    | nil => rfl
    | cons c cs => rcases htail c rfl with rfl | rfl <;> rfl
  have hplain : ∀ c ∈ slashes, c ≠ '?' ∧ c ≠ '#' := by
    intro c hc
    have hslash := hslashes c hc
    simp only [isSlash, Bool.or_eq_true, beq_iff_eq] at hslash
    rcases hslash with rfl | rfl <;> decide
  rw [seat, front_append hplain, hfront, List.append_nil, place, List.dropWhile_eq_nil_iff.mpr hslashes]
  rfl

/-! ### URLs with an authority and without one -/

/-- A web server has a host. -/
theorem readAuthority_nil (h : scheme.isWeb = true) (followed : Bool) :
    readAuthority scheme followed [] = .error .host := by
  rcases Scheme.isWeb_iff.mp h with rfl | rfl <;> rfl

section

variable {slashes authority tail : List Char} (hweb : scheme.isWeb = true)
  (hslashes : ∀ c ∈ slashes, c = '/')

include hweb hslashes

/-- The slashes behind a scheme stand in front of what is read as an authority. -/
theorem addressee_slashes (cs : List Char) :
    addressee (String.ofList (scheme.text ++ "://".toList ++ (slashes ++ cs))) =
      (readAuthority scheme true (seat ("//".toList ++ tidied slashes ++ tidied cs))).map fun a =>
        (scheme, some a.1) := by
  refine addressee_web hweb ?_
  rw [String.toList_ofList, relevant_web hweb, tidied_slashes hslashes, List.append_assoc]
  rfl

omit hweb in
/-- The slashes behind a scheme are slashes. -/
theorem eq_slash_of_mem {c : Char} (hc : c ∈ "//".toList ++ tidied slashes) : c = '/' := by
  rcases List.mem_append.mp hc with hc | hc
  · simpa using hc
  · exact hslashes c (mem_of_mem_tidied hc)

/-- Where an authority stands, it is what the server is named by. -/
theorem addressee_append (hauthority : ∀ c ∈ authority, closes c = false)
    (hlast : ∀ c, authority.getLast? = some c → isControl c = false)
    (hne : (tidied authority).dropWhile isSlash ≠ [])
    (htail : ∀ c, tail.head? = some c → closes c = true) :
    addressee (String.ofList (scheme.text ++ "://".toList ++ (slashes ++ (authority ++ tail)))) =
      (readAuthority scheme true (place (tidied authority))).map fun a => (scheme, some a.1) := by
  obtain ⟨c, hc⟩ : ∃ c, authority.getLast? = some c := by
    refine Option.ne_none_iff_exists'.mp fun hnone => hne ?_
    rw [List.getLast?_eq_none_iff.mp hnone]
    rfl
  rw [addressee_slashes hweb hslashes, tidied_append hc (hlast c hc), ← List.append_assoc,
    seat_append (fun c hc => eq_slash_of_mem hslashes hc)
      (fun c hc => hauthority c (mem_of_mem_tidied hc)) hne
      (by rwa [head?_tidied htail])]

/-- Where a query or a fragment follows the slashes, there is no host. -/
theorem parse_of_no_authority (htail : ∀ c, tail.head? = some c → c = '?' ∨ c = '#') :
    parse (String.ofList (scheme.text ++ "://".toList ++ (slashes ++ tail))) = .error .host := by
  have hhead : (tidied tail).head? = tail.head? := head?_tidied fun c hc => by
    rcases htail c hc with rfl | rfl <;> rfl
  have hnone := addressee_slashes hweb hslashes tail
  rw [seat_slashes (fun c hc => by rw [eq_slash_of_mem hslashes hc]; rfl) (by rwa [hhead]),
    readAuthority_nil hweb, addressee] at hnone
  cases hparse : parse (String.ofList (scheme.text ++ "://".toList ++ (slashes ++ tail))) with
  | ok u =>
    rw [hparse] at hnone
    cases hnone
  | error f =>
    rw [hparse] at hnone
    cases hnone
    rfl

/-- A URL whose text ends with its authority names what it names with more slashes in front of the authority,
and with anything behind it that ends one. -/
theorem addressee_eq_ok (hauthority : ∀ c ∈ authority, closes c = false)
    (hlast : ∀ c, authority.getLast? = some c → isControl c = false)
    (htail : ∀ c, tail.head? = some c → closes c = true) {named : Scheme × Option Authority}
    (h : addressee (String.ofList (scheme.text ++ "://".toList ++ authority)) = .ok named) :
    addressee (String.ofList (scheme.text ++ "://".toList ++ (slashes ++ (authority ++ tail)))) =
      .ok named := by
  have hnone : ∀ c ∈ ([] : List Char), c = '/' := List.forall_mem_nil _
  have hne : (tidied authority).dropWhile isSlash ≠ [] := by
    intro hempty
    have hseat : seat ("//".toList ++ tidied [] ++ tidied authority ++ []) = [] := by
      refine seat_slashes (fun c hc => ?_) (by simp)
      rcases List.mem_append.mp hc with hc | hc
      · rw [eq_slash_of_mem hnone hc]
        rfl
      · exact List.dropWhile_eq_nil_iff.mp hempty c hc
    have hfails := addressee_slashes hweb hnone authority
    rw [List.append_nil] at hseat
    rw [List.nil_append, h, hseat, readAuthority_nil hweb] at hfails
    cases hfails
  have hnil : ∀ c, ([] : List Char).head? = some c → closes c = true := fun c hc => by cases hc
  have hsame := addressee_append hweb hnone hauthority hlast hne hnil
  rw [List.nil_append, List.append_nil] at hsame
  rw [addressee_append hweb hslashes hauthority hlast hne htail, ← hsame, h]

end

end SessionRecovery.Url
