import Mathlib.Data.List.DropRight
import SessionRecovery.Settings.Basic

/-!
# The settled form of a base URL

The text that all paths follow names a scheme, begins with no blank and ends in no slash. Blanks are taken
away before the slashes at the end are, and only once: a blank that stands right before these slashes becomes
the end of the base URL. Where no blank stands there, the base URL is its own base URL.
-/

namespace SessionRecovery

namespace Text

variable {p : Char → Bool} {cs kept : List Char}

/-- What is dropped from the front of a text is the longest run of a class. -/
theorem dropWhile_eq_iff :
    cs.dropWhile p = kept ↔ (∃ dropped, cs = dropped ++ kept ∧ ∀ c ∈ dropped, p c = true) ∧
      ∀ c, kept.head? = some c → p c = false := by
  constructor
  · rintro rfl
    refine ⟨⟨cs.takeWhile p, List.takeWhile_append_dropWhile.symm, fun c hc => ?_⟩, fun c hc => ?_⟩
    · exact List.mem_takeWhile_imp hc
    · simpa only [hc] using List.head?_dropWhile_not p cs
  · rintro ⟨⟨dropped, rfl, hdropped⟩, hhead⟩
    rw [List.dropWhile_append_of_pos hdropped]
    cases kept with
    | nil => rfl
    | cons c cs => exact List.dropWhile_cons_of_neg (by simp [hhead c rfl])

/-- What is dropped from the end of a text is the longest run of a class. -/
theorem dropEndWhile_eq_iff :
    dropEndWhile p cs = kept ↔ (∃ dropped, cs = kept ++ dropped ∧ ∀ c ∈ dropped, p c = true) ∧
      ∀ c, kept.getLast? = some c → p c = false := by
  rw [dropEndWhile, List.reverse_eq_iff, dropWhile_eq_iff, List.head?_reverse]
  refine and_congr_left' ⟨?_, ?_⟩
  · rintro ⟨dropped, hcs, hdropped⟩
    refine ⟨dropped.reverse, ?_, fun c hc => hdropped c (List.mem_reverse.mp hc)⟩
    rw [← List.reverse_reverse cs, hcs, List.reverse_append, List.reverse_reverse]
  · rintro ⟨dropped, rfl, hdropped⟩
    exact ⟨dropped.reverse, List.reverse_append, fun c hc => hdropped c (List.mem_reverse.mp hc)⟩

/-- A text is trimmed of the blanks around it, and of these only. -/
theorem trimChars_eq_iff :
    trimChars cs = kept ↔
      (∃ before after, cs = before ++ kept ++ after ∧ (∀ c ∈ before, isBlank c = true) ∧
        ∀ c ∈ after, isBlank c = true) ∧
      (∀ c, kept.head? = some c → isBlank c = false) ∧
      ∀ c, kept.getLast? = some c → isBlank c = false := by
  rw [trimChars, dropEndWhile_eq_iff]
  constructor
  · rintro ⟨⟨after, hfront, hafter⟩, hlast⟩
    obtain ⟨⟨before, hcs, hbefore⟩, hhead⟩ := dropWhile_eq_iff.mp hfront
    refine ⟨⟨before, after, by rw [hcs, List.append_assoc], hbefore, hafter⟩, fun c hc => ?_, hlast⟩
    exact hhead c (by rw [List.head?_append, hc, Option.some_or])
  · rintro ⟨⟨before, after, rfl, hbefore, hafter⟩, hhead, hlast⟩
    cases kept with
    | nil =>
      have hall : ∀ c ∈ before ++ [] ++ after, isBlank c = true := fun c hc => by
        rw [List.append_nil, List.mem_append] at hc
        exact hc.elim (hbefore c) (hafter c)
      exact ⟨⟨[], List.dropWhile_eq_nil_iff.mpr hall, List.forall_mem_nil _⟩, hlast⟩
    | cons c rest =>
      refine ⟨⟨after, dropWhile_eq_iff.mpr ⟨⟨before, List.append_assoc .., hbefore⟩, hhead⟩, hafter⟩, hlast⟩

end Text

namespace Settings

open Text

variable {address base : String} {cs : List Char}

/-- The schemes of a base URL. -/
theorem namesScheme_iff :
    namesScheme cs = true ↔ ∃ scheme rest, scheme ∈ ["http".toList, "https".toList] ∧
      cs = scheme ++ "://".toList ++ rest := by
  rw [namesScheme, Bool.or_eq_true, startsWith, startsWith, List.isPrefixOf_iff_prefix,
    List.isPrefixOf_iff_prefix]
  constructor
  · rintro (⟨rest, rfl⟩ | ⟨rest, rfl⟩)
    · exact ⟨_, rest, List.mem_cons_self, rfl⟩
    · exact ⟨_, rest, List.mem_cons_of_mem _ List.mem_cons_self, rfl⟩
  · rintro ⟨scheme, rest, hscheme, rfl⟩
    simp only [List.mem_cons, List.not_mem_nil, or_false] at hscheme
    rcases hscheme with rfl | rfl
    · exact .inl ⟨rest, rfl⟩
    · exact .inr ⟨rest, rfl⟩

/-- With a scheme, a text names one. -/
theorem namesScheme_withScheme (cs : List Char) : namesScheme (withScheme cs) = true := by
  rw [withScheme]
  split
  · assumption
  · exact namesScheme_iff.mpr ⟨_, cs, List.mem_cons_of_mem _ List.mem_cons_self, rfl⟩

/-- A text that names a scheme keeps it. -/
theorem withScheme_eq_self (h : namesScheme cs = true) : withScheme cs = cs := if_pos h

/-- A scheme stands in front: the end of a text stays. -/
theorem getLast?_withScheme (h : cs ≠ []) : (withScheme cs).getLast? = cs.getLast? := by
  rw [withScheme]
  split
  · rfl
  · rw [List.getLast?_append_of_ne_nil _ h]

/-- A base URL is an address that is not empty when it is trimmed, with a scheme, and can be read. -/
theorem normalizeUrl_eq_ok_iff :
    normalizeUrl address = .ok base ↔ trimmedUrl address ≠ [] ∧
      base = String.ofList (withScheme (trimmedUrl address)) ∧ ∃ u, Url.parse base = .ok u := by
  rw [normalizeUrl]
  cases trimmedUrl address with
  | nil => simp
  | cons c cs =>
    dsimp only
    cases hu : Url.parse (String.ofList (withScheme (c :: cs))) with
    | ok u =>
      simp only [Except.ok.injEq, ne_eq, reduceCtorEq, not_false_eq_true, true_and]
      exact ⟨by rintro rfl; exact ⟨rfl, u, hu⟩, fun h => h.1.symm⟩
    | error f =>
      simp only [reduceCtorEq, ne_eq, not_false_eq_true, true_and, false_iff, not_and, not_exists]
      rintro rfl u
      simp [hu]

/-- A text ends in a blank. -/
def EndsBlank (text : String) : Prop := ∃ c, text.toList.getLast? = some c ∧ isBlank c = true

/-- A blank stands right before the slashes at the end of an address. -/
def Strays (address : String) : Prop :=
  ∃ front blank slashes blanks, address.toList = front ++ blank :: slashes ++ blanks ∧
    isBlank blank = true ∧ slashes ≠ [] ∧ (∀ c ∈ slashes, c = '/') ∧ ∀ c ∈ blanks, isBlank c = true

/-- An address is blanks, what is left of it, slashes and blanks. What is left begins with no blank, ends in no
slash, and ends in a blank only in front of slashes. -/
theorem trimmedUrl_eq_iff {kept : List Char} :
    trimmedUrl address = kept ↔ ∃ before slashes after,
      address.toList = before ++ kept ++ slashes ++ after ∧ (∀ c ∈ before, isBlank c = true) ∧
      (∀ c ∈ slashes, c = '/') ∧ (∀ c ∈ after, isBlank c = true) ∧
      (∀ c, kept.head? = some c → isBlank c = false) ∧ (∀ c, kept.getLast? = some c → c ≠ '/') ∧
      (slashes = [] → ∀ c, kept.getLast? = some c → isBlank c = false) := by
  constructor
  · rintro rfl
    obtain ⟨⟨slashes, htrim, hslashes⟩, hend⟩ := dropEndWhile_eq_iff.mp (rfl : trimmedUrl address = _)
    obtain ⟨⟨before, after, haddress, hbefore, hafter⟩, hhead, hlast⟩ :=
      trimChars_eq_iff.mp (rfl : trimChars address.toList = _)
    rw [htrim] at haddress hhead hlast
    refine ⟨before, slashes, after, haddress.trans (by simp only [List.append_assoc]), hbefore,
      fun c hc => beq_iff_eq.mp (hslashes c hc), hafter, fun c hc => ?_, fun c hc => ?_, ?_⟩
    · exact hhead c (by rw [List.head?_append, hc, Option.some_or])
    · exact ne_of_beq_false (hend c hc)
    · rintro rfl c hc
      exact hlast c (by rw [List.append_nil, hc])
  · rintro ⟨before, slashes, after, haddress, hbefore, hslashes, hafter, hhead, hend, hlast⟩
    have hsolid : ∀ c ∈ slashes, isBlank c = false := fun c hc => by
      rw [hslashes c hc]
      rfl
    have htrim : trimChars address.toList = kept ++ slashes := by
      refine trimChars_eq_iff.mpr ⟨⟨before, after, by rw [haddress, List.append_assoc before],
        hbefore, hafter⟩, fun c hc => ?_, fun c hc => ?_⟩
      · rw [List.head?_append, Option.or_eq_some_iff] at hc
        exact hc.elim (hhead c) fun h => hsolid c (List.mem_of_head? h.2)
      · by_cases hne : slashes = []
        · exact hlast hne c (by rw [← hc, hne, List.append_nil])
        · rw [List.getLast?_append_of_ne_nil _ hne] at hc
          exact hsolid c (List.mem_of_getLast? hc)
    rw [trimmedUrl, htrim]
    exact dropEndWhile_eq_iff.mpr ⟨⟨slashes, rfl, fun c hc => beq_iff_eq.mpr (hslashes c hc)⟩,
      fun c hc => beq_false_of_ne (hend c hc)⟩

/-- What is left of an address ends in a blank just when one stands right before the slashes at its end. -/
theorem strays_iff (h : trimmedUrl address ≠ []) :
    Strays address ↔ ∃ c, (trimmedUrl address).getLast? = some c ∧ isBlank c = true := by
  constructor
  · rintro ⟨front, blank, slashes, blanks, haddress, hblank, hne, hslashes, hblanks⟩
    have hsolid : blank ≠ '/' := by
      rintro rfl
      exact absurd hblank (by decide)
    obtain ⟨⟨before, hfront, hbefore⟩, hhead⟩ :=
      dropWhile_eq_iff.mp (rfl : front.dropWhile isBlank = _)
    cases hkept : front.dropWhile isBlank with
    | nil =>
      -- in front of the slashes stand blanks only, so nothing is left
      refine absurd (trimmedUrl_eq_iff.mpr ⟨before ++ [blank], slashes, blanks, ?_, ?_, hslashes,
        hblanks, by simp, by simp, by simp⟩) h
      · rw [haddress, hfront, hkept]
        simp
      · intro c hc
        exact (List.mem_append.mp hc).elim (hbefore c) fun h => by rw [List.mem_singleton.mp h, hblank]
    | cons d kept =>
      have hleft : trimmedUrl address = d :: kept ++ [blank] := by
        refine trimmedUrl_eq_iff.mpr ⟨before, slashes, blanks, ?_, hbefore, hslashes, hblanks,
          fun c hc => ?_, fun c hc => ?_, fun h => absurd h hne⟩
        · rw [haddress, hfront, hkept]
          simp
        · exact hhead c (by rw [hkept]; exact hc)
        · rw [List.getLast?_concat, Option.some.injEq] at hc
          rwa [← hc]
      exact ⟨blank, by rw [hleft, List.getLast?_concat], hblank⟩
  · rintro ⟨blank, hend, hblank⟩
    obtain ⟨kept, hkept⟩ := List.getLast?_eq_some_iff.mp hend
    obtain ⟨before, slashes, after, haddress, -, hslashes, hafter, -, -, hlast⟩ :=
      trimmedUrl_eq_iff.mp (rfl : trimmedUrl address = _)
    refine ⟨before ++ kept, blank, slashes, after, ?_, hblank, fun hnone => ?_, hslashes, hafter⟩
    · rw [haddress, hkept]
      simp
    · exact absurd hblank (by rw [hlast hnone blank hend]; exact Bool.false_ne_true)

/-- The form that every base URL has. -/
structure IsBase (base : String) : Prop where
  /-- It names a scheme. -/
  namesScheme : namesScheme base.toList = true
  /-- It begins with no blank. -/
  head_solid : ∀ c, base.toList.head? = some c → isBlank c = false
  /-- It ends in no slash. -/
  last_ne_slash : ∀ c, base.toList.getLast? = some c → c ≠ '/'

/-- A text that names a scheme begins with no blank. -/
theorem head?_solid_of_namesScheme (h : namesScheme cs = true) {c : Char} (hc : cs.head? = some c) :
    isBlank c = false := by
  obtain ⟨scheme, rest, hscheme, rfl⟩ := namesScheme_iff.mp h
  simp only [List.mem_cons, List.not_mem_nil, or_false] at hscheme
  rcases hscheme with rfl | rfl <;> (cases hc; rfl)

/-- A base URL has the form of one. -/
theorem isBase_of_normalizeUrl (h : normalizeUrl address = .ok base) : IsBase base := by
  obtain ⟨hne, rfl, -⟩ := normalizeUrl_eq_ok_iff.mp h
  obtain ⟨-, -, -, -, -, -, -, -, hend, -⟩ := trimmedUrl_eq_iff.mp (rfl : trimmedUrl address = _)
  have hnames := namesScheme_withScheme (trimmedUrl address)
  rw [← String.toList_ofList (l := withScheme _)] at hnames
  refine ⟨hnames, fun c hc => head?_solid_of_namesScheme hnames hc, fun c hc => hend c ?_⟩
  rwa [String.toList_ofList, getLast?_withScheme hne] at hc

/-- What is left of a text of this form is its beginning. -/
theorem IsBase.trimmedUrl_prefix (h : IsBase base) : trimmedUrl base <+: base.toList := by
  obtain ⟨before, slashes, after, htext, hbefore, -⟩ :=
    trimmedUrl_eq_iff.mp (rfl : trimmedUrl base = _)
  cases before with
  | nil => exact ⟨slashes ++ after, by rw [htext, List.nil_append, List.append_assoc]⟩
  | cons c cs =>
    refine absurd (hbefore c List.mem_cons_self) ?_
    rw [h.head_solid c (by rw [htext]; rfl)]
    exact Bool.false_ne_true

/-- A text in front of which a scheme is put, and which begins that very text, has no blank. -/
theorem solid_of_prefix_scheme {kept : List Char} (hnames : namesScheme kept = false)
    (h : kept <+: "https://".toList ++ kept) : ∀ c ∈ kept, isBlank c = false := by
  rcases List.prefix_or_prefix_of_prefix h (List.prefix_append _ _) with hp | hp
  · intro c hc
    have hsolid : "https://".toList.all (!isBlank ·) = true := by decide
    simpa using List.all_eq_true.mp hsolid c (hp.subset hc)
  · refine absurd hnames (ne_of_eq_of_ne ?_ Bool.false_ne_true.symm)
    rw [namesScheme, Bool.or_eq_true]
    exact .inr (List.isPrefixOf_iff_prefix.mpr hp)

/-- A text of this form is its own base URL just when it can be read and ends in no blank. -/
theorem normalizeUrl_eq_self_iff (h : IsBase base) :
    normalizeUrl base = .ok base ↔ (∃ u, Url.parse base = .ok u) ∧ ¬ EndsBlank base := by
  constructor
  · intro hself
    obtain ⟨hne, hbase, hu⟩ := normalizeUrl_eq_ok_iff.mp hself
    refine ⟨hu, fun ⟨c, hc, hblank⟩ => ?_⟩
    rw [← String.toList_inj, String.toList_ofList] at hbase
    have hend : (trimmedUrl base).getLast? = some c := by
      rw [← getLast?_withScheme hne, ← hbase, hc]
    have hsolid : isBlank c = false := by
      cases hnames : namesScheme (trimmedUrl base) with
      | true =>
        -- then nothing is dropped, not even slashes
        obtain ⟨before, slashes, after, htext, -, -, -, -, -, hlast⟩ :=
          trimmedUrl_eq_iff.mp (rfl : trimmedUrl base = _)
        rw [withScheme_eq_self hnames] at hbase
        have hlength := congrArg List.length htext
        simp only [← hbase, List.length_append] at hlength
        exact hlast (List.eq_nil_of_length_eq_zero (by omega)) c hend
      | false =>
        rw [withScheme, if_neg (by rw [hnames]; exact Bool.false_ne_true)] at hbase
        exact solid_of_prefix_scheme hnames (hbase ▸ h.trimmedUrl_prefix) c (List.mem_of_getLast? hend)
    exact absurd hblank (by rw [hsolid]; exact Bool.false_ne_true)
  · rintro ⟨⟨u, hu⟩, hblank⟩
    have hkept : trimmedUrl base = base.toList := by
      refine trimmedUrl_eq_iff.mpr ⟨[], [], [], by simp, by simp, by simp, by simp, h.head_solid,
        h.last_ne_slash, fun _ c hc => ?_⟩
      exact Bool.eq_false_iff.mpr fun hb => hblank ⟨c, hc, hb⟩
    refine normalizeUrl_eq_ok_iff.mpr ⟨?_, ?_, u, hu⟩
    · rw [hkept]
      intro hnil
      exact absurd h.namesScheme (by rw [hnil]; decide)
    · rw [hkept, withScheme_eq_self h.namesScheme, String.ofList_toList]

/-- Whatever the address, a base URL has the form of one. It ends in a blank just when one stands right before
the slashes at the end of the address, and it is its own base URL just when none does. -/
theorem normalizeUrl_settles (h : normalizeUrl address = .ok base) :
    IsBase base ∧ (EndsBlank base ↔ Strays address) ∧ (normalizeUrl base = .ok base ↔ ¬ Strays address) := by
  obtain ⟨hne, hbase, hu⟩ := normalizeUrl_eq_ok_iff.mp h
  have hblank : EndsBlank base ↔ Strays address := by
    rw [strays_iff hne, EndsBlank, hbase, String.toList_ofList, getLast?_withScheme hne]
  have hform := isBase_of_normalizeUrl h
  exact ⟨hform, hblank, by rw [normalizeUrl_eq_self_iff hform, hblank, and_iff_right hu]⟩

/-- Blanks and slashes around an address, of which no blank stands right before the slashes at its end. -/
theorem normalizeUrl_settles_trimmed :
    normalizeUrl "\t api.test/v1// " = .ok "https://api.test/v1" ∧
    IsBase "https://api.test/v1" ∧ (EndsBlank "https://api.test/v1" ↔ Strays "\t api.test/v1// ") ∧
    (normalizeUrl "https://api.test/v1" = .ok "https://api.test/v1" ↔ ¬ Strays "\t api.test/v1// ") := by
  have h : normalizeUrl "\t api.test/v1// " = .ok "https://api.test/v1" := by decide +kernel
  exact ⟨h, normalizeUrl_settles h⟩

/-- A blank before the slash at the end becomes the end of the base URL, which has another base URL then. -/
theorem normalizeUrl_strays :
    normalizeUrl "https://api.test /" = .ok "https://api.test " ∧ EndsBlank "https://api.test " ∧
    normalizeUrl "https://api.test " = .ok "https://api.test" := by
  refine ⟨by decide +kernel, ⟨' ', by decide +kernel, by decide⟩, by decide +kernel⟩

end Settings

end SessionRecovery
