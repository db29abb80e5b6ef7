import SessionRecovery.Proofs.Json.Naturals
import SessionRecovery.Proofs.Json.Shapes

/-!
# Members with defaults

A record that is read over its defaults is the defaults with everything that the members of an object say put in
their place. Each name is looked up on its own: neither the order of the members nor those of other names count.
-/

namespace SessionRecovery.Json

open Decoder

variable {α σ : Type} {n : Nat} {name other : String} {t : Tree} {ms : List (String × Tree)}

/-! ## Values by name -/

/-- A name stands at most once, and in front of a value that means something. -/
def Fits (means : Tree → Option α) (name : String) (ms : List (String × Tree)) : Prop :=
  (valuesOf name ms).length ≤ 1 ∧ ∀ t ∈ valuesOf name ms, (means t).isSome = true

instance (means : Tree → Option α) (name : String) (ms : List (String × Tree)) :
    Decidable (Fits means name ms) :=
  inferInstanceAs (Decidable (_ ∧ _))

theorem fits_of_absent (means : Tree → Option α) (h : valuesOf name ms = []) : Fits means name ms := by
  rw [Fits, h]
  exact ⟨Nat.zero_le 1, List.forall_mem_nil _⟩

theorem fits_of_only {means : Tree → Option α} (h : valuesOf name ms = [t])
    (ht : (means t).isSome = true) : Fits means name ms := by
  rw [Fits, h]
  exact ⟨Nat.le_refl 1, List.forall_mem_singleton.mpr ht⟩

/-- What the value of a name means, and a default if there is none. -/
def given (means : Tree → Option α) (default : α) (name : String) (ms : List (String × Tree)) : α :=
  ((valuesOf name ms).head?.bind means).getD default

section

variable {means : Tree → Option α} {default v : α}

theorem given_cons_of_ne (h : other ≠ name) :
    given means default name ((other, t) :: ms) = given means default name ms := by
  rw [given, valuesOf_cons_of_ne h, given]

theorem given_cons_self (h : means t = some v) :
    given means default name ((name, t) :: ms) = v := by
  rw [given, valuesOf_cons_self, List.head?_cons, Option.bind_some, h, Option.getD_some]

theorem given_of_absent (h : valuesOf name ms = []) : given means default name ms = default := by
  rw [given, h]
  rfl

/-- The only value of a name might as well have been the default. -/
theorem given_cons_only (h : means t = some v) (habsent : valuesOf name ms = []) :
    given means default name ((name, t) :: ms) = given means v name ms := by
  rw [given_cons_self h, given_of_absent habsent]

/-- A change by what a value means is made where the value means something. -/
theorem fits_map_iff {β : Type} (f : α → β) :
    Fits (fun t => (means t).map f) name ms ↔ Fits means name ms := by
  simp only [Fits, Option.isSome_map]

end

/-! ## Members of a record -/

/-- A field of a record, and how a value changes the record. -/
structure Member (σ : Type) where
  /-- The field. -/
  field : Decoder.Field σ
  /-- The change, nothing if the field refuses the value. -/
  change : Tree → Option (σ → σ)

namespace Member

/-- The member of a name that is read by a decoder, given what the decoder makes of a value. -/
def of (name : String) (required : Bool) (d : Decoder α) (means : Tree → Option α) (put : α → σ → σ) :
    Member σ :=
  ⟨⟨name, required, d.map put⟩, fun t => (means t).map put⟩

@[simp] theorem name_of (name : String) (required : Bool) (d : Decoder α) (means : Tree → Option α)
    (put : α → σ → σ) : (of name required d means put).field.name = name := rfl

@[simp] theorem change_of (name : String) (required : Bool) (d : Decoder α) (means : Tree → Option α)
    (put : α → σ → σ) (t : Tree) : (of name required d means put).change t = (means t).map put := rfl

/-- A member that may be absent and is a text. -/
def text (name : String) (put : String → σ → σ) : Member σ := of name false .string Tree.text? put

/-- A member that may be absent and is a list of texts. -/
def texts (name : String) (put : List String → σ → σ) : Member σ :=
  of name false Decoder.string.list (Tree.items? Tree.text?) put

/-- A member that may be absent and is a natural number of a given width. -/
def nat (name : String) (bits : Nat) (put : Nat → σ → σ) : Member σ :=
  of name false (.nat bits) (Tree.nat? bits) put

/-- The field makes of every text of a value the change that the value stands for. -/
def Sound (n : Nat) (m : Member σ) : Prop := ∀ t, Decodes m.field.update n t (m.change t)

theorem sound_of {d : Decoder α} {means : Tree → Option α} (h : ∀ t, Decodes d n t (means t))
    (name : String) (required : Bool) (put : α → σ → σ) : (of name required d means put).Sound n :=
  fun t => Decodes.map put (h t)

theorem sound_text (n : Nat) (name : String) (put : String → σ → σ) : (text name put).Sound n :=
  sound_of (Decodes.string n) name false put

theorem sound_texts (n : Nat) (name : String) (put : List String → σ → σ) :
    (texts name put).Sound (n + 1) :=
  sound_of (Decodes.list (Decodes.string n)) name false put

theorem sound_nat (n : Nat) (name : String) {bits : Nat} (hbits : bits ≤ 64) (put : Nat → σ → σ) :
    (nat name bits put).Sound n :=
  sound_of (Decodes.nat hbits n) name false put

end Member

/-- The names of members. -/
def namesOf (members : List (Member σ)) : List String := members.map (·.field.name)

/-- The change that a field of some members makes. -/
def changeOf (members : List (Member σ)) (f : Decoder.Field σ) (t : Tree) : Option (σ → σ) :=
  (members.find? (·.field.name = f.name)).bind fun m => m.change t

section

variable {members : List (Member σ)} (hnames : (namesOf members).Nodup)

include hnames

/-- Among members of different names each is found by its own. -/
theorem find?_member {m : Member σ} (hm : m ∈ members) :
    members.find? (·.field.name = m.field.name) = some m := by
  induction members with
  | nil => exact absurd hm List.not_mem_nil
  | cons k members ih =>
    obtain ⟨hfirst, hothers⟩ := List.nodup_cons.mp hnames
    obtain rfl | hm := List.mem_cons.mp hm
    · exact List.find?_cons_of_pos (decide_eq_true rfl)
    · have hne : k.field.name ≠ m.field.name := fun heq =>
        hfirst (List.mem_map.mpr ⟨m, hm, heq.symm⟩)
      rw [List.find?_cons_of_neg (by simpa using hne), ih hothers hm]

theorem changeOf_field {m : Member σ} (hm : m ∈ members) (t : Tree) :
    changeOf members m.field t = m.change t := by
  rw [changeOf, find?_member hnames hm]
  rfl

/-- The fields of sound members make the changes of the members. -/
theorem decodes_changeOf (hsound : ∀ m ∈ members, m.Sound n) :
    ∀ f ∈ members.map (·.field), ∀ t, Decodes f.update n t (changeOf members f t) := by
  intro f hf t
  obtain ⟨m, hm, rfl⟩ := List.mem_map.mp hf
  rw [changeOf_field hnames hm]
  exact hsound m hm t

/-- A field is found just when it is that of a member of the name. -/
theorem find?_field_iff {f : Decoder.Field σ} :
    (members.map (·.field)).find? (·.name = name) = some f ↔
      ∃ m ∈ members, m.field = f ∧ m.field.name = name := by
  rw [List.find?_map, Option.map_eq_some_iff]
  constructor
  · rintro ⟨m, hm, rfl⟩
    exact ⟨m, List.mem_of_find?_eq_some hm, rfl, by simpa using List.find?_some hm⟩
  · rintro ⟨m, hm, rfl, rfl⟩
    exact ⟨m, find?_member hnames hm, rfl⟩

/-- An object makes a record just when each name of a member stands at most once, in front of a value that the
member takes, and the required ones stand at all. -/
theorem isSome_taken_members_iff {s : σ} :
    (taken (members.map (·.field)) (changeOf members) [] s ms).isSome = true ↔
      ∀ m ∈ members, Fits m.change m.field.name ms ∧
        (m.field.required = true → valuesOf m.field.name ms ≠ []) := by
  have hpresent {name : String} : (∃ m ∈ ms, m.1 = name) ↔ valuesOf name ms ≠ [] := by
    simp [valuesOf]
  rw [isSome_taken_iff]
  constructor
  · rintro ⟨hsingle, hrequired⟩ m hm
    obtain ⟨hlength, -, htaken⟩ := hsingle _ _ ((find?_field_iff hnames).mpr ⟨m, hm, rfl, rfl⟩)
    refine ⟨⟨hlength, fun t ht => ?_⟩, fun hreq => ?_⟩
    · rw [← changeOf_field hnames hm]
      exact htaken t ht
    · have hseen := hrequired m.field (List.mem_map_of_mem hm) hreq
      exact hpresent.mp (hseen.resolve_left List.not_mem_nil)
  · intro h
    refine ⟨fun name f hf => ?_, fun f hf hreq => ?_⟩
    · obtain ⟨m, hm, rfl, rfl⟩ := (find?_field_iff hnames).mp hf
      obtain ⟨⟨hlength, htaken⟩, -⟩ := h m hm
      refine ⟨hlength, fun hseen => absurd hseen List.not_mem_nil, fun t ht => ?_⟩
      rw [changeOf_field hnames hm]
      exact htaken t ht
    · obtain ⟨m, hm, rfl⟩ := List.mem_map.mp hf
      exact .inr (hpresent.mpr ((h m hm).2 hreq))

end

/-! ## Records over their defaults -/

/-- How to put what an object says over a record: a member of another name makes no difference, and the only
one of its name makes the change that its value stands for. -/
structure PutsOver (members : List (Member σ)) (overlay : σ → List (String × Tree) → σ) : Prop where
  /-- Without members nothing is changed. -/
  nil : ∀ s, overlay s [] = s
  /-- A member of another name makes no difference. -/
  skip : ∀ s t ms {name}, name ∉ namesOf members → overlay s ((name, t) :: ms) = overlay s ms
  /-- The only member of its name makes its change. -/
  put : ∀ s ms, ∀ m ∈ members, ∀ {t g}, m.change t = some g → valuesOf m.field.name ms = [] →
    overlay s ((m.field.name, t) :: ms) = overlay (g s) ms

/-- A record that is read over its defaults. -/
structure Layout (σ : Type) where
  /-- Its title. -/
  title : String
  /-- The record of all defaults. -/
  start : σ
  /-- Its members. -/
  members : List (Member σ)
  /-- Puts what an object says over a record. -/
  overlay : σ → List (String × Tree) → σ
  /-- No two members have the same name. -/
  distinct : (namesOf members).Nodup
  /-- What an object says is put over the record member by member. -/
  putsOver : PutsOver members overlay

namespace Layout

variable (l : Layout σ)

/-- Reads the record. -/
def decoder : Decoder σ := .record l.title l.start (l.members.map (·.field))

/-- The record that a value is. -/
def means (t : Tree) : Option σ :=
  t.record (l.members.map (·.field)) (changeOf l.members) l.start

/-- The members of an object fit: each name stands at most once, in front of a value that its member takes, and
the required ones stand at all. -/
def Fit (ms : List (String × Tree)) : Prop :=
  ∀ m ∈ l.members, Fits m.change m.field.name ms ∧
    (m.field.required = true → valuesOf m.field.name ms ≠ [])

variable {l}

/-- The record is read from every text as what the text says. -/
theorem decodes (hsound : ∀ m ∈ l.members, m.Sound n) (t : Tree) :
    Decodes l.decoder (n + 1) t (l.means t) :=
  Decodes.ofRecord l.title l.start (decodes_changeOf l.distinct hsound) t

theorem isSome_means_iff : (l.means (.object (named ms))).isSome = true ↔ l.Fit ms := by
  rw [means, Tree.record_named]
  exact isSome_taken_members_iff l.distinct

/-- A record that is made is the one before with what the object says put over it. -/
theorem overlay_of_taken {seen : List String} {s s' : σ}
    (h : taken (l.members.map (·.field)) (changeOf l.members) seen s ms = some s') :
    s' = l.overlay s ms := by
  induction ms generalizing seen s with
  | nil =>
    rw [taken] at h
    split at h
    · cases h
    · cases h
      exact (l.putsOver.nil s').symm
  | cons m ms ih =>
    obtain ⟨name, t⟩ := m
    rw [taken] at h
    cases hfind : (l.members.map (·.field)).find? (·.name = name) with
    | none =>
      have hother : name ∉ namesOf l.members := by
        simpa [namesOf] using hfind
      rw [hfind] at h
      rw [l.putsOver.skip s t ms hother]
      exact ih h
    | some f =>
      obtain ⟨m, hm, rfl, rfl⟩ := (find?_field_iff l.distinct).mp hfind
      rw [hfind] at h
      dsimp only at h
      split at h
      · cases h
      · obtain ⟨g, hg, h⟩ := Option.bind_eq_some_iff.mp h
        rw [changeOf_field l.distinct hm] at hg
        -- the name has been seen, so no other member has it
        have hsome := Option.isSome_iff_exists.mpr ⟨_, h⟩
        have hnone := ((isSome_taken_iff.mp hsome).1 _ _ hfind).2.1 List.mem_cons_self
        rw [l.putsOver.put s ms m hm hg hnone]
        exact ih h

/-- An object that fits is the record of all defaults with what it says put over it. -/
theorem means_of_fit (h : l.Fit ms) : l.means (.object (named ms)) = some (l.overlay l.start ms) := by
  obtain ⟨s, hs⟩ := Option.isSome_iff_exists.mp (isSome_means_iff.mpr h)
  rw [hs]
  rw [means, Tree.record_named] at hs
  rw [overlay_of_taken hs]

/-- An object is no record if a name of a member stands in it twice. -/
theorem means_eq_none_of_repeated (hname : name ∈ namesOf l.members)
    (h : 1 < (valuesOf name ms).length) : l.means (.object (named ms)) = none := by
  obtain ⟨m, hm, rfl⟩ := List.mem_map.mp hname
  refine Option.not_isSome_iff_eq_none.mp fun hsome => ?_
  exact absurd ((isSome_means_iff.mp hsome) m hm).1.1 (Nat.not_le.mpr h)

/-- An object is no record if a member refuses its value. -/
theorem means_eq_none_of_refused {m : Member σ} (hm : m ∈ l.members)
    (ht : t ∈ valuesOf m.field.name ms) (h : m.change t = none) :
    l.means (.object (named ms)) = none := by
  refine Option.not_isSome_iff_eq_none.mp fun hsome => ?_
  have htaken := ((isSome_means_iff.mp hsome) m hm).1.2 t ht
  rw [h] at htaken
  cases htaken

/-- An object is no record without a required member. -/
theorem means_eq_none_of_missing {m : Member σ} (hm : m ∈ l.members) (hrequired : m.field.required = true)
    (h : valuesOf m.field.name ms = []) : l.means (.object (named ms)) = none :=
  Option.not_isSome_iff_eq_none.mp fun hsome => ((isSome_means_iff.mp hsome) m hm).2 hrequired h

/-- An array is no record if every member refuses one of its items. -/
theorem means_array_eq_none (hrefused : ∀ m ∈ l.members, m.change t = none) {ts : List Tree}
    (ht : t ∈ ts) : l.means (.array ts) = none := by
  refine takenItems_eq_none (fun f hf => ?_) ht l.start
  obtain ⟨m, hm, rfl⟩ := List.mem_map.mp hf
  rw [changeOf_field l.distinct hm]
  exact hrefused m hm

end Layout

/-! ## Records in records -/

/-- The members of the object of a name, none if there is no such object. -/
def sectionMembers (name : String) (ms : List (String × Tree)) : List (String × Tree) :=
  match valuesOf name ms with
  | .object members :: _ => (named? members).getD []
  | _ => []

/-- A name stands at most once, and in front of an object whose members fit. -/
def SectionFits (fit : List (String × Tree) → Prop) (name : String) (ms : List (String × Tree)) : Prop :=
  valuesOf name ms = [] ∨ ∃ inner, valuesOf name ms = [.object (named inner)] ∧ fit inner

/-- An object that fits is the record of all defaults with what its members say put over it, and so is one that
is not there. -/
theorem SectionFits.given_eq {l : Layout σ} {fit : List (String × Tree) → Prop}
    (hfit : ∀ {inner}, l.Fit inner ↔ fit inner) (h : SectionFits fit name ms) :
    Fits l.means name ms ∧
      given l.means l.start name ms = l.overlay l.start (sectionMembers name ms) := by
  obtain habsent | ⟨inner, honly, hinner⟩ := h
  · refine ⟨fits_of_absent l.means habsent, ?_⟩
    rw [given_of_absent habsent, sectionMembers, habsent]
    exact (l.putsOver.nil l.start).symm
  · have hmeans := l.means_of_fit (hfit.mpr hinner)
    refine ⟨fits_of_only honly (by rw [hmeans, Option.isSome_some]), ?_⟩
    rw [given, sectionMembers, honly, List.head?_cons, Option.bind_some, hmeans]
    simp only [named?_named, Option.getD_some]

end SessionRecovery.Json
