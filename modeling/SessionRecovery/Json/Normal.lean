import SessionRecovery.Json.Basic

/-!
# The normal form of a value

In normal form every object lists each name once, in ascending order; where a name was repeated its
last value stands. Normalizing a second time changes nothing.
-/

namespace SessionRecovery

/-- The names of a list of members ascend strictly. -/
def Ascending {β : Type} (ms : List (String × β)) : Prop :=
  ms.Pairwise fun m n => m.1 < n.1

/-- Puts a member into ascending members, in place of one of the same name. -/
def insertMember {β : Type} (name : String) (value : β) : List (String × β) → List (String × β)
  | [] => [(name, value)]
  | (other, old) :: rest =>
    if name = other then (name, value) :: rest
    else if name < other then (name, value) :: (other, old) :: rest
    else (other, old) :: insertMember name value rest

/-- Each name once, in ascending order, with its last value. -/
def collect {β : Type} (ms : List (String × β)) : List (String × β) :=
  ms.foldl (fun acc m => insertMember m.1 m.2 acc) []

/-- The members after an insertion are the new one and some of the old ones. -/
theorem mem_insertMember {β : Type} {name : String} {value : β} {ms : List (String × β)}
    {m : String × β} (h : m ∈ insertMember name value ms) : m = (name, value) ∨ m ∈ ms := by
  induction ms with
  | nil => simpa [insertMember] using h
  | cons head rest ih =>
    obtain ⟨other, old⟩ := head
    unfold insertMember at h
    split at h
    · rcases List.mem_cons.1 h with h | h
      · exact .inl h
      · exact .inr (List.mem_cons_of_mem _ h)
    · split at h
      · rcases List.mem_cons.1 h with h | h
        · exact .inl h
        · exact .inr h
      · rcases List.mem_cons.1 h with h | h
        · exact .inr (h ▸ List.mem_cons_self)
        · rcases ih h with h | h
          · exact .inl h
          · exact .inr (List.mem_cons_of_mem _ h)

/-- Two names, neither below the other, are one name. -/
theorem lt_of_not_lt_of_ne {a b : String} (hne : a ≠ b) (h : ¬ a < b) : b < a := by
  rcases String.le_total a b with hab | hba
  · exact absurd (String.le_antisymm hab (String.not_lt.1 h)) hne
  · exact Classical.byContradiction fun hn =>
      hne (String.le_antisymm (String.not_lt.1 hn) (String.not_lt.1 h))

/-- Insertion keeps the names ascending. -/
theorem Ascending.insertMember {β : Type} {ms : List (String × β)} (h : Ascending ms)
    (name : String) (value : β) : Ascending (insertMember name value ms) := by
  induction ms with
  | nil => simp [SessionRecovery.insertMember, Ascending]
  | cons head rest ih =>
    obtain ⟨other, old⟩ := head
    obtain ⟨hhead, hrest⟩ := List.pairwise_cons.1 h
    unfold SessionRecovery.insertMember
    split
    · next heq =>
      subst heq
      exact List.pairwise_cons.2 ⟨hhead, hrest⟩
    · next hne =>
      split
      · next hlt =>
        refine List.pairwise_cons.2 ⟨?_, h⟩
        intro m hm
        rcases List.mem_cons.1 hm with rfl | hm
        · exact hlt
        · exact String.lt_trans hlt (hhead m hm)
      · next hlt =>
        refine List.pairwise_cons.2 ⟨?_, ih hrest⟩
        intro m hm
        rcases mem_insertMember hm with rfl | hm
        · exact lt_of_not_lt_of_ne hne hlt
        · exact hhead m hm

/-- A name above all others goes to the end. -/
theorem insertMember_of_forall_lt {β : Type} {ms : List (String × β)} {name : String} {value : β}
    (h : ∀ m ∈ ms, m.1 < name) : insertMember name value ms = ms ++ [(name, value)] := by
  induction ms with
  | nil => rfl
  | cons head rest ih =>
    obtain ⟨other, old⟩ := head
    have hlt : other < name := h (other, old) List.mem_cons_self
    have hne : name ≠ other := fun heq => String.lt_irrefl name (heq ▸ hlt)
    have hnot : ¬ name < other := String.lt_asymm hlt
    simp only [insertMember, hne, hnot, if_false, List.cons_append]
    rw [ih fun m hm => h m (List.mem_cons_of_mem _ hm)]

/-- The names of collected members ascend. -/
theorem ascending_collect {β : Type} (ms : List (String × β)) : Ascending (collect ms) := by
  have go : ∀ (ms acc : List (String × β)), Ascending acc →
      Ascending (ms.foldl (fun acc m => insertMember m.1 m.2 acc) acc) := by
    intro ms
    induction ms with
    | nil => exact fun _ h => h
    | cons m rest ih => exact fun acc h => ih _ (h.insertMember m.1 m.2)
  exact go ms [] List.Pairwise.nil

/-- Collecting adds no member. -/
theorem mem_of_mem_collect {β : Type} {ms : List (String × β)} {m : String × β}
    (h : m ∈ collect ms) : m ∈ ms := by
  have go : ∀ (ms acc : List (String × β)),
      m ∈ ms.foldl (fun acc m => insertMember m.1 m.2 acc) acc → m ∈ ms ∨ m ∈ acc := by
    intro ms
    induction ms with
    | nil => exact fun _ h => .inr h
    | cons n rest ih =>
      intro acc h
      rcases ih _ h with h | h
      · exact .inl (List.mem_cons_of_mem _ h)
      · rcases mem_insertMember h with h | h
        · exact .inl (h ▸ List.mem_cons_self)
        · exact .inr h
  rcases go ms [] h with h | h
  · exact h
  · cases h

/-- Ascending members are collected already. -/
theorem collect_of_ascending {β : Type} {ms : List (String × β)} (h : Ascending ms) :
    collect ms = ms := by
  have go : ∀ (ms acc : List (String × β)), Ascending (acc ++ ms) →
      ms.foldl (fun acc m => insertMember m.1 m.2 acc) acc = acc ++ ms := by
    intro ms
    induction ms with
    | nil => simp
    | cons m rest ih =>
      intro acc h
      have hlt : ∀ n ∈ acc, n.1 < m.1 := fun n hn =>
        (List.pairwise_append.1 h).2.2 n hn m List.mem_cons_self
      rw [List.foldl_cons, insertMember_of_forall_lt hlt, ih _ (by simpa using h)]
      simp
  have h' := go ms [] (by simpa using h)
  rwa [List.nil_append] at h'

namespace Json

mutual
/-- The value with every object in normal form. -/
def normalize : Json → Json
  | .arr items => .arr (normalizeItems items)
  | .obj members => .obj (collect (normalizeMembers members))
  | .null => .null
  | .bool b => .bool b
  | .num n => .num n
  | .str s => .str s
termination_by structural j => j

/-- Every item in normal form. -/
def normalizeItems : List Json → List Json
  | [] => []
  | j :: rest => j.normalize :: normalizeItems rest
termination_by structural js => js

/-- Every member in normal form. -/
def normalizeMembers : List (String × Json) → List (String × Json)
  | [] => []
  | m :: rest => normalizeMember m :: normalizeMembers rest
termination_by structural ms => ms

/-- A member with its value in normal form. -/
def normalizeMember : String × Json → String × Json
  | (name, j) => (name, j.normalize)
termination_by structural m => m
end

/-- Normalized members are the members with the normal forms of their values. -/
theorem normalizeMembers_eq_map (ms : List (String × Json)) :
    normalizeMembers ms = ms.map fun m => (m.1, m.2.normalize) := by
  induction ms with
  | nil => rfl
  | cons m rest ih =>
    obtain ⟨name, j⟩ := m
    simp [normalizeMembers, normalizeMember, ih]

/-- Members whose values are normal forms stay so when they are collected. -/
theorem normalizeMembers_collect {ms : List (String × Json)}
    (h : normalizeMembers ms = ms) : normalizeMembers (collect ms) = collect ms := by
  have hfixed : ∀ m ∈ ms, m.2.normalize = m.2 := by
    intro m hm
    rw [normalizeMembers_eq_map] at h
    have h' : ms.map (fun m => (m.1, m.2.normalize)) = ms.map id := by rw [h, List.map_id]
    exact congrArg Prod.snd (List.map_inj_left.1 h' m hm)
  rw [normalizeMembers_eq_map]
  conv => rhs; rw [← List.map_id (collect ms)]
  refine List.map_congr_left fun m hm => ?_
  rw [hfixed m (mem_of_mem_collect hm)]
  rfl

mutual
/-- A normal form is its own normal form. -/
theorem normalize_normalize : ∀ j : Json, j.normalize.normalize = j.normalize
  | .arr items => congrArg Json.arr (normalizeItems_normalizeItems items)
  | .obj members => by
    show Json.obj (collect (normalizeMembers (collect (normalizeMembers members)))) = _
    rw [normalizeMembers_collect (normalizeMembers_normalizeMembers members),
      collect_of_ascending (ascending_collect _)]
    rfl
  | .null => rfl
  | .bool _ => rfl
  | .num _ => rfl
  | .str _ => rfl
termination_by structural j => j

/-- Normal items are their own normal forms. -/
theorem normalizeItems_normalizeItems : ∀ js : List Json,
    normalizeItems (normalizeItems js) = normalizeItems js
  | [] => rfl
  | j :: rest => by
    show j.normalize.normalize :: normalizeItems (normalizeItems rest) = _
    rw [normalize_normalize j, normalizeItems_normalizeItems rest]
    rfl
termination_by structural js => js

/-- Normal members are their own normal forms. -/
theorem normalizeMembers_normalizeMembers : ∀ ms : List (String × Json),
    normalizeMembers (normalizeMembers ms) = normalizeMembers ms
  | [] => rfl
  | m :: rest => by
    show normalizeMember (normalizeMember m) :: normalizeMembers (normalizeMembers rest) = _
    rw [normalizeMember_normalizeMember m, normalizeMembers_normalizeMembers rest]
    rfl
termination_by structural ms => ms

/-- A normal member is its own normal form. -/
theorem normalizeMember_normalizeMember : ∀ m : String × Json,
    normalizeMember (normalizeMember m) = normalizeMember m
  | (name, j) => congrArg (Prod.mk name) (normalize_normalize j)
termination_by structural m => m
end

end Json

/-- A value in normal form. -/
structure NormalJson where
  /-- The value. -/
  value : Json
  /-- It is its own normal form. -/
  normal : value.normalize = value

/-- The normal form of a value. -/
def NormalJson.of (j : Json) : NormalJson := ⟨j.normalize, Json.normalize_normalize j⟩

end SessionRecovery
