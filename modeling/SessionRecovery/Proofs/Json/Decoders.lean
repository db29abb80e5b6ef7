import SessionRecovery.Json.Decoder
import SessionRecovery.Proofs.Json.Values

/-!
# Decoders of written values

Decoders are put together from decoders, and so is what they read back: one lemma for each way of putting
them together. A record is read back from an object that has each of its members at most once, and the
required ones at all, in whatever order they are written.
-/

namespace SessionRecovery.Json

open Utf8

namespace ReadsBack

variable {α β : Type} {d : Decoder α} {e : Decoder β} {n : Nat} {x : α} {y : β} {bs : Bytes}

/-- A whole text is read back. -/
theorem read (h : ReadsBack (d.fromText fullAllowance) x bs) : d.read bs = .ok x := by
  have hreads : d.fromText fullAllowance (bs ++ []) = .ok (x, []) := h.reads trivial
  rw [List.append_nil] at hreads
  rw [Decoder.read, hreads]
  rfl

theorem map (f : α → β) (h : ReadsBack (d.fromText n) x bs) :
    ReadsBack ((d.map f).fromText n) (f x) bs where
  begins := h.begins
  reads hrest := by
    simp only [Decoder.map, h.reads hrest]
    rfl

theorem any {p : NormalJson} (hexact : p.value.isExact = true) (hdepth : p.value.depth ≤ n) :
    ReadsBack (Decoder.any.fromText n) p p.value.bytes where
  begins := (value_reads hexact hdepth).begins
  reads {rest} hrest := by
    have hof : NormalJson.of p.value = p := by simp only [NormalJson.of, p.normal]
    simp only [Decoder.any, (value_reads hexact hdepth).reads hrest]
    exact congrArg (fun q => Except.ok (q, rest)) hof

theorem string (n : Nat) (s : String) :
    ReadsBack (Decoder.string.fromText n) s (Json.str s).bytes where
  begins := ⟨_, _, rfl, rfl, by decide⟩
  reads {rest} _ := by
    rw [bytes, chars, textChars_eq]
    exact text_chars s rest

/-- A word is read back as its meaning. -/
theorem oneOf (n : Nat) {words : List (String × α)} {word : String}
    (h : Decoder.meaning words word = .ok x) :
    ReadsBack ((Decoder.oneOf words).fromText n) x (Json.str word).bytes where
  begins := ⟨_, _, rfl, rfl, by decide⟩
  reads {rest} _ := by
    rw [bytes, chars, textChars_eq]
    show (text _).bind _ = _
    simp only [text_chars, Except.bind, h]
    rfl

theorem optional_null (d : Decoder α) (n : Nat) :
    ReadsBack (d.optional.fromText n) none Json.null.bytes where
  begins := ⟨_, _, rfl, rfl, by decide⟩
  reads _ := rfl

theorem optional (h : ReadsBack (d.fromText n) x bs) (hfirst : bs.head? ≠ some 0x6E) :
    ReadsBack (d.optional.fromText n) (some x) bs where
  begins := h.begins
  reads {rest} hrest := by
    have hreads := h.reads hrest
    obtain ⟨b, bs, rfl, hgap, -⟩ := h.begins
    have hne : b ≠ 0x6E := fun hb => hfirst (congrArg some hb)
    rw [List.cons_append] at hreads ⊢
    simp only [Decoder.optional, skipGap_cons hgap, if_neg hne, hreads]
    rfl

theorem list {js : List Json} {xs : List α}
    (h : List.Forall₂ (fun j x => ReadsBack (d.fromText n) x j.bytes) js xs) :
    ReadsBack (d.list.fromText (n + 1)) xs (Json.arr js).bytes := by
  obtain ⟨body, hbytes, hitems⟩ := items_arr h
  rw [hbytes]
  exact ⟨⟨_, _, rfl, rfl, by decide⟩, fun {rest} _ => hitems rest⟩

theorem itemAt (h : ReadsBack (d.fromText n) x bs) (place : Nat) (expected : String)
    {front rest : Bytes} (hrest : Delimited rest)
    (hnext : nextItem (place = 0) front = .ok (some (bs ++ rest))) :
    Decoder.itemAt d n place expected front = .ok (x, rest) := by
  rw [Decoder.itemAt, hnext]
  exact h.reads hrest

theorem pair {j k : Json} (hx : ReadsBack (d.fromText n) x j.bytes)
    (hy : ReadsBack (e.fromText n) y k.bytes) :
    ReadsBack ((d.pair e).fromText (n + 1)) (x, y) (Json.arr [j, k]).bytes := by
  rw [bytes_arr_cons]
  refine ⟨⟨_, _, rfl, rfl, by decide⟩, fun {rest} _ => ?_⟩
  have hfirst := hx.itemAt 0 Decoder.pairWords (delimited_itemsTail [k] rest)
    (hx.nextItem_first _)
  have hsecond := hy.itemAt 1 Decoder.pairWords (delimited_itemsTail [] rest)
    (hy.nextItem_comma _)
  rw [itemsTail_cons] at hfirst
  rw [List.cons_append, List.append_assoc]
  show (Decoder.itemAt d n 0 Decoder.pairWords _ >>= _) = _
  rw [itemsTail_cons, hfirst]
  show (Decoder.itemAt e n 1 Decoder.pairWords _ >>= _) = _
  rw [List.cons_append, List.append_assoc, hsecond]
  rfl

end ReadsBack

/-! ## Records -/

section
variable {σ : Type} {fields : List (Decoder.Field σ)} {n : Nat} {rest : Bytes}

/-- A written member belongs to a field of the record, and is read back as a change of the record. -/
def FieldReads (fields : List (Decoder.Field σ)) (n : Nat) (m : String × Json) (g : σ → σ) : Prop :=
  ∃ f, fields.find? (·.name = m.1) = some f ∧ ReadsBack (f.update.fromText n) g m.2.bytes

/-- A member changes the record, and the others follow it. -/
theorem recordMembers_step {m : String × Json} {g : σ → σ} (h : FieldReads fields n m g)
    {seen : List String} (hnew : m.1 ∉ seen) {front : Bytes} {first : Bool} (hrest : Delimited rest)
    (hnext : nextMember first front = .ok (some (memberBytes m ++ rest))) (steps : Nat) (s : σ) :
    Decoder.recordMembers n fields (steps + 1) seen first s front =
      Decoder.recordMembers n fields steps (m.1 :: seen) false (g s) rest := by
  obtain ⟨f, hfind, hread⟩ := h
  have hfresh : seen.contains m.1 = false := by simpa using hnew
  have hvalue : (colon (0x3A :: (m.2.bytes ++ rest))).bind (f.update.fromText n) = .ok (g, rest) :=
    hread.reads hrest
  simp only [Decoder.recordMembers, hnext, text_memberBytes, hfind, hfresh, Bool.false_eq_true,
    if_false, hvalue]

/-- At the end of the object the record is complete when every required name has been seen. -/
theorem recordMembers_end {seen : List String}
    (hall : ∀ f ∈ fields, f.required = true → f.name ∈ seen) (steps : Nat) (first : Bool) (s : σ)
    (rest : Bytes) :
    Decoder.recordMembers n fields (steps + 1) seen first s (0x7D :: rest) =
      .ok (s, 0x7D :: rest) := by
  have hnone : Decoder.missing? fields seen = none := by
    rw [Decoder.missing?, Option.map_eq_none_iff, List.find?_eq_none]
    intro f hf hmissing
    obtain ⟨hrequired, hunseen⟩ : f.required = true ∧ f.name ∉ seen := by simpa using hmissing
    exact hunseen (hall f hf hrequired)
  have hend : nextMember first (0x7D :: rest) = .ok none := rfl
  simp only [Decoder.recordMembers, hend, hnone]

/-- The members behind a member change the record one after another. -/
theorem recordMembers_tail {ms : List (String × Json)} {gs : List (σ → σ)}
    (h : List.Forall₂ (FieldReads fields n) ms gs) {seen : List String}
    (hnew : (ms.map (·.1) ++ seen).Nodup)
    (hall : ∀ f ∈ fields, f.required = true → f.name ∈ ms.map (·.1) ++ seen) {steps : Nat}
    (hsteps : ms.length < steps) (s : σ) (rest : Bytes) :
    Decoder.recordMembers n fields steps seen false s (encodeChars (membersTail ms) ++ rest) =
      .ok (gs.foldl (fun s g => g s) s, 0x7D :: rest) := by
  induction h generalizing seen steps s with
  | nil =>
    obtain _ | steps := steps
    · exact absurd hsteps (Nat.lt_irrefl _)
    · exact recordMembers_end hall steps false s rest
  | @cons m g ms gs hm _ ih =>
    obtain _ | steps := steps
    · exact absurd hsteps (Nat.not_lt_zero _)
    · -- the name moves from those still to come to those seen
      have hmove : (ms.map (·.1) ++ m.1 :: seen).Perm ((m :: ms).map (·.1) ++ seen) :=
        List.perm_middle
      have hfresh : m.1 ∉ seen := fun hseen =>
        (List.nodup_cons.mp hnew).1 (List.mem_append_right _ hseen)
      rw [membersTail_cons, List.cons_append, List.cons_append, List.append_assoc,
        recordMembers_step hm hfresh (delimited_membersTail ms rest) (nextMember_comma _)]
      exact ih (hmove.nodup_iff.mpr hnew) (fun f hf hreq => hmove.mem_iff.mpr (hall f hf hreq))
        (Nat.lt_of_succ_lt_succ hsteps) (g s)

/-- A record is read back from an object with each of its members at most once, the required ones at all. -/
theorem ReadsBack.record {ms : List (String × Json)} {gs : List (σ → σ)} (title : String) (start : σ)
    (h : List.Forall₂ (FieldReads fields n) ms gs) (hnew : (ms.map (·.1)).Nodup)
    (hall : ∀ f ∈ fields, f.required = true → f.name ∈ ms.map (·.1)) :
    ReadsBack ((Decoder.record title start fields).fromText (n + 1))
      (gs.foldl (fun s g => g s) start) (Json.obj ms).bytes := by
  -- once the members are read, so is the brace behind them
  have hclose (body : Bytes) {rest : Bytes} {s : σ}
      (hbody : Decoder.recordMembers n fields ((body ++ rest).length + 1) [] true start
        (body ++ rest) = .ok (s, 0x7D :: rest)) :
      (Decoder.record title start fields).fromText (n + 1) (0x7B :: (body ++ rest)) =
        .ok (s, rest) := by
    show (Decoder.recordMembers n fields _ [] true start (body ++ rest)).bind _ = _
    rw [hbody]
    rfl
  cases h with
  | nil =>
    refine ⟨⟨_, _, rfl, rfl, by decide⟩, fun {rest} _ => hclose [0x7D] ?_⟩
    exact recordMembers_end hall _ true start rest
  | @cons m g ms gs hm hms =>
    rw [bytes_obj_cons]
    refine ⟨⟨_, _, rfl, rfl, by decide⟩, fun {rest} _ => hclose _ ?_⟩
    have hmove : (ms.map (·.1) ++ [m.1]).Perm ((m :: ms).map (·.1)) :=
      List.perm_append_singleton ..
    have hsteps := length_lt_membersTail ms
    rw [List.cons_append, List.append_assoc,
      recordMembers_step hm List.not_mem_nil (delimited_membersTail ms rest) (nextMember_first _),
      recordMembers_tail hms (hmove.nodup_iff.mpr hnew)
        (fun f hf hreq => hmove.mem_iff.mpr (hall f hf hreq))
        (by simp only [List.length_cons, List.length_append]; omega)]
    rfl

end

end SessionRecovery.Json
