/-
  HNodeMgmt.Lib.Upsert — lists of entries with keys, updated in place.

  An entry with a new key goes to the end; an entry with a known key takes the
  place of the one that is there.  After a list of updates the keys stand in
  the order in which they came first, each of them once, and under a key is
  the entry that came last.

  Main results:
    * `find?_upsertAll` — the entry under a key is the last one.
    * `find?_keys_upsertAll` — the first key of a kind is the one that came
      first.
    * `upsertAll_upsertAll` — updating with an updated list is updating with
      the entries it was made of.
-/
import Mathlib.Tactic.Common
import Mathlib.Data.List.Induction

namespace HNodeMgmt.Lib

variable {α κ : Type} [DecidableEq κ] (key : α → κ)

/-- Put an entry in the place of the first one with its key, or at the end. -/
def upsert (a : α) : List α → List α
  | [] => [a]
  | b :: l => if key b = key a then a :: l else b :: upsert a l

/-- Update with each of the entries, in order. -/
def upsertAll (l as : List α) : List α := as.foldl (fun l a => upsert key a l) l

@[simp] theorem upsertAll_nil (l : List α) : upsertAll key l [] = l := rfl

@[simp] theorem upsertAll_cons (l : List α) (a : α) (as : List α) :
    upsertAll key l (a :: as) = upsertAll key (upsert key a l) as := rfl

theorem upsertAll_append (l as bs : List α) :
    upsertAll key l (as ++ bs) = upsertAll key (upsertAll key l as) bs := List.foldl_append

theorem mem_upsert {a b : α} :
    ∀ {l : List α}, b ∈ upsert key a l → b = a ∨ b ∈ l
  | [], h => Or.inl (List.mem_singleton.mp h)
  | c :: l, h => by
      rw [upsert] at h
      split at h
      next => exact (List.mem_cons.mp h).imp id (List.mem_cons_of_mem c)
      next =>
        rcases List.mem_cons.mp h with rfl | hmem
        · exact Or.inr List.mem_cons_self
        · exact (mem_upsert hmem).imp id (List.mem_cons_of_mem c)

/-- Nothing is there that was not put there. -/
theorem mem_upsertAll {b : α} :
    ∀ {as l : List α}, b ∈ upsertAll key l as → b ∈ l ∨ b ∈ as
  | [], _, h => Or.inl h
  | a :: as, l, h => by
      have htail : b ∈ upsertAll key (upsert key a l) as := h
      rcases mem_upsertAll htail with hmem | hmem
      · rcases mem_upsert key hmem with rfl | hl
        · exact Or.inr List.mem_cons_self
        · exact Or.inl hl
      · exact Or.inr (List.mem_cons_of_mem a hmem)

/-! ## §1. What is under a key. -/

theorem find?_upsert (a : α) (k : κ) :
    ∀ l : List α, (upsert key a l).find? (fun b => key b = k) =
      if key a = k then some a else l.find? fun b => key b = k
  | [] => by
      by_cases h : key a = k <;> simp [upsert, h]
  | b :: l => by
      have ih := find?_upsert a k l
      rw [upsert]
      by_cases hb : key b = key a
      · rw [if_pos hb]
        by_cases h : key a = k
        · rw [List.find?_cons_of_pos (by simpa using h), if_pos h]
        · rw [List.find?_cons_of_neg (by simpa using h), if_neg h,
            List.find?_cons_of_neg (by rw [hb]; simpa using h)]
      · rw [if_neg hb]
        by_cases h : key b = k
        · -- the entry in front is another one
          have hne : ¬ key a = k := fun hak => hb (h.trans hak.symm)
          rw [List.find?_cons_of_pos (by simpa using h), if_neg hne,
            List.find?_cons_of_pos (by simpa using h)]
        · rw [List.find?_cons_of_neg (by simpa using h), ih,
            List.find?_cons_of_neg (by simpa using h)]

/-- **Under a key is the entry that came last.** -/
theorem find?_upsertAll (k : κ) :
    ∀ (as l : List α), (upsertAll key l as).find? (fun b => key b = k) =
      (as.reverse.find? fun b => key b = k).or (l.find? fun b => key b = k)
  | [], l => by simp
  | a :: as, l => by
      rw [upsertAll_cons, find?_upsertAll k as, find?_upsert, List.reverse_cons, List.find?_append,
        Option.or_assoc]
      by_cases h : key a = k <;> simp [h]

/-- Where each key stands once, an entry is the one found under its key. -/
theorem find?_of_mem {a : α} :
    ∀ {l : List α}, (l.map key).Nodup → a ∈ l → l.find? (fun b => key b = key a) = some a
  | b :: l, h, hmem => by
      obtain ⟨hnot, hnodup⟩ := List.nodup_cons.mp (List.map_cons ▸ h)
      rcases List.mem_cons.mp hmem with rfl | hl
      · exact List.find?_cons_of_pos (by simp)
      · have hne : ¬ key b = key a := fun heq => hnot (heq ▸ List.mem_map_of_mem hl)
        rw [List.find?_cons_of_neg (by simpa using hne)]
        exact find?_of_mem hnodup hl

/-! ## §2. The order of the keys. -/

theorem keys_upsert (a : α) :
    ∀ l : List α, (upsert key a l).map key =
      if key a ∈ l.map key then l.map key else l.map key ++ [key a]
  | [] => rfl
  | b :: l => by
      have ih := keys_upsert a l
      rw [upsert]
      by_cases hb : key b = key a
      · simp [hb]
      · rw [if_neg hb, List.map_cons, ih]
        have hmem : key a ∈ (b :: l).map key ↔ key a ∈ l.map key := by
          rw [List.map_cons, List.mem_cons]
          exact ⟨fun h => h.resolve_left fun heq => hb heq.symm, Or.inr⟩
        by_cases h : key a ∈ l.map key
        · rw [if_pos h, if_pos (hmem.mpr h), List.map_cons]
        · rw [if_neg h, if_neg fun h' => h (hmem.mp h'), List.map_cons, List.cons_append]

theorem mem_keys_upsert {a : α} {l : List α} {k : κ} :
    k ∈ (upsert key a l).map key ↔ k ∈ l.map key ∨ k = key a := by
  rw [keys_upsert]
  split
  next h => exact ⟨Or.inl, fun hor => hor.elim id fun heq => heq ▸ h⟩
  next => simp

theorem mem_keys_upsertAll {k : κ} :
    ∀ {as l : List α}, k ∈ (upsertAll key l as).map key ↔ k ∈ l.map key ∨ k ∈ as.map key
  | [], l => by simp
  | a :: as, l => by
      rw [upsertAll_cons, mem_keys_upsertAll, mem_keys_upsert, List.map_cons, List.mem_cons,
        or_assoc]

/-- **Each key stands there once.** -/
theorem nodup_upsertAll :
    ∀ {as l : List α}, (l.map key).Nodup → ((upsertAll key l as).map key).Nodup
  | [], _, h => h
  | a :: as, l, h => by
      show ((upsertAll key (upsert key a l) as).map key).Nodup
      refine nodup_upsertAll ?_
      rw [keys_upsert]
      split
      next => exact h
      next hnew =>
        rw [List.nodup_append]
        refine ⟨h, by simp, ?_⟩
        rintro k hk k' hk' rfl
        obtain rfl := List.mem_singleton.mp hk'
        exact hnew hk

/-- A key that is there is not found any later. -/
theorem find?_keys_upsert (p : κ → Bool) (a : α) (l : List α) :
    ((upsert key a l).map key).find? p = (l.map key ++ [key a]).find? p := by
  rw [keys_upsert]
  split
  next hmem =>
    rw [List.find?_append]
    cases hfind : (l.map key).find? p with
    | some k => rfl
    | none =>
      have hnot := List.find?_eq_none.mp hfind (key a) hmem
      rw [Option.none_or, List.find?_cons_of_neg hnot, List.find?_nil]
  next => rfl

/-- **The first key of a kind is the one that came first.** -/
theorem find?_keys_upsertAll (p : κ → Bool) :
    ∀ as l : List α, ((upsertAll key l as).map key).find? p =
      (l.map key ++ as.map key).find? p
  | [], l => by simp
  | a :: as, l => by
      rw [upsertAll_cons, find?_keys_upsertAll p as, List.find?_append, find?_keys_upsert,
        ← List.find?_append, List.map_cons, List.append_assoc, List.singleton_append]

/-! ## §3. Updating with an updated list. -/

theorem upsert_upsert_same {a b : α} (h : key b = key a) :
    ∀ l : List α, upsert key a (upsert key b l) = upsert key a l
  | [] => by simp [upsert, h]
  | c :: l => by
      have ih := upsert_upsert_same h l
      by_cases hc : key c = key a
      · simp [upsert, hc, h]
      · have hcb : ¬ key c = key b := fun heq => hc (heq.trans h)
        rw [upsert, if_neg hcb, upsert, if_neg hc, ih, upsert, if_neg hc]

/-- An entry whose key is there may as well come later. -/
theorem upsert_comm {a b : α} (hne : key a ≠ key b) :
    ∀ {l : List α}, key a ∈ l.map key →
      upsert key a (upsert key b l) = upsert key b (upsert key a l)
  | [], h => absurd h List.not_mem_nil
  | c :: l, h => by
      by_cases ha : key c = key a
      · have hb : ¬ key c = key b := fun heq => hne (ha.symm.trans heq)
        simp [upsert, ha, hne]
      by_cases hb : key c = key b
      · simp [upsert, hb, Ne.symm hne]
      · have hmem : key a ∈ l.map key := by
          rw [List.map_cons, List.mem_cons] at h
          exact h.resolve_left fun heq => ha heq.symm
        rw [upsert, if_neg hb, upsert, if_neg ha, upsert_comm hne hmem, upsert, if_neg ha, upsert,
          if_neg hb]

theorem upsert_upsertAll {a : α} :
    ∀ {as l : List α}, key a ∉ as.map key → key a ∈ l.map key →
      upsert key a (upsertAll key l as) = upsertAll key (upsert key a l) as
  | [], _, _, _ => rfl
  | b :: as, l, hnot, hmem => by
      rw [List.map_cons, List.mem_cons, not_or] at hnot
      have hmem' : key a ∈ (upsert key b l).map key := (mem_keys_upsert key).mpr (Or.inl hmem)
      rw [upsertAll_cons, upsert_upsertAll hnot.2 hmem', upsert_comm key hnot.1 hmem,
        upsertAll_cons]

theorem upsertAll_upsert (a : α) :
    ∀ (as l : List α), (as.map key).Nodup →
      upsertAll key l (upsert key a as) = upsert key a (upsertAll key l as)
  | [], _, _ => rfl
  | b :: as, l, h => by
      obtain ⟨hnot, hnodup⟩ := List.nodup_cons.mp (List.map_cons ▸ h)
      by_cases hb : key b = key a
      · have hthere : key a ∈ (upsert key b l).map key :=
          (mem_keys_upsert key).mpr (Or.inr hb.symm)
        rw [upsert, if_pos hb, upsertAll_cons, upsertAll_cons,
          upsert_upsertAll key (hb ▸ hnot) hthere, upsert_upsert_same key hb]
      · rw [upsert, if_neg hb, upsertAll_cons, upsertAll_cons, upsertAll_upsert a as _ hnodup]

/-- **Updating with an updated list** is updating with its entries. -/
theorem upsertAll_upsertAll (l as : List α) :
    upsertAll key l (upsertAll key [] as) = upsertAll key l as := by
  induction as using List.reverseRecOn with
  | nil => rfl
  | append_singleton as a ih =>
    have hnodup : ((upsertAll key [] as).map key).Nodup := nodup_upsertAll key List.nodup_nil
    rw [upsertAll_append, upsertAll_append, ← ih]
    exact upsertAll_upsert key a _ l hnodup

end HNodeMgmt.Lib
