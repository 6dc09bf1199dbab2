/-
  HNodeMgmt.Lib.OrdMap — ordered maps, and the index that inverts a relation.

  `std::map` is the standard library's extensional tree map: iteration is in
  key order, `insert` does not overwrite.  This file fixes the spelling
  (`m[k]?`, equality of keys instead of `compare`) that the proofs use, the
  successor of a key (what `++` does to an iterator), and the inverse index:
  from rows `(key, types)` the map from each type to the keys of its rows.

  Main results:
    * `insertAll_perm_iff` — when a list of entries survives its insertion.
    * `invert_getD` — the list under a type is EXACTLY the keys of the rows
      holding it, in row order, once per occurrence.
    * `mem_invert` — a key is listed under a type iff one of its rows holds
      the type.
    * `mem_invert_keys` — no other type is a key of it.
-/
import Mathlib.Tactic.Common
import Mathlib.Data.List.Sort
import Mathlib.Data.List.Perm.Subperm
import HNodeMgmt.Lib.Upsert

namespace HNodeMgmt.Lib

/-- `std::map`: a finite map iterated in key order. -/
abbrev OrdMap (κ α : Type) [Ord κ] := Std.ExtTreeMap κ α compare

namespace OrdMap

variable {κ α : Type} [Ord κ] [Std.TransOrd κ]

/-! ## §1. Keys and iteration order. -/

theorem mem_iff_get (m : OrdMap κ α) (k : κ) : k ∈ m ↔ ∃ v, m[k]? = some v := by
  constructor
  · intro h
    exact ⟨m[k], Std.ExtTreeMap.getElem?_eq_some_getElem h⟩
  · rintro ⟨v, hv⟩
    exact Std.ExtTreeMap.mem_iff_isSome_getElem?.mpr (by simp [hv])

theorem not_mem_iff_get (m : OrdMap κ α) (k : κ) : k ∉ m ↔ m[k]? = none := by
  rw [mem_iff_get]
  cases m[k]? <;> simp

variable [Std.LawfulEqOrd κ]

/-- Two maps with the same keys are iterated in the same order. -/
theorem keys_eq_of_mem_iff {β : Type} {m : OrdMap κ α} {m' : OrdMap κ β}
    (h : ∀ k, k ∈ m ↔ k ∈ m') : m.keys = m'.keys := by
  have hasymm : ∀ a b, a ∈ m.keys → b ∈ m'.keys →
      compare a b = .lt → compare b a = .lt → a = b := by
    intro a b _ _ hab hba
    rw [Std.OrientedOrd.eq_swap (a := a) (b := b), hba] at hab
    cases hab
  apply List.Perm.eq_of_pairwise hasymm m.ordered_keys m'.ordered_keys
  rw [List.perm_ext_iff_of_nodup m.nodup_keys m'.nodup_keys]
  simpa [Std.ExtTreeMap.mem_keys] using h

/-- The entries of a map, listed with ascending keys, are what it is iterated as. -/
theorem toList_eq {m : OrdMap κ α} {l : List (κ × α)}
    (hsorted : l.Pairwise fun a b => compare a.1 b.1 = .lt)
    (hmem : ∀ k v, m[k]? = some v ↔ (k, v) ∈ l) : m.toList = l := by
  have hasymm : ∀ a b, a ∈ m.toList → b ∈ l →
      compare a.1 b.1 = .lt → compare b.1 a.1 = .lt → a = b := by
    intro a b _ _ hab hba
    rw [Std.OrientedOrd.eq_swap (a := a.1) (b := b.1), hba] at hab
    cases hab
  have hne : ∀ {a b : κ × α}, compare a.1 b.1 = .lt → a ≠ b := by
    intro a b hlt heq
    rw [heq, Std.ReflOrd.compare_self] at hlt
    cases hlt
  refine List.Perm.eq_of_pairwise hasymm m.ordered_keys_toList hsorted ?_
  rw [List.perm_ext_iff_of_nodup (m.ordered_keys_toList.imp hne) (hsorted.imp hne)]
  intro ⟨k, v⟩
  rw [Std.ExtTreeMap.mem_toList_iff_getElem?_eq_some, hmem]

/-- The key an iterator at `k` moves to: the first one above `k`. -/
def next? (m : OrdMap κ α) (k : κ) : Option κ := m.keys.find? fun k' => compare k k' == .lt

/-- The iterator moves down the list of keys. -/
theorem next?_of_keys {m : OrdMap κ α} {k : κ} {pre post : List κ}
    (h : m.keys = pre ++ k :: post) : m.next? k = post.head? := by
  have hsorted : (pre ++ k :: post).Pairwise fun a b => compare a b = .lt := h ▸ m.ordered_keys
  obtain ⟨-, htail, hpre⟩ := List.pairwise_append.mp hsorted
  obtain ⟨hpost, -⟩ := List.pairwise_cons.mp htail
  -- no key before `k` is above it, and `k` is not above itself
  have hskip : (pre ++ [k]).find? (fun k' => compare k k' == .lt) = none := by
    rw [List.find?_eq_none]
    intro k' hk'
    rcases List.mem_append.mp hk' with hmem | hmem
    · have hlt : compare k' k = .lt := hpre k' hmem k (by simp)
      rw [Std.OrientedOrd.eq_swap (a := k) (b := k'), hlt]
      decide
    · rw [List.mem_singleton.mp hmem, Std.ReflOrd.compare_self]
      decide
  unfold next?
  rw [h, List.append_cons, List.find?_append, hskip, Option.none_or]
  cases post with
  | nil => rfl
  | cons k' post =>
    have hlt : compare k k' = .lt := hpost k' (by simp)
    rw [List.find?_cons_of_pos (by rw [hlt]; rfl)]
    rfl

/-- The iterator passes over no key: what is above the old position is not
below the new one, and at the end nothing is above it. -/
theorem next?_cases (m : OrdMap κ α) (k : κ) :
    (m.next? k = none ∧ ∀ j ∈ m, compare k j ≠ .lt) ∨
      ∃ k', m.next? k = some k' ∧ compare k k' = .lt ∧
        ∀ j ∈ m, compare k j = .lt → compare k' j ≠ .gt := by
  cases hnext : m.next? k with
  | none =>
    refine .inl ⟨rfl, fun j hj hlt => ?_⟩
    have hnot := List.find?_eq_none.mp hnext j (Std.ExtTreeMap.mem_keys.mpr hj)
    exact hnot (by rw [hlt]; rfl)
  | some k' =>
    obtain ⟨habove, pre, post, hkeys, hpre⟩ := List.find?_eq_some_iff_append.mp hnext
    refine .inr ⟨k', rfl, by simpa using habove, fun j hj hlt => ?_⟩
    have hsorted : (pre ++ k' :: post).Pairwise fun a b => compare a b = .lt :=
      hkeys ▸ m.ordered_keys
    have hmem : j ∈ pre ++ k' :: post := hkeys ▸ Std.ExtTreeMap.mem_keys.mpr hj
    rcases List.mem_append.mp hmem with hin | hin
    · -- the keys before `k'` are not above `k`
      have hnot := hpre j hin
      rw [hlt] at hnot
      cases hnot
    · rcases List.mem_cons.mp hin with rfl | hin
      · rw [Std.ReflOrd.compare_self]
        decide
      · have hpost := (List.pairwise_cons.mp (List.pairwise_append.mp hsorted).2.1).1 j hin
        rw [hpost]
        decide

/-- The first key is below the others. -/
theorem head?_least {m : OrdMap κ α} {k : κ} (h : m.keys.head? = some k) :
    ∀ j ∈ m, compare k j ≠ .gt := by
  intro j hj
  obtain ⟨rest, hkeys⟩ := List.head?_eq_some_iff.mp h
  have hsorted : (k :: rest).Pairwise fun a b => compare a b = .lt := hkeys ▸ m.ordered_keys
  have hmem : j ∈ k :: rest := hkeys ▸ Std.ExtTreeMap.mem_keys.mpr hj
  rcases List.mem_cons.mp hmem with rfl | hin
  · rw [Std.ReflOrd.compare_self]
    decide
  · rw [(List.pairwise_cons.mp hsorted).1 j hin]
    decide

/-! ## §2. Lookup after each operation. -/

theorem get_filter (m : OrdMap κ α) (k : κ) (p : κ → α → Bool) :
    (m.filter p)[k]? = m[k]?.filter (p k) :=
  Std.ExtTreeMap.getElem?_filter'

variable [DecidableEq κ]

theorem get_modify (m : OrdMap κ α) (k k' : κ) (f : α → α) :
    (m.modify k f)[k']? = if k = k' then m[k']?.map f else m[k']? := by
  by_cases h : k = k'
  · subst h; simp
  · simp [Std.ExtTreeMap.getElem?_modify, h]

theorem get_insertIfNew (m : OrdMap κ α) (k k' : κ) (v : α) :
    (m.insertIfNew k v)[k']? = if k = k' ∧ k ∉ m then some v else m[k']? := by
  simp [Std.ExtTreeMap.getElem?_insertIfNew]

theorem get_insert (m : OrdMap κ α) (k k' : κ) (v : α) :
    (m.insert k v)[k']? = if k = k' then some v else m[k']? := by
  simp [Std.ExtTreeMap.getElem?_insert]

theorem get_erase (m : OrdMap κ α) (k k' : κ) :
    (m.erase k)[k']? = if k = k' then none else m[k']? := by
  simp [Std.ExtTreeMap.getElem?_erase]

/-- Erasing a key that is not there changes nothing. -/
theorem erase_of_not_mem {m : OrdMap κ α} {k : κ} (h : k ∉ m) : m.erase k = m := by
  refine Std.ExtTreeMap.ext_getElem? fun k' => ?_
  rw [get_erase]
  by_cases heq : k = k'
  · rw [if_pos heq, ← heq, (not_mem_iff_get m k).mp h]
  · rw [if_neg heq]

/-- The first entry of a key in the list of all entries is its value. -/
theorem find?_toList (m : OrdMap κ α) (k : κ) :
    (m.toList.find? fun p => p.1 = k).map Prod.snd = m[k]? := by
  cases hfind : m.toList.find? fun p => p.1 = k with
  | none =>
    symm
    rw [Option.map_none, ← not_mem_iff_get, mem_iff_get]
    rintro ⟨v, hv⟩
    have hmem := Std.ExtTreeMap.mem_toList_iff_getElem?_eq_some.mpr hv
    simpa using List.find?_eq_none.mp hfind (k, v) hmem
  | some p =>
    have hkey : p.1 = k := by simpa using List.find?_some hfind
    rw [Option.map_some, ← hkey]
    exact (Std.ExtTreeMap.mem_toList_iff_getElem?_eq_some.mp (List.mem_of_find?_eq_some hfind)).symm

/-- The keys of a map that are one of a kind. -/
theorem filter_keys {m : OrdMap κ α} {key : κ} {p : κ → Bool} (hkey : p key = true)
    (h : ∀ k ∈ m, p k = true → k = key) :
    m.keys.filter p = if m[key]?.isSome then [key] else [] := by
  have hfilter : m.keys.filter p = m.keys.filter (· == key) := by
    refine List.filter_congr fun k hk => ?_
    have hmem : k ∈ m := Std.ExtTreeMap.mem_keys.mp hk
    by_cases heq : k = key
    · subst heq
      rw [hkey, beq_self_eq_true]
    · have hp : p k = false := by
        by_contra hp
        exact heq (h k hmem (by simpa using hp))
      rw [hp]
      exact (beq_false_of_ne heq).symm
  rw [hfilter, List.filter_beq]
  split
  next hsome =>
    have hmem : key ∈ m.keys := by
      rw [Std.ExtTreeMap.mem_keys, mem_iff_get]
      exact Option.isSome_iff_exists.mp hsome
    rw [List.count_eq_one_of_mem m.nodup_keys hmem]
    rfl
  next hnone =>
    have hmem : key ∉ m.keys := by
      rw [Std.ExtTreeMap.mem_keys, not_mem_iff_get]
      simpa using hnone
    rw [List.count_eq_zero_of_not_mem hmem]
    rfl

/-- Insert in order; the first value of a key stays. -/
def insertAll (m : OrdMap κ α) (l : List (κ × α)) : OrdMap κ α :=
  l.foldl (fun m p => m.insertIfNew p.1 p.2) m

/-- What is found afterwards: what was there, or the first value inserted. -/
theorem get_insertAll (l : List (κ × α)) :
    ∀ (m : OrdMap κ α) (k : κ),
      (insertAll m l)[k]? = m[k]?.or ((l.find? fun p => p.1 = k).map Prod.snd) := by
  induction l with
  | nil => intro m k; simp [insertAll]
  | cons p l ih =>
    intro m k
    have hcons : insertAll m (p :: l) = insertAll (m.insertIfNew p.1 p.2) l := rfl
    rw [hcons, ih, get_insertIfNew]
    by_cases hkey : p.1 = k
    · rw [List.find?_cons_of_pos (by simpa using hkey)]
      by_cases hmem : p.1 ∈ m
      · obtain ⟨v, hv⟩ := (mem_iff_get m p.1).mp hmem
        rw [if_neg fun h => h.2 hmem, ← hkey, hv]
        rfl
      · have hnone := (not_mem_iff_get m p.1).mp hmem
        rw [if_pos ⟨hkey, hmem⟩, ← hkey, hnone]
        rfl
    · rw [List.find?_cons_of_neg (by simpa using hkey), if_neg fun h => hkey h.1]

/-- What is found after inserting is the first value of the key, unless it was
there. -/
theorem mem_toList_insertAll {m : OrdMap κ α} {l : List (κ × α)} {k : κ} {v : α} :
    (k, v) ∈ (insertAll m l).toList ↔
      m[k]?.or ((l.find? fun p => p.1 = k).map Prod.snd) = some v := by
  rw [Std.ExtTreeMap.mem_toList_iff_getElem?_eq_some, get_insertAll]

omit [Std.LawfulEqOrd κ] [DecidableEq κ] in
/-- The entries have different keys. -/
theorem nodup_fst_toList (m : OrdMap κ α) : (m.toList.map Prod.fst).Nodup := by
  rw [Std.ExtTreeMap.map_fst_toList_eq_keys]
  exact m.nodup_keys

omit [Std.LawfulEqOrd κ] [DecidableEq κ] in
/-- No entry occurs twice. -/
theorem nodup_toList (m : OrdMap κ α) : m.toList.Nodup :=
  List.Nodup.of_map Prod.fst m.nodup_fst_toList

section Kept

variable {m : OrdMap κ α} {l : List (κ × α)}

/-- Where the list has all that is in the map, it has every key found afterwards. -/
theorem keys_insertAll_subset (hbase : ∀ (k : κ) v, m[k]? = some v → (k, v) ∈ l) :
    (insertAll m l).keys ⊆ l.map Prod.fst := by
  intro k hk
  obtain ⟨v, hget⟩ := (mem_iff_get _ k).mp (Std.ExtTreeMap.mem_keys.mp hk)
  rw [get_insertAll] at hget
  cases hm : m[k]? with
  | some v' => exact List.mem_map_of_mem (hbase k v' hm)
  | none =>
    rw [hm, Option.none_or] at hget
    obtain ⟨p, hfind, -⟩ := Option.map_eq_some_iff.mp hget
    have hkey : p.1 = k := by simpa using List.find?_some hfind
    rw [← hkey]
    exact List.mem_map_of_mem (List.mem_of_find?_eq_some hfind)

/-- With one value for each key, it has just the entries found afterwards. -/
theorem mem_toList_insertAll_of_nodup (hnodup : (l.map Prod.fst).Nodup)
    (hbase : ∀ (k : κ) v, m[k]? = some v → (k, v) ∈ l) {k : κ} {v : α} :
    (k, v) ∈ (insertAll m l).toList ↔ (k, v) ∈ l := by
  have hfind : ∀ {k v}, (k, v) ∈ l → (l.find? fun p => p.1 = k).map Prod.snd = some v := by
    intro k v hmem
    rw [find?_of_mem Prod.fst hnodup hmem]
    rfl
  rw [mem_toList_insertAll]
  cases hget : m[k]? with
  | some v' =>
    -- the list has the value of the map, and no other
    have hin := hbase k v' hget
    rw [Option.some_or]
    constructor
    · intro heq
      rw [← Option.some.inj heq]
      exact hin
    · intro hmem
      rw [← hfind hin, hfind hmem]
  | none =>
    rw [Option.none_or]
    constructor
    · intro hfound
      obtain ⟨p, hp, rfl⟩ := Option.map_eq_some_iff.mp hfound
      obtain rfl : p.1 = k := by simpa using List.find?_some hp
      exact List.mem_of_find?_eq_some hp
    · exact hfind

/-- A map whose entries are those of the list, and as many, has each key once. -/
theorem nodup_of_insertAll (hbase : ∀ (k : κ) v, m[k]? = some v → (k, v) ∈ l)
    (hlength : (insertAll m l).toList.length = l.length) : (l.map Prod.fst).Nodup := by
  have hkeys := (insertAll m l).nodup_keys
  have hle : (l.map Prod.fst).length ≤ (insertAll m l).keys.length := by
    rw [List.length_map, ← hlength, Std.ExtTreeMap.length_toList, Std.ExtTreeMap.length_keys]
  have hperm := (List.Nodup.subperm hkeys (keys_insertAll_subset hbase)).perm_of_length_le hle
  exact hperm.nodup_iff.mp hkeys

/-- **Inserting keeps a list of entries**, its keys compared by `f`, exactly when
no key occurs twice in it and what was in the map is one of its entries.  No
entry of the list may be taken for one of the map. -/
theorem insertAll_perm_iff {τ : Type} (f : κ → τ)
    (hm : ∀ (k : κ) v, m[k]? = some v → ∀ p ∈ l, f p.1 = f k → p.1 = k) :
    ((insertAll m l).toList.map fun p => (f p.1, p.2)).Perm (l.map fun p => (f p.1, p.2)) ↔
      (l.map Prod.fst).Nodup ∧ ∀ (k : κ) v, m[k]? = some v → (k, v) ∈ l := by
  constructor
  · intro hperm
    have hbase : ∀ (k : κ) v, m[k]? = some v → (k, v) ∈ l := by
      intro k v hget
      have hmem : (k, v) ∈ (insertAll m l).toList := mem_toList_insertAll.mpr (by rw [hget]; rfl)
      have hin := hperm.mem_iff.mp (List.mem_map_of_mem hmem)
      obtain ⟨p, hp, heq⟩ := List.mem_map.mp hin
      obtain ⟨hkey, hvalue⟩ := Prod.mk.inj heq
      have hk : p.1 = k := hm k v hget p hp hkey
      obtain rfl : p = (k, v) := Prod.ext hk hvalue
      exact hp
    have hlength := hperm.length_eq
    rw [List.length_map, List.length_map] at hlength
    exact ⟨nodup_of_insertAll hbase hlength, hbase⟩
  · intro ⟨hnodup, hbase⟩
    refine List.Perm.map _ ?_
    rw [List.perm_ext_iff_of_nodup (nodup_toList _) (List.Nodup.of_map Prod.fst hnodup)]
    intro p
    exact mem_toList_insertAll_of_nodup hnodup hbase

end Kept

end OrdMap

/-! ## §3. The inverse index. -/

section Invert

variable {κ τ : Type} [Ord τ] [Std.TransOrd τ] [Std.LawfulEqOrd τ] [DecidableEq τ]

/-- Append `k` to the list under `t`, starting the list when there is none. -/
def pushBack (ix : OrdMap τ (List κ)) (t : τ) (k : κ) : OrdMap τ (List κ) :=
  match ix[t]? with
  | some ks => ix.insert t (ks ++ [k])
  | none => ix.insertIfNew t [k]

/-- Push the key of a row under each of its types. -/
def pushRow (ix : OrdMap τ (List κ)) (row : κ × List τ) : OrdMap τ (List κ) :=
  row.2.foldl (fun ix t => pushBack ix t row.1) ix

/-- The index of all rows. -/
def invert (rows : List (κ × List τ)) : OrdMap τ (List κ) := rows.foldl pushRow ∅

/-- The keys a row contributes under `t`: one for each time it holds `t`. -/
def rowEntries (t : τ) (row : κ × List τ) : List κ :=
  (row.2.filter (· = t)).map fun _ => row.1

theorem pushBack_get (ix : OrdMap τ (List κ)) (t t' : τ) (k : κ) :
    (pushBack ix t k)[t']? = if t = t' then some (ix[t']?.getD [] ++ [k]) else ix[t']? := by
  unfold pushBack
  cases h : ix[t]? with
  | some ks =>
    rw [OrdMap.get_insert]
    split
    next heq => subst heq; rw [h]; rfl
    next => rfl
  | none =>
    have hnot : t ∉ ix := (OrdMap.not_mem_iff_get ix t).mpr h
    rw [OrdMap.get_insertIfNew]
    by_cases heq : t = t'
    · subst heq; simp [hnot]
    · simp [heq]

/-- What is under `t` after a row: the old list, then the row's entries. -/
theorem pushRow_getD (ts : List τ) (k : κ) :
    ∀ (ix : OrdMap τ (List κ)) (t : τ),
      ((pushRow ix (k, ts))[t]?).getD [] = ix[t]?.getD [] ++ rowEntries t (k, ts) := by
  induction ts with
  | nil => intro ix t; simp [pushRow, rowEntries]
  | cons t₀ ts ih =>
    intro ix t
    have hcons : pushRow ix (k, t₀ :: ts) = pushRow (pushBack ix t₀ k) (k, ts) := rfl
    rw [hcons, ih, pushBack_get]
    by_cases h : t₀ = t
    · subst h; simp [rowEntries]
    · simp [rowEntries, h]

theorem foldl_pushRow_getD (rows : List (κ × List τ)) :
    ∀ (ix : OrdMap τ (List κ)) (t : τ),
      ((rows.foldl pushRow ix)[t]?).getD [] = ix[t]?.getD [] ++ rows.flatMap (rowEntries t) := by
  induction rows with
  | nil => intro ix t; simp
  | cons row rows ih =>
    intro ix t
    rw [List.foldl_cons, ih, show row = (row.1, row.2) from rfl, pushRow_getD]
    simp

/-- **The inverse index is exact**: the list under a type holds the keys of the
rows with that type, in row order, once per occurrence. -/
theorem invert_getD (rows : List (κ × List τ)) (t : τ) :
    ((invert rows)[t]?).getD [] = rows.flatMap (rowEntries t) := by
  rw [invert, foldl_pushRow_getD]
  simp

/-- A key is listed under a type iff one of its rows holds the type. -/
theorem mem_invert {rows : List (κ × List τ)} {t : τ} {k : κ} :
    k ∈ ((invert rows)[t]?).getD [] ↔ ∃ row ∈ rows, row.1 = k ∧ t ∈ row.2 := by
  simp only [invert_getD, List.mem_flatMap, rowEntries, List.mem_map, List.mem_filter,
    decide_eq_true_eq]
  constructor
  · rintro ⟨row, hrow, t', ⟨ht', rfl⟩, rfl⟩
    exact ⟨row, hrow, rfl, ht'⟩
  · rintro ⟨row, hrow, rfl, ht⟩
    exact ⟨row, hrow, t, ⟨ht, rfl⟩, rfl⟩

/-- The types under which something is listed. -/
theorem mem_pushBack {ix : OrdMap τ (List κ)} {t t' : τ} {k : κ} :
    t' ∈ pushBack ix t k ↔ t = t' ∨ t' ∈ ix := by
  rw [OrdMap.mem_iff_get, pushBack_get]
  by_cases heq : t = t'
  · simp [heq]
  · rw [if_neg heq, ← OrdMap.mem_iff_get]
    exact ⟨.inr, fun h => h.resolve_left heq⟩

theorem mem_pushRow {t : τ} (k : κ) (ts : List τ) :
    ∀ ix : OrdMap τ (List κ), t ∈ pushRow ix (k, ts) ↔ t ∈ ts ∨ t ∈ ix := by
  induction ts with
  | nil => intro ix; simp [pushRow]
  | cons t₀ ts ih =>
    intro ix
    have hcons : pushRow ix (k, t₀ :: ts) = pushRow (pushBack ix t₀ k) (k, ts) := rfl
    rw [hcons, ih, mem_pushBack, List.mem_cons, eq_comm (a := t), or_left_comm, or_assoc]

/-- **A type is a key of the index** iff some row holds it. -/
theorem mem_invert_keys {rows : List (κ × List τ)} {t : τ} :
    t ∈ invert rows ↔ ∃ row ∈ rows, t ∈ row.2 := by
  have hfold : ∀ (rows : List (κ × List τ)) (ix : OrdMap τ (List κ)),
      t ∈ rows.foldl pushRow ix ↔ (∃ row ∈ rows, t ∈ row.2) ∨ t ∈ ix := by
    intro rows
    induction rows with
    | nil => intro ix; simp
    | cons row rows ih =>
      intro ix
      rw [List.foldl_cons, ih, show row = (row.1, row.2) from rfl, mem_pushRow]
      simp only [List.exists_mem_cons_iff]
      exact or_left_comm.trans or_assoc.symm
  rw [invert, hfold]
  simp

omit [Ord τ] [Std.TransOrd τ] [Std.LawfulEqOrd τ] in
/-- A row without repetitions contributes its key once. -/
theorem rowEntries_of_nodup {t : τ} {row : κ × List τ} (h : row.2.Nodup) :
    rowEntries t row = if t ∈ row.2 then [row.1] else [] := by
  have hfilter : row.2.filter (fun t' => decide (t' = t)) = row.2.filter (· == t) := by
    refine List.filter_congr fun t' _ => ?_
    rw [beq_eq_decide]
  rw [rowEntries, hfilter, List.filter_beq]
  split
  next hmem => rw [List.count_eq_one_of_mem h hmem]; rfl
  next hnot => rw [List.count_eq_zero_of_not_mem hnot]; rfl

/-- **The list under a type**, when no row holds a type twice: the keys of the
rows with it, in row order. -/
theorem invert_get {rows : List (κ × List τ)} (hrows : ∀ row ∈ rows, row.2.Nodup) {t : τ}
    {ks : List κ} (h : (invert rows)[t]? = some ks) :
    ks = (rows.filter fun row => t ∈ row.2).map Prod.fst := by
  have hks := invert_getD rows t
  rw [h, Option.getD_some] at hks
  rw [hks]
  clear h hks
  induction rows with
  | nil => rfl
  | cons row rows ih =>
    rw [List.flatMap_cons, rowEntries_of_nodup (hrows row (by simp)),
      ih fun r hr => hrows r (by simp [hr])]
    by_cases hmem : t ∈ row.2
    · simp [hmem]
    · simp [hmem]

/-- The pairs of a type and a key that an index lists. -/
def indexPairs (ix : OrdMap τ (List κ)) : List (τ × κ) :=
  ix.toList.flatMap fun it => it.2.map fun k => (it.1, k)

omit [DecidableEq τ] in
theorem mem_indexPairs {ix : OrdMap τ (List κ)} {t : τ} {k : κ} :
    (t, k) ∈ indexPairs ix ↔ ∃ ks, ix[t]? = some ks ∧ k ∈ ks := by
  rw [indexPairs, List.mem_flatMap]
  constructor
  · intro h
    obtain ⟨it, hit, hpair⟩ := h
    obtain ⟨k', hk, heq⟩ := List.mem_map.mp hpair
    obtain ⟨rfl, rfl⟩ := Prod.mk.inj heq
    exact ⟨it.2, Std.ExtTreeMap.mem_toList_iff_getElem?_eq_some.mp hit, hk⟩
  · intro h
    obtain ⟨ks, hget, hk⟩ := h
    exact ⟨(t, ks), Std.ExtTreeMap.mem_toList_iff_getElem?_eq_some.mpr hget,
      List.mem_map_of_mem hk⟩

omit [DecidableEq τ] in
/-- An index whose lists have no duplicates has no pair twice. -/
theorem nodup_indexPairs {ix : OrdMap τ (List κ)}
    (hlists : ∀ (t : τ) ks, ix[t]? = some ks → ks.Nodup) : (indexPairs ix).Nodup := by
  rw [indexPairs, List.nodup_flatMap]
  refine ⟨?_, ?_⟩
  · intro it hit
    have hlist := hlists it.1 it.2 (Std.ExtTreeMap.mem_toList_iff_getElem?_eq_some.mp hit)
    exact hlist.map fun k k' heq => (Prod.mk.inj heq).2
  · -- the types of two entries are different
    refine (List.pairwise_map.mp (OrdMap.nodup_fst_toList ix)).imp fun {it it'} hne => ?_
    intro pair hmem hmem'
    obtain ⟨_, -, rfl⟩ := List.mem_map.mp hmem
    obtain ⟨_, -, heq⟩ := List.mem_map.mp hmem'
    exact hne (Prod.mk.inj heq).1.symm

end Invert

end HNodeMgmt.Lib
