/-
  HNodeMgmt.Arbiter.SrvMap — the mark-and-sweep update of a record's services.

  The source writes the same four operations twice, once for the provided
  services (`startSrvProviderUpdates`, `updateSrvProvider`, …) and once for
  the desired ones (`startSrvMappingUpdates`, …).  Here they are operations
  on one `SrvMap`; the record's two families apply them.  The loop over the
  reply array, which the two REST handlers share word for word, is here too.

  A reply that raises part way leaves the map as it is at that point:
  `abandonSrv…Updates` has an empty body.

  Main results:
    * `applyServicesReply_keyed` — after any reply, complete or not, every
      endpoint still carries the type it is stored under.
    * `applyServicesReply_unchanged` — a reply that reports no change left
      the set of types as it was.
    * `applyServicesReply_grows` — a reply that raises removes no type.
    * `applyServicesReply_raised_iff` — WHEN a reply that raises adds a type.
    * `applyServicesReply_listing` — a reply that lists services is taken over.
    * `mem_applyServicesReply` — the types a reply leaves do not depend on the map.
-/
import Mathlib.Tactic.Common
import HNodeMgmt.Arbiter.Types

namespace HNodeMgmt.Arbiter

open Lib

/-! ## §1. The operations. -/

/-- `startSrvProviderUpdates`, `startSrvMappingUpdates`: nothing is visited yet. -/
def startSrvUpdates (m : SrvMap) : SrvMap := m.map fun _ ep => { ep with visited := false }

/-- `updateSrvProvider`, `updateSrvMapping`: visit the endpoint of a type, which
is created when it is not there.  The flag is `added`. -/
def updateSrv (m : SrvMap) (srvType : Str) : SrvMap × Bool :=
  if srvType ∈ m then (m.modify srvType fun ep => { ep with visited := true }, false)
  else (m.insertIfNew srvType (HNMDServiceEndpoint.new srvType), true)

/-- `completeSrvProviderUpdates`, `completeSrvMappingUpdates`: drop what was not
visited.  The flag is `changed`. -/
def completeSrvUpdates (m : SrvMap) : SrvMap × Bool :=
  (m.filter fun _ ep => ep.visited, m.toList.any fun p => !p.2.visited)

/-- `getSrvProviderTSList`, `getSrvMappingTSList`: the types the endpoints carry,
in map order. -/
def srvTSList (m : SrvMap) : List Str := m.toList.map fun p => p.2.type

/-- `srvRef.setVersion` and `srvRef.setRootURIFromStr` as one shape: a member
that is present must be a string, and is stored when it differs. -/
def updateSrvField (jsSrvObj : JsonObject) (key : Str) (get : HNMDServiceEndpoint → Str)
    (set : Str → HNMDServiceEndpoint → HNMDServiceEndpoint) (srvType : Str)
    (st : SrvMap × Bool) : Except SrvMap (SrvMap × Bool) :=
  if jsSrvObj.has key then
    match jsSrvObj.getString key with
    | none => .error st.1
    | some value =>
      if st.1[srvType]?.map get = some value then .ok st
      else .ok (st.1.modify srvType (set value), true)
  else .ok st

/-- One element of the reply array, with the map and the `changed` flag so far.
A conversion that raises leaves the map as it is then. -/
def updateSrvElement (st : SrvMap × Bool) : Option JsonObject → Except SrvMap (SrvMap × Bool)
  | none => .ok st
  | some jsSrvObj =>
    if jsSrvObj.has (lit "type") then
      match jsSrvObj.getString (lit "type") with
      | none => .error st.1
      | some stype => do
        let (m, added) := updateSrv st.1 stype
        let st ← updateSrvField jsSrvObj (lit "version") HNMDServiceEndpoint.version
          (fun version ep => { ep with version }) stype (m, st.2 || added)
        updateSrvField jsSrvObj (lit "uri") HNMDServiceEndpoint.rootURI
          (fun rootURI ep => { ep with rootURI }) stype st
    else .ok st

/-- The `try` block of `updateDeviceServicesProvideInfo` and
`updateDeviceServicesMappingInfo`: the map it leaves and, unless it raises,
the `changed` flag.  The text is parsed BEFORE the updates start, the array is
extracted after. -/
def applyServicesReply (m : SrvMap) : Body → SrvMap × Option Bool
  | none => (m, none)
  | some (.array elems) =>
    match elems.foldlM updateSrvElement (startSrvUpdates m, false) with
    | .error m' => (m', none)
    | .ok (m', changed) =>
      let (m'', removed) := completeSrvUpdates m'
      (m'', some (changed || removed))
  | some _ => (startSrvUpdates m, none)

/-! ## §2. Which types are there. -/

@[simp] theorem mem_startSrvUpdates {m : SrvMap} {t : Str} : t ∈ startSrvUpdates m ↔ t ∈ m :=
  Std.ExtTreeMap.mem_map

@[simp] theorem mem_updateSrv {m : SrvMap} {srvType t : Str} :
    t ∈ (updateSrv m srvType).1 ↔ t ∈ m ∨ t = srvType := by
  unfold updateSrv
  split
  next h =>
    rw [Std.ExtTreeMap.mem_modify]
    exact ⟨Or.inl, fun hor => hor.elim id fun heq => heq ▸ h⟩
  next h =>
    rw [Std.ExtTreeMap.mem_insertIfNew, Std.LawfulEqCmp.compare_eq_iff_eq, or_comm,
      eq_comm (a := srvType)]

theorem updateSrv_added {m : SrvMap} {srvType : Str} :
    (updateSrv m srvType).2 = true ↔ srvType ∉ m := by
  unfold updateSrv
  split <;> simp_all

theorem mem_completeSrvUpdates {m : SrvMap} {t : Str} (h : t ∈ (completeSrvUpdates m).1) : t ∈ m :=
  Std.ExtTreeMap.mem_of_mem_filter h

/-- A sweep that drops nothing keeps every type. -/
theorem mem_completeSrvUpdates_of_unchanged {m : SrvMap} (h : (completeSrvUpdates m).2 = false)
    {t : Str} : t ∈ (completeSrvUpdates m).1 ↔ t ∈ m := by
  refine ⟨mem_completeSrvUpdates, fun ht => ?_⟩
  obtain ⟨ep, hep⟩ := (OrdMap.mem_iff_get m t).mp ht
  have hall : ∀ k e, (k, e) ∈ m.toList → e.visited = true := by
    intro k e hmem
    have := h
    simp only [completeSrvUpdates, List.any_eq_false, Prod.forall] at this
    simpa using this k e hmem
  have hvis : ep.visited = true :=
    hall t ep (Std.ExtTreeMap.mem_toList_iff_getElem?_eq_some.mpr hep)
  rw [OrdMap.mem_iff_get]
  refine ⟨ep, ?_⟩
  show (m.filter fun _ e => e.visited)[t]? = some ep
  rw [OrdMap.get_filter, hep]
  simp [hvis]

/-- The type an element names. -/
def elemType (elem : Option JsonObject) : Option Str :=
  elem.bind fun jsSrvObj => jsSrvObj.getString (lit "type")

/-- A member that is there and does not convert. -/
def fieldRaises (jsSrvObj : JsonObject) (key : Str) : Bool :=
  jsSrvObj.has key && (jsSrvObj.getString key).isNone

/-- An element whose processing raises: the type does not convert, or there is
one and the version or the URI does not. -/
def elemRaises : Option JsonObject → Bool
  | none => false
  | some jsSrvObj =>
    fieldRaises jsSrvObj (lit "type") ||
      (jsSrvObj.has (lit "type") &&
        (fieldRaises jsSrvObj (lit "version") || fieldRaises jsSrvObj (lit "uri")))

theorem getString_eq_none_of_not_has {o : JsonObject} {key : Str} (h : o.has key = false) :
    o.getString key = none := by
  unfold JsonObject.has at h
  unfold JsonObject.getString
  rw [Option.isSome_eq_false_iff, Option.isNone_iff_eq_none] at h
  rw [h, Option.bind_none]

/-- What a field update does to the set of types: nothing, whether it raises or
not; and a flag that is down afterwards was down before. -/
theorem updateSrvField_spec (jsSrvObj : JsonObject) (key : Str) (get : HNMDServiceEndpoint → Str)
    (set : Str → HNMDServiceEndpoint → HNMDServiceEndpoint) (srvType : Str) (st : SrvMap × Bool) :
    (fieldRaises jsSrvObj key = true ∧
      updateSrvField jsSrvObj key get set srvType st = .error st.1) ∨
    (fieldRaises jsSrvObj key = false ∧ ∃ st',
      updateSrvField jsSrvObj key get set srvType st = .ok st' ∧
      (∀ t, t ∈ st'.1 ↔ t ∈ st.1) ∧ (st'.2 = false → st' = st)) := by
  unfold updateSrvField fieldRaises
  cases hhas : jsSrvObj.has key with
  | false => exact Or.inr ⟨by simp, st, by simp, by simp, fun _ => rfl⟩
  | true =>
    cases hget : jsSrvObj.getString key with
    | none => exact Or.inl ⟨by simp, by simp⟩
    | some value =>
      refine Or.inr ⟨by simp, ?_⟩
      by_cases hsame : st.1[srvType]?.map get = some value
      · exact ⟨st, by simp [hsame], by simp, fun _ => rfl⟩
      · refine ⟨(st.1.modify srvType (set value), true), by simp [hsame], ?_, by simp⟩
        intro t
        exact Std.ExtTreeMap.mem_modify

/-- **One element.**  It raises exactly when `elemRaises` says so; either way
the types afterwards are the old ones and the one it names; and a flag that is
down afterwards says that this one was there. -/
theorem updateSrvElement_spec (st : SrvMap × Bool) (elem : Option JsonObject) :
    (elemRaises elem = true ∧ ∃ m', updateSrvElement st elem = .error m' ∧
      ∀ t, t ∈ m' ↔ t ∈ st.1 ∨ elemType elem = some t) ∨
    (elemRaises elem = false ∧ ∃ st', updateSrvElement st elem = .ok st' ∧
      (∀ t, t ∈ st'.1 ↔ t ∈ st.1 ∨ elemType elem = some t) ∧
      (st'.2 = false → st.2 = false ∧ ∀ t, t ∈ st'.1 → t ∈ st.1)) := by
  cases elem with
  | none => exact Or.inr ⟨rfl, st, rfl, by simp [elemType], fun h => ⟨h, fun _ => id⟩⟩
  | some jsSrvObj =>
    simp only [updateSrvElement, elemRaises, elemType, Option.bind_some]
    cases hhas : jsSrvObj.has (lit "type") with
    | false =>
      have hnone := getString_eq_none_of_not_has hhas
      refine Or.inr ⟨by simp [fieldRaises, hhas], st, by simp, by simp [hnone], ?_⟩
      exact fun h => ⟨h, fun _ => id⟩
    | true =>
      cases htype : jsSrvObj.getString (lit "type") with
      | none =>
        exact Or.inl ⟨by simp [fieldRaises, hhas, htype], st.1, by simp, by simp⟩
      | some stype =>
        simp only [if_true, Bool.true_and]
        have htr : fieldRaises jsSrvObj (lit "type") = false := by simp [fieldRaises, htype]
        rw [htr, Bool.false_or]
        -- the state once the type has been visited
        have hmem : ∀ t, t ∈ (updateSrv st.1 stype).1 ↔ t ∈ st.1 ∨ some stype = some t := by
          intro t
          rw [mem_updateSrv, Option.some.injEq, eq_comm (a := t)]
        rcases updateSrvField_spec jsSrvObj (lit "version") HNMDServiceEndpoint.version
            (fun version ep => { ep with version }) stype
            ((updateSrv st.1 stype).1, st.2 || (updateSrv st.1 stype).2)
          with ⟨hr, he⟩ | ⟨hr, st₁, he, hm₁, hf₁⟩
        · exact Or.inl ⟨by simp [hr], _, by rw [he]; rfl, hmem⟩
        rw [he, hr, Bool.false_or]
        rcases updateSrvField_spec jsSrvObj (lit "uri") HNMDServiceEndpoint.rootURI
            (fun rootURI ep => { ep with rootURI }) stype st₁
          with ⟨hr₂, he₂⟩ | ⟨hr₂, st₂, he₂, hm₂, hf₂⟩
        · refine Or.inl ⟨hr₂, st₁.1, he₂, fun t => ?_⟩
          rw [hm₁, hmem]
        · refine Or.inr ⟨hr₂, st₂, he₂, fun t => ?_, fun hdown => ?_⟩
          · rw [hm₂, hm₁, hmem]
          · obtain rfl := hf₂ hdown
            obtain rfl := hf₁ hdown
            obtain ⟨hst, hadd⟩ := Bool.or_eq_false_iff.mp hdown
            refine ⟨hst, fun t ht => ?_⟩
            have hin : stype ∈ st.1 := by
              by_contra hout
              rw [updateSrv_added.mpr hout] at hadd
              cases hadd
            rcases mem_updateSrv.mp ht with h | rfl
            · exact h
            · exact hin

/-- **The loop over the array**: it stops at the first element that raises, and
has by then added the type of every element up to it. -/
theorem updateSrvElements_spec :
    ∀ (elems : List (Option JsonObject)) (st : SrvMap × Bool),
      (∃ pre elem post m', elems = pre ++ elem :: post ∧
        (∀ e ∈ pre, elemRaises e = false) ∧ elemRaises elem = true ∧
        elems.foldlM updateSrvElement st = .error m' ∧
        ∀ t, t ∈ m' ↔ t ∈ st.1 ∨ ∃ e ∈ pre ++ [elem], elemType e = some t) ∨
      ((∀ e ∈ elems, elemRaises e = false) ∧ ∃ st',
        elems.foldlM updateSrvElement st = .ok st' ∧
        (∀ t, t ∈ st'.1 ↔ t ∈ st.1 ∨ ∃ e ∈ elems, elemType e = some t) ∧
        (st'.2 = false → st.2 = false ∧ ∀ t, t ∈ st'.1 → t ∈ st.1))
  | [], st => Or.inr ⟨by simp, st, rfl, by simp, fun h => ⟨h, fun _ => id⟩⟩
  | elem :: elems, st => by
      rw [List.foldlM_cons]
      rcases updateSrvElement_spec st elem
        with ⟨hr, m', he, hm⟩ | ⟨hr, st₁, he, hm₁, hf₁⟩
      · -- this element raises: the loop ends here
        exact Or.inl ⟨[], elem, elems, m', rfl, by simp, hr, by rw [he]; rfl, by simpa using hm⟩
      have hrun : (updateSrvElement st elem >>= fun st' => elems.foldlM updateSrvElement st') =
          elems.foldlM updateSrvElement st₁ := by rw [he]; rfl
      rw [hrun]
      rcases updateSrvElements_spec elems st₁
        with ⟨pre, e', post, m', rfl, hpre, hr', he', hm'⟩ | ⟨hall, st₂, he₂, hm₂, hf₂⟩
      · refine Or.inl ⟨elem :: pre, e', post, m', rfl, ?_, hr', he', fun t => ?_⟩
        · intro e hmem
          rcases List.mem_cons.mp hmem with rfl | h
          · exact hr
          · exact hpre e h
        · rw [hm', hm₁, or_assoc, List.cons_append, List.exists_mem_cons_iff]
      · refine Or.inr ⟨?_, st₂, he₂, fun t => ?_, fun hdown => ?_⟩
        · intro e hmem
          rcases List.mem_cons.mp hmem with rfl | h
          · exact hr
          · exact hall e h
        · rw [hm₂, hm₁, or_assoc, List.exists_mem_cons_iff]
        · obtain ⟨hdown₁, hold₂⟩ := hf₂ hdown
          obtain ⟨hdown₀, hold₁⟩ := hf₁ hdown₁
          exact ⟨hdown₀, fun t ht => hold₁ t (hold₂ t ht)⟩

/-- A reply that raises after it has added a type: the array has an element
that raises, and an element up to it names a type that was not there. -/
def raisesAfterAdding (m : SrvMap) : Body → Prop
  | some (.array elems) =>
    ∃ pre elem post, elems = pre ++ elem :: post ∧ (∀ e ∈ pre, elemRaises e = false) ∧
      elemRaises elem = true ∧ ∃ e ∈ pre ++ [elem], ∃ t, elemType e = some t ∧ t ∉ m
  | _ => False

/-- The cut before the first element that raises is unique. -/
private theorem firstRaise_unique {pre pre' post post' : List (Option JsonObject)}
    {elem elem' : Option JsonObject} (h : pre ++ elem :: post = pre' ++ elem' :: post')
    (hpre : ∀ e ∈ pre, elemRaises e = false) (hr : elemRaises elem = true)
    (hpre' : ∀ e ∈ pre', elemRaises e = false) (hr' : elemRaises elem' = true) :
    pre = pre' ∧ elem = elem' := by
  induction pre generalizing pre' with
  | nil =>
    cases pre' with
    | nil => exact ⟨rfl, (List.cons.inj h).1⟩
    | cons e es =>
      obtain ⟨rfl, -⟩ := List.cons.inj h
      rw [hpre' elem (by simp)] at hr
      cases hr
  | cons e es ih =>
    cases pre' with
    | nil =>
      obtain ⟨rfl, -⟩ := List.cons.inj h
      rw [hpre e (by simp)] at hr'
      cases hr'
    | cons e' es' =>
      obtain ⟨rfl, htail⟩ := List.cons.inj h
      obtain ⟨rfl, rfl⟩ := ih htail (fun x hx => hpre x (by simp [hx]))
        (fun x hx => hpre' x (by simp [hx]))
      exact ⟨rfl, rfl⟩

/-- A reply that raises removes no type. -/
theorem applyServicesReply_grows {m : SrvMap} {body : Body}
    (h : (applyServicesReply m body).2 = none) {t : Str} (ht : t ∈ m) :
    t ∈ (applyServicesReply m body).1 := by
  unfold applyServicesReply at h ⊢
  split
  next => exact ht
  next elems =>
    rcases updateSrvElements_spec elems (startSrvUpdates m, false)
      with ⟨_, _, _, m', _, _, _, he, hm⟩ | ⟨_, st', he, _, _⟩
    · simp only [he]
      exact (hm t).mpr (Or.inl (mem_startSrvUpdates.mpr ht))
    · simp [he] at h
  next => exact mem_startSrvUpdates.mpr ht

/-- **The types a raising reply leaves behind**: it adds one exactly when
`raisesAfterAdding` says so. -/
theorem applyServicesReply_raised_iff {m : SrvMap} {body : Body}
    (h : (applyServicesReply m body).2 = none) :
    (∀ t, t ∈ (applyServicesReply m body).1 → t ∈ m) ↔ ¬ raisesAfterAdding m body := by
  unfold applyServicesReply at h ⊢
  split
  next => simp [raisesAfterAdding]
  next elems =>
    rcases updateSrvElements_spec elems (startSrvUpdates m, false)
      with ⟨pre, elem, post, m', rfl, hpre, hr, he, hm⟩ | ⟨_, st', he, _, _⟩
    · simp only [he, hm, mem_startSrvUpdates]
      constructor
      · rintro hold ⟨pre', elem', post', heq, hpre', hr', e, hmem, t, htype, hnew⟩
        obtain ⟨rfl, rfl⟩ := firstRaise_unique heq hpre hr hpre' hr'
        exact hnew (hold t (Or.inr ⟨e, hmem, htype⟩))
      · intro hno t ht
        rcases ht with hin | ⟨e, hmem, htype⟩
        · exact hin
        · by_contra hnew
          exact hno ⟨pre, elem, post, rfl, hpre, hr, e, hmem, t, htype, hnew⟩
    · simp [he] at h
  next body harr =>
    constructor
    · intro _ hbad
      cases body with
      | array elems => exact harr elems rfl
      | object o => exact hbad
      | other => exact hbad
    · intro _ t ht
      exact mem_startSrvUpdates.mp ht

/-- A reply that leaves types behind raises. -/
theorem applyServicesReply_of_raisesAfterAdding {m : SrvMap} {body : Body}
    (h : raisesAfterAdding m body) : (applyServicesReply m body).2 = none := by
  unfold raisesAfterAdding at h
  split at h
  next elems =>
    obtain ⟨pre, elem, post, rfl, _, hr, _⟩ := h
    rcases updateSrvElements_spec (pre ++ elem :: post) (startSrvUpdates m, false)
      with ⟨_, _, _, m', _, _, _, he, _⟩ | ⟨hall, _⟩
    · simp [applyServicesReply, he]
    · rw [hall elem (by simp)] at hr
      cases hr
  next => exact absurd h id

/-- **A reply that reports no change** left the set of types as it was. -/
theorem applyServicesReply_unchanged {m : SrvMap} {body : Body}
    (h : (applyServicesReply m body).2 = some false) {t : Str} :
    t ∈ (applyServicesReply m body).1 ↔ t ∈ m := by
  unfold applyServicesReply at h ⊢
  split
  next => simp at h
  next elems =>
    rcases updateSrvElements_spec elems (startSrvUpdates m, false)
      with ⟨_, _, _, m', _, _, _, he, _⟩ | ⟨_, st', he, hm, hf⟩
    · simp [he] at h
    · simp only [he, Option.some.injEq, Bool.or_eq_false_iff] at h ⊢
      obtain ⟨hdown, hsweep⟩ := h
      rw [mem_completeSrvUpdates_of_unchanged hsweep]
      constructor
      · intro ht
        exact mem_startSrvUpdates.mp ((hf hdown).2 t ht)
      · intro ht
        exact (hm t).mpr (Or.inl (mem_startSrvUpdates.mpr ht))
  next => simp_all

/-! ## §3. Endpoints carry the type they are stored under. -/

/-- Every endpoint carries the type it is stored under. -/
def Keyed (m : SrvMap) : Prop :=
  ∀ (k : Str) (ep : HNMDServiceEndpoint), m[k]? = some ep → ep.type = k

theorem keyed_empty : Keyed ∅ := by
  intro k ep h
  simp at h

theorem keyed_startSrvUpdates {m : SrvMap} (h : Keyed m) : Keyed (startSrvUpdates m) := by
  intro k ep hep
  rw [startSrvUpdates, Std.ExtTreeMap.getElem?_map, Option.map_eq_some_iff] at hep
  obtain ⟨ep₀, hep₀, rfl⟩ := hep
  exact h k ep₀ hep₀

/-- A change of an endpoint that keeps its type. -/
theorem keyed_modify {m : SrvMap} (h : Keyed m) (srvType : Str)
    {f : HNMDServiceEndpoint → HNMDServiceEndpoint} (hf : ∀ ep, (f ep).type = ep.type) :
    Keyed (m.modify srvType f) := by
  intro k ep hep
  rw [OrdMap.get_modify] at hep
  split at hep
  next heq =>
    obtain ⟨ep₀, hep₀, rfl⟩ := Option.map_eq_some_iff.mp hep
    rw [hf]
    exact h k ep₀ hep₀
  next => exact h k ep hep

theorem keyed_updateSrv {m : SrvMap} (h : Keyed m) (srvType : Str) :
    Keyed (updateSrv m srvType).1 := by
  unfold updateSrv
  split
  next => exact keyed_modify h srvType fun _ => rfl
  next =>
    intro k ep hep
    rw [OrdMap.get_insertIfNew] at hep
    split at hep
    next heq =>
      obtain rfl : HNMDServiceEndpoint.new srvType = ep := Option.some.inj hep
      exact heq.1
    next => exact h k ep hep

theorem keyed_completeSrvUpdates {m : SrvMap} (h : Keyed m) : Keyed (completeSrvUpdates m).1 := by
  intro k ep hep
  simp only [completeSrvUpdates, OrdMap.get_filter, Option.filter_eq_some_iff] at hep
  exact h k ep hep.1

theorem srvTSList_eq_keys {m : SrvMap} (h : Keyed m) : srvTSList m = m.keys := by
  rw [srvTSList, ← Std.ExtTreeMap.map_fst_toList_eq_keys]
  apply List.map_congr_left
  intro p hp
  exact h p.1 p.2 (Std.ExtTreeMap.mem_toList_iff_getElem?_eq_some.mp hp)

/-- The map an `Except` leaves, whether it raised or not. -/
def leaves : Except SrvMap (SrvMap × Bool) → SrvMap
  | .error m => m
  | .ok st => st.1

private theorem keyed_updateSrvField {jsSrvObj : JsonObject} {key : Str}
    {get : HNMDServiceEndpoint → Str} {set : Str → HNMDServiceEndpoint → HNMDServiceEndpoint}
    {srvType : Str} {st : SrvMap × Bool} (hset : ∀ v ep, (set v ep).type = ep.type)
    (h : Keyed st.1) : Keyed (leaves (updateSrvField jsSrvObj key get set srvType st)) := by
  unfold updateSrvField
  split
  next =>
    split
    next => exact h
    next value _ =>
      split
      next => exact h
      next => exact keyed_modify h srvType (hset value)
  next => exact h

theorem keyed_updateSrvElement {st : SrvMap × Bool} (h : Keyed st.1) (elem : Option JsonObject) :
    Keyed (leaves (updateSrvElement st elem)) := by
  cases elem with
  | none => exact h
  | some jsSrvObj =>
    simp only [updateSrvElement]
    split
    next =>
      split
      next => exact h
      next stype _ =>
        have hvis := keyed_updateSrv h stype
        have hver : Keyed (leaves (updateSrvField jsSrvObj (lit "version")
            HNMDServiceEndpoint.version (fun version ep => { ep with version }) stype
            ((updateSrv st.1 stype).1, st.2 || (updateSrv st.1 stype).2))) :=
          keyed_updateSrvField (fun _ _ => rfl) hvis
        revert hver
        cases updateSrvField jsSrvObj (lit "version") HNMDServiceEndpoint.version
          (fun version ep => { ep with version }) stype
          ((updateSrv st.1 stype).1, st.2 || (updateSrv st.1 stype).2) with
        | error m => exact id
        | ok st₁ => exact fun hver => keyed_updateSrvField (fun _ _ => rfl) hver
    next => exact h

theorem keyed_updateSrvElements :
    ∀ (elems : List (Option JsonObject)) {st : SrvMap × Bool}, Keyed st.1 →
      Keyed (leaves (elems.foldlM updateSrvElement st))
  | [], _, h => h
  | elem :: elems, st, h => by
      have hone := keyed_updateSrvElement h elem
      rw [List.foldlM_cons]
      revert hone
      cases updateSrvElement st elem with
      | error m => exact id
      | ok st₁ => exact fun hone => keyed_updateSrvElements elems hone

/-- **Endpoints stay keyed** by any reply, complete or not. -/
theorem applyServicesReply_keyed {m : SrvMap} (h : Keyed m) (body : Body) :
    Keyed (applyServicesReply m body).1 := by
  unfold applyServicesReply
  split
  next => exact h
  next elems =>
    have hloop : Keyed (leaves (elems.foldlM updateSrvElement (startSrvUpdates m, false))) :=
      keyed_updateSrvElements elems (keyed_startSrvUpdates h)
    revert hloop
    cases elems.foldlM updateSrvElement (startSrvUpdates m, false) with
    | error m' => exact id
    | ok st => exact fun hloop => keyed_completeSrvUpdates hloop
  next => exact keyed_startSrvUpdates h

/-! ## §4. A reply read to its end. -/

/-- A visited endpoint is there, and the others stay. -/
theorem updateSrv_get (m : SrvMap) (srvType : Str) :
    (∃ ep, (updateSrv m srvType).1[srvType]? = some ep ∧ ep.visited = true) ∧
      ∀ k : Str, k ≠ srvType → (updateSrv m srvType).1[k]? = m[k]? := by
  unfold updateSrv
  split
  next hmem =>
    obtain ⟨ep, hep⟩ := (OrdMap.mem_iff_get m srvType).mp hmem
    refine ⟨⟨{ ep with visited := true }, ?_, rfl⟩, fun k hne => ?_⟩
    · rw [OrdMap.get_modify, if_pos rfl, hep]
      rfl
    · rw [OrdMap.get_modify, if_neg fun heq => hne heq.symm]
  next hnew =>
    refine ⟨⟨HNMDServiceEndpoint.new srvType, ?_, rfl⟩, fun k hne => ?_⟩
    · rw [OrdMap.get_insertIfNew, if_pos ⟨rfl, hnew⟩]
    · rw [OrdMap.get_insertIfNew, if_neg fun h => hne h.1.symm]

/-- An element that names a type and its URI. -/
def servicesEntry (srvType uri : Str) : Option JsonObject :=
  some [(lit "type", { asString := some srvType, asBool := none }),
    (lit "uri", { asString := some uri, asBool := none })]

/-- A reply that lists types with their URIs. -/
def servicesReply (uri : Str → Str) (types : List Str) : JsonVar :=
  .array (types.map fun t => servicesEntry t (uri t))

/-- Such an element: the endpoint is visited and has the URI, and a new type
raises the flag. -/
theorem updateSrvElement_entry (st : SrvMap × Bool) (t uri : Str) :
    ∃ st', updateSrvElement st (servicesEntry t uri) = .ok st' ∧
      (∃ ep, st'.1[t]? = some ep ∧ ep.visited = true ∧ ep.rootURI = uri) ∧
      (∀ k : Str, k ≠ t → st'.1[k]? = st.1[k]?) ∧
      (st.2 = true ∨ t ∉ st.1 → st'.2 = true) := by
  obtain ⟨⟨ep, hep, hvisited⟩, hothers⟩ := updateSrv_get st.1 t
  -- the version is not given, so only the URI is looked at
  have hrun : updateSrvElement st (servicesEntry t uri) =
      if (updateSrv st.1 t).1[t]?.map HNMDServiceEndpoint.rootURI = some uri then
        .ok ((updateSrv st.1 t).1, st.2 || (updateSrv st.1 t).2)
      else .ok ((updateSrv st.1 t).1.modify t fun ep => { ep with rootURI := uri }, true) := rfl
  by_cases hsame : (updateSrv st.1 t).1[t]?.map HNMDServiceEndpoint.rootURI = some uri
  · rw [if_pos hsame] at hrun
    rw [hep, Option.map_some, Option.some.injEq] at hsame
    refine ⟨_, hrun, ⟨ep, hep, hvisited, hsame⟩, hothers, fun h => ?_⟩
    rw [Bool.or_eq_true, updateSrv_added]
    exact h
  · rw [if_neg hsame] at hrun
    refine ⟨_, hrun, ⟨{ ep with rootURI := uri }, ?_, hvisited, rfl⟩, fun k hne => ?_, fun _ => rfl⟩
    · rw [OrdMap.get_modify, if_pos rfl, hep]
      rfl
    · rw [OrdMap.get_modify, if_neg fun heq => hne heq.symm]
      exact hothers k hne

/-- The loop over such a reply. -/
theorem updateSrvElements_entries (uri : Str → Str) :
    ∀ (types : List Str) (st : SrvMap × Bool),
      ∃ st', (types.map fun t => servicesEntry t (uri t)).foldlM updateSrvElement st = .ok st' ∧
        (∀ t ∈ types, ∃ ep, st'.1[t]? = some ep ∧ ep.visited = true ∧ ep.rootURI = uri t) ∧
        (∀ k : Str, k ∉ types → st'.1[k]? = st.1[k]?) ∧
        ((st.2 = true ∨ ∃ t ∈ types, t ∉ st.1) → st'.2 = true)
  | [], st => ⟨st, rfl, by simp, fun _ _ => rfl, by simp⟩
  | t :: types, st => by
      obtain ⟨st₁, hone, hhere, hothers, hflag⟩ := updateSrvElement_entry st t (uri t)
      obtain ⟨st', hrun, hentries, hrest, hflag'⟩ := updateSrvElements_entries uri types st₁
      have hfold : (List.map (fun t => servicesEntry t (uri t)) (t :: types)).foldlM
          updateSrvElement st = .ok st' := by
        rw [List.map_cons, List.foldlM_cons, hone]
        exact hrun
      refine ⟨st', hfold, ?_, ?_, ?_⟩
      · intro t' hmem
        by_cases hin : t' ∈ types
        · exact hentries t' hin
        · obtain rfl : t' = t := (List.mem_cons.mp hmem).resolve_right hin
          rw [hrest t' hin]
          exact hhere
      · intro k hk
        rw [hrest k fun h => hk (List.mem_cons_of_mem _ h),
          hothers k fun heq => hk (heq ▸ List.mem_cons_self)]
      · rintro (hup | ⟨t', hmem, hnew⟩)
        · exact hflag' (Or.inl (hflag (Or.inl hup)))
        · rcases List.mem_cons.mp hmem with rfl | htail
          · exact hflag' (Or.inl (hflag (Or.inr hnew)))
          · by_cases heq : t' = t
            · exact hflag' (Or.inl (hflag (Or.inr (heq ▸ hnew))))
            · refine hflag' (Or.inr ⟨t', htail, ?_⟩)
              rw [OrdMap.not_mem_iff_get, hothers t' heq, ← OrdMap.not_mem_iff_get]
              exact hnew

/-- **A reply that lists services is taken over**: each has the URI it was listed
with, and a type that was not there is a change. -/
theorem applyServicesReply_listing (m : SrvMap) (uri : Str → Str) (types : List Str) :
    ∃ changed, (applyServicesReply m (some (servicesReply uri types))).2 = some changed ∧
      (∀ t ∈ types, ((applyServicesReply m (some (servicesReply uri types))).1[t]?).map
        HNMDServiceEndpoint.rootURI = some (uri t)) ∧
      ((∃ t ∈ types, t ∉ m) → changed = true) := by
  obtain ⟨st', hrun, hentries, -, hflag⟩ :=
    updateSrvElements_entries uri types (startSrvUpdates m, false)
  have happly : applyServicesReply m (some (servicesReply uri types)) =
      ((completeSrvUpdates st'.1).1, some (st'.2 || (completeSrvUpdates st'.1).2)) := by
    simp only [servicesReply, applyServicesReply, hrun]
  rw [happly]
  refine ⟨_, rfl, ?_, ?_⟩
  · intro t ht
    obtain ⟨ep, hep, hvisited, huri⟩ := hentries t ht
    show ((st'.1.filter fun _ ep => ep.visited)[t]?).map _ = _
    rw [OrdMap.get_filter, hep, Option.filter_some, if_pos hvisited, Option.map_some, huri]
  · rintro ⟨t, ht, hnew⟩
    rw [hflag (Or.inr ⟨t, ht, fun h => hnew (mem_startSrvUpdates.mp h)⟩), Bool.true_or]

/-! ## §5. The types a reply leaves. -/

/-- The types a reply names, none for one that raises. -/
def namedTypes : Body → List Str
  | some (.array elems) => if elems.any elemRaises then [] else elems.filterMap elemType
  | _ => []

/-- The sweep keeps what has been visited. -/
theorem mem_completeSrvUpdates_iff {m : SrvMap} {t : Str} :
    t ∈ (completeSrvUpdates m).1 ↔ ∃ ep, m[t]? = some ep ∧ ep.visited = true := by
  rw [OrdMap.mem_iff_get]
  simp only [completeSrvUpdates, OrdMap.get_filter, Option.filter_eq_some_iff]

theorem not_mem_complete_start {m : SrvMap} {t : Str} :
    t ∉ (completeSrvUpdates (startSrvUpdates m)).1 := by
  rw [mem_completeSrvUpdates_iff]
  rintro ⟨ep, hep, hvisited⟩
  rw [startSrvUpdates, Std.ExtTreeMap.getElem?_map, Option.map_eq_some_iff] at hep
  obtain ⟨ep₀, -, rfl⟩ := hep
  cases hvisited

/-- A visit adds the type it is for to what the sweep keeps. -/
theorem mem_complete_updateSrv {m : SrvMap} {srvType t : Str} :
    t ∈ (completeSrvUpdates (updateSrv m srvType).1).1 ↔
      t ∈ (completeSrvUpdates m).1 ∨ t = srvType := by
  obtain ⟨⟨ep, hep, hvisited⟩, hothers⟩ := updateSrv_get m srvType
  by_cases heq : t = srvType
  · subst heq
    exact iff_of_true (mem_completeSrvUpdates_iff.mpr ⟨ep, hep, hvisited⟩) (.inr rfl)
  · rw [mem_completeSrvUpdates_iff, mem_completeSrvUpdates_iff, hothers t heq, or_iff_left heq]

/-- A change that leaves the mark alone changes nothing of what the sweep keeps. -/
theorem mem_complete_modify {m : SrvMap} {srvType t : Str}
    {f : HNMDServiceEndpoint → HNMDServiceEndpoint} (hf : ∀ ep, (f ep).visited = ep.visited) :
    t ∈ (completeSrvUpdates (m.modify srvType f)).1 ↔ t ∈ (completeSrvUpdates m).1 := by
  rw [mem_completeSrvUpdates_iff, mem_completeSrvUpdates_iff, OrdMap.get_modify]
  split
  next => simp [Option.map_eq_some_iff, hf]
  next => exact Iff.rfl

private theorem mem_complete_updateSrvField {jsSrvObj : JsonObject} {key : Str}
    {get : HNMDServiceEndpoint → Str} {set : Str → HNMDServiceEndpoint → HNMDServiceEndpoint}
    {srvType t : Str} {st st' : SrvMap × Bool}
    (h : updateSrvField jsSrvObj key get set srvType st = .ok st')
    (hset : ∀ v ep, (set v ep).visited = ep.visited) :
    t ∈ (completeSrvUpdates st'.1).1 ↔ t ∈ (completeSrvUpdates st.1).1 := by
  unfold updateSrvField at h
  split at h
  next =>
    split at h
    next => cases h
    next value _ =>
      split at h
      next =>
        obtain rfl := Except.ok.inj h
        exact Iff.rfl
      next =>
        obtain rfl := Except.ok.inj h
        exact mem_complete_modify (hset value)
  next =>
    obtain rfl := Except.ok.inj h
    exact Iff.rfl

/-- An element that does not raise adds the type it names. -/
theorem mem_complete_updateSrvElement {st st' : SrvMap × Bool} {elem : Option JsonObject}
    {t : Str} (h : updateSrvElement st elem = .ok st') :
    t ∈ (completeSrvUpdates st'.1).1 ↔
      t ∈ (completeSrvUpdates st.1).1 ∨ elemType elem = some t := by
  cases elem with
  | none =>
    obtain rfl := Except.ok.inj h
    simp [elemType]
  | some jsSrvObj =>
    simp only [updateSrvElement] at h
    simp only [elemType, Option.bind_some]
    split at h
    next =>
      split at h
      next => cases h
      next stype htype =>
        -- the two fields leave the mark of the visit alone
        cases hversion : updateSrvField jsSrvObj (lit "version") HNMDServiceEndpoint.version
            (fun version ep => { ep with version }) stype
            ((updateSrv st.1 stype).1, st.2 || (updateSrv st.1 stype).2) with
        | error m =>
          rw [hversion] at h
          cases h
        | ok st₁ =>
          rw [hversion] at h
          have huri : updateSrvField jsSrvObj (lit "uri") HNMDServiceEndpoint.rootURI
              (fun rootURI ep => { ep with rootURI }) stype st₁ = .ok st' := h
          rw [mem_complete_updateSrvField huri fun _ _ => rfl,
            mem_complete_updateSrvField hversion fun _ _ => rfl, mem_complete_updateSrv, htype,
            Option.some.injEq, eq_comm (a := t)]
    next hhas =>
      obtain rfl := Except.ok.inj h
      rw [getString_eq_none_of_not_has (Bool.eq_false_iff.mpr hhas)]
      simp

theorem mem_complete_updateSrvElements {t : Str} :
    ∀ (elems : List (Option JsonObject)) {st st' : SrvMap × Bool},
      elems.foldlM updateSrvElement st = .ok st' →
      (t ∈ (completeSrvUpdates st'.1).1 ↔
        t ∈ (completeSrvUpdates st.1).1 ∨ ∃ e ∈ elems, elemType e = some t)
  | [], st, st', h => by
      obtain rfl := Except.ok.inj h
      simp
  | elem :: elems, st, st', h => by
      rw [List.foldlM_cons] at h
      cases hone : updateSrvElement st elem with
      | error m =>
        rw [hone] at h
        cases h
      | ok st₁ =>
        rw [hone] at h
        rw [mem_complete_updateSrvElements elems h, mem_complete_updateSrvElement hone, or_assoc,
          List.exists_mem_cons_iff]

/-- **A reply read to its end** leaves the types it names, whatever was there. -/
theorem mem_applyServicesReply {m : SrvMap} {body : Body} {changed : Bool} {t : Str}
    (h : (applyServicesReply m body).2 = some changed) :
    t ∈ (applyServicesReply m body).1 ↔ t ∈ namedTypes body := by
  unfold applyServicesReply at h ⊢
  split
  next => cases h
  next elems =>
    rcases updateSrvElements_spec elems (startSrvUpdates m, false)
      with ⟨_, _, _, m', _, _, _, he, _⟩ | ⟨hall, st', he, _, _⟩
    · simp [he] at h
    · have hnone : elems.any elemRaises = false := by
        rw [List.any_eq_false]
        intro e hmem hraises
        rw [hall e hmem] at hraises
        cases hraises
      simp only [he, namedTypes, hnone]
      rw [mem_complete_updateSrvElements elems he, or_iff_right not_mem_complete_start]
      simp [List.mem_filterMap]
  next => simp_all

/-- A reply that raises names nothing. -/
theorem namedTypes_of_raised {m : SrvMap} {body : Body}
    (h : (applyServicesReply m body).2 = none) : namedTypes body = [] := by
  unfold applyServicesReply at h
  split at h
  next => rfl
  next elems =>
    rcases updateSrvElements_spec elems (startSrvUpdates m, false)
      with ⟨pre, elem, post, m', rfl, _, hr, _, _⟩ | ⟨_, st', he, _, _⟩
    · have hsome : (pre ++ elem :: post).any elemRaises = true :=
        List.any_eq_true.mpr ⟨elem, by simp, hr⟩
      simp only [namedTypes, hsome, if_true]
    · simp [he] at h
  next body harr =>
    unfold namedTypes
    split
    next elems heq => exact absurd (Option.some.inj heq) (harr elems)
    next => rfl

/-- There is always a type a record does not provide. -/
theorem exists_fresh (m : SrvMap) : ∃ srvType : Str, srvType ∉ m := by
  refine ⟨m.keys.flatten ++ [0], fun hmem => ?_⟩
  have hsub := List.sublist_flatten_of_mem (Std.ExtTreeMap.mem_keys.mpr hmem)
  have hlen := hsub.length_le
  rw [List.length_append, List.length_singleton] at hlen
  omega

end HNodeMgmt.Arbiter
