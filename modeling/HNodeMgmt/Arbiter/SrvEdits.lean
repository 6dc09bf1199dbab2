/-
  HNodeMgmt.Arbiter.SrvEdits — what a services reply leaves behind.

  Each element of a reply that names a type is an EDIT of the map: the type is
  visited, and the version and the URI that are given are stored.  The loop
  makes these edits on the record itself, up to the first conversion that
  raises; what comes after that is skipped, and nothing is undone.

  Main results:
    * `updateSrvElements_get` — the map after the loop is the map with the
      edits up to the first element that raises.
    * `services_update_installs` — a reply that is read to its end is
      installed: its types, and the last version and URI given for each.
    * `failed_update_iff` — a reply that fails leaves the services as they were
      EXACTLY when its edits repeat what the record has.
-/
import Mathlib.Tactic.Common
import Mathlib.Data.List.Induction
import HNodeMgmt.Arbiter.Steps

namespace HNodeMgmt.Arbiter

open Lib

/-! ## §1. The edits of a reply. -/

/-- What the loop does for one element. -/
structure SrvEdit where
  srvType : Str
  version : Option Str
  uri : Option Str
  deriving DecidableEq, Repr

/-- The edit of an element, up to the first member that does not convert. -/
def elemEdit : Option JsonObject → Option SrvEdit
  | none => none
  | some jsSrvObj =>
    (jsSrvObj.getString (lit "type")).map fun srvType =>
      { srvType
        version := jsSrvObj.getString (lit "version")
        uri := if fieldRaises jsSrvObj (lit "version") then none
          else jsSrvObj.getString (lit "uri") }

/-- The elements the loop gets to. -/
def reached : List (Option JsonObject) → List (Option JsonObject)
  | [] => []
  | elem :: elems => if elemRaises elem then [elem] else elem :: reached elems

/-- The edits the loop makes. -/
def srvEdits (elems : List (Option JsonObject)) : List SrvEdit :=
  (reached elems).filterMap elemEdit

/-- An endpoint after an edit. -/
def SrvEdit.apply (edit : SrvEdit) (ep : HNMDServiceEndpoint) : HNMDServiceEndpoint :=
  { ep with
    version := edit.version.getD ep.version
    rootURI := edit.uri.getD ep.rootURI
    visited := true }

/-- What is under `t` after an edit: a type that is not there gets an empty endpoint
first. -/
def editUnder (t : Str) (prior : Option HNMDServiceEndpoint) (edit : SrvEdit) :
    Option HNMDServiceEndpoint :=
  if edit.srvType = t then some (edit.apply (prior.getD (HNMDServiceEndpoint.new t))) else prior

/-- A visit, and the type that is visited. -/
theorem get_updateSrv (m : SrvMap) (srvType t : Str) :
    (updateSrv m srvType).1[t]? =
      editUnder t m[t]? { srvType, version := none, uri := none } := by
  unfold updateSrv editUnder
  split
  next hmem =>
    rw [OrdMap.get_modify]
    by_cases heq : srvType = t
    · subst heq
      obtain ⟨ep, hep⟩ := (OrdMap.mem_iff_get m srvType).mp hmem
      rw [if_pos rfl, if_pos rfl, hep]
      rfl
    · rw [if_neg heq, if_neg heq]
  next hnew =>
    rw [OrdMap.get_insertIfNew]
    by_cases heq : srvType = t
    · subst heq
      rw [if_pos ⟨rfl, hnew⟩, if_pos rfl, (OrdMap.not_mem_iff_get m srvType).mp hnew]
      rfl
    · rw [if_neg fun h => heq h.1, if_neg heq]

/-- A member that is stored: the value it has been given, or the one that was there. -/
theorem get_updateSrvField (jsSrvObj : JsonObject) (key : Str) (get : HNMDServiceEndpoint → Str)
    (set : Str → HNMDServiceEndpoint → HNMDServiceEndpoint) (srvType : Str) (st : SrvMap × Bool)
    (hset : ∀ ep, set (get ep) ep = ep) (t : Str) :
    (leaves (updateSrvField jsSrvObj key get set srvType st))[t]? =
      if srvType = t then st.1[t]?.map fun ep => set ((jsSrvObj.getString key).getD (get ep)) ep
      else st.1[t]? := by
  -- an endpoint that is given its own value is not changed
  have hkeep : st.1[t]? =
      if srvType = t then st.1[t]?.map fun ep => set (get ep) ep else st.1[t]? := by
    simp [hset]
  unfold updateSrvField
  cases hhas : jsSrvObj.has key with
  | false =>
    rw [getString_eq_none_of_not_has hhas]
    exact hkeep
  | true =>
    cases hget : jsSrvObj.getString key with
    | none => exact hkeep
    | some value =>
      by_cases hsame : st.1[srvType]?.map get = some value
      · -- the value that is there is not written again
        simp only [hsame, if_true, Option.getD_some]
        show st.1[t]? = _
        by_cases heq : srvType = t
        · subst heq
          rw [if_pos rfl]
          obtain ⟨ep, hep, rfl⟩ := Option.map_eq_some_iff.mp hsame
          rw [hep, Option.map_some, hset]
        · rw [if_neg heq]
      · simp only [hsame, if_true, if_false, Option.getD_some]
        exact OrdMap.get_modify st.1 srvType t (set value)

/-- **One element**: the map it leaves, whether it raises or not, is the map with
its edit. -/
theorem updateSrvElement_get (st : SrvMap × Bool) (elem : Option JsonObject) (t : Str) :
    (leaves (updateSrvElement st elem))[t]? =
      (elemEdit elem).toList.foldl (editUnder t) st.1[t]? := by
  cases elem with
  | none => rfl
  | some jsSrvObj =>
    simp only [updateSrvElement, elemEdit]
    cases hhas : jsSrvObj.has (lit "type") with
    | false =>
      rw [getString_eq_none_of_not_has hhas]
      rfl
    | true =>
      cases htype : jsSrvObj.getString (lit "type") with
      | none => rfl
      | some stype =>
        simp only [if_true, Option.map_some, Option.toList_some, List.foldl_cons, List.foldl_nil]
        have hvisit := get_updateSrv st.1 stype t
        have hversion := get_updateSrvField jsSrvObj (lit "version") HNMDServiceEndpoint.version
          (fun version ep => { ep with version }) stype
          ((updateSrv st.1 stype).1, st.2 || (updateSrv st.1 stype).2) (fun _ => rfl) t
        rcases updateSrvField_spec jsSrvObj (lit "version") HNMDServiceEndpoint.version
            (fun version ep => { ep with version }) stype
            ((updateSrv st.1 stype).1, st.2 || (updateSrv st.1 stype).2)
          with ⟨hr, he⟩ | ⟨hr, st₁, he, -, -⟩
        · -- the version does not convert: the visit is all there is
          rw [he] at hversion ⊢
          show (leaves (.error (updateSrv st.1 stype).1))[t]? = _
          rw [hversion, hvisit, hr, if_pos rfl]
          unfold editUnder
          split <;> rfl
        · rw [he] at hversion ⊢
          have huri := get_updateSrvField jsSrvObj (lit "uri") HNMDServiceEndpoint.rootURI
            (fun rootURI ep => { ep with rootURI }) stype st₁ (fun _ => rfl) t
          have hver : st₁.1[t]? = _ := hversion
          refine huri.trans ?_
          rw [hver, hvisit, hr]
          unfold editUnder
          split <;> rfl

/-- **The loop**: the map it leaves is the map with the edits of the elements it
gets to. -/
theorem updateSrvElements_get (t : Str) :
    ∀ (elems : List (Option JsonObject)) (st : SrvMap × Bool),
      (leaves (elems.foldlM updateSrvElement st))[t]? =
        (srvEdits elems).foldl (editUnder t) st.1[t]?
  | [], _ => rfl
  | elem :: elems, st => by
      have hone := updateSrvElement_get st elem t
      rw [List.foldlM_cons]
      rcases updateSrvElement_spec st elem with ⟨hr, m', he, -⟩ | ⟨hr, st₁, he, -, -⟩
      · -- the loop ends here, and so do the elements it gets to
        have hedits : srvEdits (elem :: elems) = (elemEdit elem).toList := by
          simp only [srvEdits, reached, hr, if_true, List.filterMap_cons, List.filterMap_nil]
          cases elemEdit elem <;> rfl
        rw [hedits, ← hone, he]
        rfl
      · have hedits : srvEdits (elem :: elems) = (elemEdit elem).toList ++ srvEdits elems := by
          simp only [srvEdits, reached, hr, if_false, Bool.false_eq_true, List.filterMap_cons]
          cases elemEdit elem <;> rfl
        have ih := updateSrvElements_get t elems st₁
        rw [hedits, List.foldl_append, ← hone, he]
        exact ih

/-! ## §2. Many edits of one type. -/

/-- What an edit gives for `t`. -/
def SrvEdit.givenFor (t : Str) (member : SrvEdit → Option Str) (edit : SrvEdit) : Option Str :=
  if edit.srvType = t then member edit else none

/-- The last one given for `t`. -/
def latest (member : SrvEdit → Option Str) (t : Str) (edits : List SrvEdit) : Option Str :=
  (edits.filterMap (SrvEdit.givenFor t member)).getLast?

/-- The endpoint of `t` after some edits of it. -/
def overwritten (t : Str) (edits : List SrvEdit) (ep : HNMDServiceEndpoint) :
    HNMDServiceEndpoint :=
  { ep with
    version := (latest SrvEdit.version t edits).getD ep.version
    rootURI := (latest SrvEdit.uri t edits).getD ep.rootURI
    visited := true }

/-- The last edit decides, if it gives the member. -/
theorem latest_snoc (member : SrvEdit → Option Str) (t : Str) (edits : List SrvEdit)
    (edit : SrvEdit) :
    latest member t (edits ++ [edit]) =
      (edit.givenFor t member).or (latest member t edits) := by
  unfold latest
  rw [List.filterMap_append]
  cases hgiven : edit.givenFor t member with
  | none => simp [hgiven]
  | some value => simp [hgiven]

/-- No edit of a type gives nothing for it. -/
theorem latest_eq_none {member : SrvEdit → Option Str} {t : Str} {edits : List SrvEdit}
    (h : t ∉ edits.map SrvEdit.srvType) : latest member t edits = none := by
  have hnone : edits.filterMap (SrvEdit.givenFor t member) = [] := by
    rw [List.filterMap_eq_nil_iff]
    intro edit hmem
    exact if_neg fun heq : edit.srvType = t => h (heq ▸ List.mem_map_of_mem hmem)
  rw [latest, hnone, List.getLast?_nil]

/-- One more edit on top. -/
theorem overwritten_snoc {t : Str} (edits : List SrvEdit) {edit : SrvEdit}
    (h : edit.srvType = t) (ep : HNMDServiceEndpoint) :
    overwritten t (edits ++ [edit]) ep = edit.apply (overwritten t edits ep) := by
  have hgiven : ∀ member : SrvEdit → Option Str, edit.givenFor t member = member edit :=
    fun member => if_pos h
  -- a member that is not given leaves the last one that was
  simp only [overwritten, SrvEdit.apply, latest_snoc, hgiven]
  cases edit.version <;> cases edit.uri <;> rfl

/-- **The edits of a type together**: the last version and the last URI that are
given replace those that were there. -/
theorem foldl_editUnder (t : Str) (edits : List SrvEdit) (prior : Option HNMDServiceEndpoint) :
    edits.foldl (editUnder t) prior =
      if t ∈ edits.map SrvEdit.srvType then
        some (overwritten t edits (prior.getD (HNMDServiceEndpoint.new t)))
      else prior := by
  induction edits using List.reverseRecOn with
  | nil => rfl
  | append_singleton edits edit ih =>
    rw [List.foldl_append, List.foldl_cons, List.foldl_nil, ih, editUnder]
    by_cases htype : edit.srvType = t
    · have hmem : t ∈ (edits ++ [edit]).map SrvEdit.srvType := by simp [htype]
      rw [if_pos htype, if_pos hmem, overwritten_snoc edits htype]
      by_cases hbefore : t ∈ edits.map SrvEdit.srvType
      · rw [if_pos hbefore, Option.getD_some]
      · -- the first edit of this type
        rw [if_neg hbefore]
        simp only [overwritten, latest_eq_none hbefore, Option.getD_none, SrvEdit.apply]
    · -- an edit of another type
      have hmem : t ∈ (edits ++ [edit]).map SrvEdit.srvType ↔ t ∈ edits.map SrvEdit.srvType := by
        simp [Ne.symm htype]
      have hlatest : ∀ member, latest member t (edits ++ [edit]) = latest member t edits := by
        intro member
        rw [latest_snoc, show edit.givenFor t member = none from if_neg htype, Option.none_or]
      simp only [if_neg htype, hmem, overwritten, hlatest]

/-! ## §3. Types, versions and URIs. -/

/-- An endpoint without its mark. -/
def HNMDServiceEndpoint.unmarked (ep : HNMDServiceEndpoint) : HNMDServiceEndpoint :=
  { ep with visited := false }

/-- Two maps have the same types, versions and URIs. -/
def SameServices (m m' : SrvMap) : Prop :=
  ∀ t : Str, m'[t]?.map HNMDServiceEndpoint.unmarked = m[t]?.map HNMDServiceEndpoint.unmarked

theorem sameServices_refl (m : SrvMap) : SameServices m m := fun _ => rfl

theorem SameServices.trans {m m' m'' : SrvMap} (h : SameServices m m')
    (h' : SameServices m' m'') : SameServices m m'' := fun t => (h' t).trans (h t)

/-- Endpoints that are the same up to their marks carry the same types. -/
theorem SameServices.keyed {m m' : SrvMap} (h : SameServices m m') (hkeyed : Keyed m) :
    Keyed m' := by
  intro t ep hep
  have hunmarked := h t
  rw [hep, Option.map_some] at hunmarked
  obtain ⟨ep', hep', heq⟩ := Option.map_eq_some_iff.mp hunmarked.symm
  rw [← hkeyed t ep' hep']
  exact (congrArg HNMDServiceEndpoint.type heq).symm

/-- Starting an update takes the marks away and leaves the rest. -/
theorem start_get (m : SrvMap) (t : Str) :
    (startSrvUpdates m)[t]? = m[t]?.map HNMDServiceEndpoint.unmarked := by
  rw [startSrvUpdates, Std.ExtTreeMap.getElem?_map]
  rfl

/-- Taking all marks away changes no service. -/
theorem sameServices_start (m : SrvMap) : SameServices m (startSrvUpdates m) := by
  intro t
  rw [start_get, Option.map_map]
  rfl

/-- Nor does a visit of a type that is there. -/
theorem sameServices_updateSrv {m : SrvMap} {srvType : Str} (h : srvType ∈ m) :
    SameServices m (updateSrv m srvType).1 := by
  intro t
  rw [updateSrv, if_pos h, OrdMap.get_modify]
  split
  next => rw [Option.map_map]; rfl
  next => rfl

/-- An element that leaves the flag down has changed no service. -/
theorem updateSrvElement_quiet {st st' : SrvMap × Bool} {elem : Option JsonObject}
    (h : updateSrvElement st elem = .ok st') (hdown : st'.2 = false) :
    st.2 = false ∧ SameServices st.1 st'.1 := by
  cases elem with
  | none =>
    obtain rfl := Except.ok.inj h
    exact ⟨hdown, sameServices_refl _⟩
  | some jsSrvObj =>
    simp only [updateSrvElement] at h
    split at h
    next =>
      split at h
      next => cases h
      next stype _ =>
        rcases updateSrvField_spec jsSrvObj (lit "version") HNMDServiceEndpoint.version
            (fun version ep => { ep with version }) stype
            ((updateSrv st.1 stype).1, st.2 || (updateSrv st.1 stype).2)
          with ⟨-, he⟩ | ⟨-, st₁, he, -, hf₁⟩
        · rw [he] at h
          cases h
        rw [he] at h
        rcases updateSrvField_spec jsSrvObj (lit "uri") HNMDServiceEndpoint.rootURI
            (fun rootURI ep => { ep with rootURI }) stype st₁
          with ⟨-, he₂⟩ | ⟨-, st₂, he₂, -, hf₂⟩
        · cases he₂.symm.trans h
        · obtain rfl : st₂ = st' := Except.ok.inj (he₂.symm.trans h)
          -- neither member was stored, and the type was there
          obtain rfl := hf₂ hdown
          obtain rfl := hf₁ hdown
          obtain ⟨hst, hadded⟩ := Bool.or_eq_false_iff.mp hdown
          refine ⟨hst, sameServices_updateSrv ?_⟩
          by_contra hnew
          rw [updateSrv_added.mpr hnew] at hadded
          cases hadded
    next =>
      obtain rfl := Except.ok.inj h
      exact ⟨hdown, sameServices_refl _⟩

/-- A list that reports no change has changed no service. -/
theorem updateSrvElements_quiet :
    ∀ (elems : List (Option JsonObject)) {st st' : SrvMap × Bool},
      elems.foldlM updateSrvElement st = .ok st' → st'.2 = false →
      st.2 = false ∧ SameServices st.1 st'.1
  | [], st, st', h, hdown => by
      obtain rfl := Except.ok.inj h
      exact ⟨hdown, sameServices_refl _⟩
  | elem :: elems, st, st', h, hdown => by
      rw [List.foldlM_cons] at h
      cases hone : updateSrvElement st elem with
      | error m =>
        rw [hone] at h
        cases h
      | ok st₁ =>
        rw [hone] at h
        obtain ⟨hdown₁, hsame₁⟩ := updateSrvElements_quiet elems h hdown
        obtain ⟨hdown₀, hsame₀⟩ := updateSrvElement_quiet hone hdown₁
        exact ⟨hdown₀, hsame₀.trans hsame₁⟩

/-- The sweep leaves what was visited. -/
theorem complete_get (m : SrvMap) (t : Str) :
    (completeSrvUpdates m).1[t]? = m[t]?.filter HNMDServiceEndpoint.visited :=
  OrdMap.get_filter m t fun _ ep => ep.visited

/-- A sweep that drops nothing changes no service. -/
theorem sameServices_complete {m : SrvMap} (h : (completeSrvUpdates m).2 = false) :
    SameServices m (completeSrvUpdates m).1 := by
  intro t
  cases hget : m[t]? with
  | none => rw [complete_get, hget, Option.filter_none]
  | some ep =>
    have hkept : t ∈ (completeSrvUpdates m).1 :=
      (mem_completeSrvUpdates_of_unchanged h).mpr ((OrdMap.mem_iff_get m t).mpr ⟨ep, hget⟩)
    obtain ⟨ep', hep', hvisited⟩ := mem_completeSrvUpdates_iff.mp hkept
    obtain rfl : ep = ep' := Option.some.inj (hget.symm.trans hep')
    rw [complete_get, hget, Option.filter_some, if_pos hvisited]

/-! ## §4. A reply that is read to its end. -/

/-- What an element gives for a type, and the last one that does. -/
def elemGiven (key t : Str) (elem : Option JsonObject) : Option Str :=
  elem.bind fun jsSrvObj =>
    if jsSrvObj.getString (lit "type") = some t then jsSrvObj.getString key else none

def lastGiven (key t : Str) (elems : List (Option JsonObject)) : Option Str :=
  (elems.filterMap (elemGiven key t)).getLast?

/-- A map has become what a reply says: its types are those of the elements, and
what the reply does not give is kept from the old map. -/
structure Installs (elems : List (Option JsonObject)) (old new : SrvMap) : Prop where
  keyed : Keyed new
  types : ∀ t, t ∈ new ↔ ∃ elem ∈ elems, elemType elem = some t
  version : ∀ (t : Str) ep, new[t]? = some ep →
    ep.version = (lastGiven (lit "version") t elems).getD
      ((old[t]?.map HNMDServiceEndpoint.version).getD [])
  rootURI : ∀ (t : Str) ep, new[t]? = some ep →
    ep.rootURI = (lastGiven (lit "uri") t elems).getD
      ((old[t]?.map HNMDServiceEndpoint.rootURI).getD [])

/-- If no element raises, all are reached. -/
theorem reached_of_read {elems : List (Option JsonObject)}
    (hread : ∀ elem ∈ elems, elemRaises elem = false) : reached elems = elems := by
  induction elems with
  | nil => rfl
  | cons elem elems ih =>
    rw [reached, hread elem List.mem_cons_self,
      ih fun elem hmem => hread elem (List.mem_cons_of_mem _ hmem)]
    rfl

/-- The edit of an element that does not raise gives what the element gives. -/
theorem elemEdit_given {elem : Option JsonObject} (hread : elemRaises elem = false) (t : Str) :
    (elemEdit elem).bind (SrvEdit.givenFor t SrvEdit.version) = elemGiven (lit "version") t elem ∧
      (elemEdit elem).bind (SrvEdit.givenFor t SrvEdit.uri) = elemGiven (lit "uri") t elem := by
  cases elem with
  | none => exact ⟨rfl, rfl⟩
  | some jsSrvObj =>
    simp only [elemEdit, elemGiven, Option.bind_some]
    cases htype : jsSrvObj.getString (lit "type") with
    | none => exact ⟨rfl, rfl⟩
    | some stype =>
      have hhas : jsSrvObj.has (lit "type") = true := by
        by_contra hnot
        rw [getString_eq_none_of_not_has (Bool.eq_false_iff.mpr hnot)] at htype
        cases htype
      have hversion : fieldRaises jsSrvObj (lit "version") = false := by
        simp only [elemRaises, hhas, Bool.true_and, Bool.or_eq_false_iff] at hread
        exact hread.2.1
      simp [SrvEdit.givenFor, hversion]

/-- The last edit of a type gives what the last element for it gives. -/
theorem lastGiven_eq {elems : List (Option JsonObject)}
    (hread : ∀ elem ∈ elems, elemRaises elem = false) (t : Str) :
    latest SrvEdit.version t (srvEdits elems) = lastGiven (lit "version") t elems ∧
      latest SrvEdit.uri t (srvEdits elems) = lastGiven (lit "uri") t elems := by
  have hmembers : ∀ {member : SrvEdit → Option Str} {key : Str},
      (∀ elem ∈ elems, (elemEdit elem).bind (SrvEdit.givenFor t member) = elemGiven key t elem) →
      latest member t (srvEdits elems) = lastGiven key t elems := by
    intro member key h
    rw [latest, srvEdits, reached_of_read hread, List.filterMap_filterMap, lastGiven,
      List.filterMap_congr h]
  exact ⟨hmembers fun elem hmem => (elemEdit_given (hread elem hmem) t).1,
    hmembers fun elem hmem => (elemEdit_given (hread elem hmem) t).2⟩

/-- The types of the edits. -/
theorem mem_srvEdits_types {elems : List (Option JsonObject)}
    (hread : ∀ elem ∈ elems, elemRaises elem = false) (t : Str) :
    t ∈ (srvEdits elems).map SrvEdit.srvType ↔ ∃ elem ∈ elems, elemType elem = some t := by
  have hone : ∀ elem, (elemEdit elem).map SrvEdit.srvType = elemType elem := by
    intro elem
    cases elem with
    | none => rfl
    | some jsSrvObj =>
      simp only [elemEdit, elemType, Option.bind_some]
      cases jsSrvObj.getString (lit "type") <;> rfl
  rw [srvEdits, reached_of_read hread, List.map_filterMap]
  simp only [hone, List.mem_filterMap]

/-- The run over a reply that is read to its end. -/
theorem applyServicesReply_read (m : SrvMap) {elems : List (Option JsonObject)}
    (hread : ∀ elem ∈ elems, elemRaises elem = false) :
    ∃ st', elems.foldlM updateSrvElement (startSrvUpdates m, false) = .ok st' ∧
      applyServicesReply m (some (.array elems)) =
        ((completeSrvUpdates st'.1).1, some (st'.2 || (completeSrvUpdates st'.1).2)) := by
  rcases updateSrvElements_spec elems (startSrvUpdates m, false)
    with ⟨pre, elem, post, m', rfl, -, hr, -, -⟩ | ⟨-, st', he, -, -⟩
  · rw [hread elem (by simp)] at hr
    cases hr
  · exact ⟨st', he, by simp only [applyServicesReply, he]⟩

/-- A reply that is taken over has been read to its end. -/
theorem read_of_success {m : SrvMap} {elems : List (Option JsonObject)} {changed : Bool}
    (h : (applyServicesReply m (some (.array elems))).2 = some changed) :
    ∀ elem ∈ elems, elemRaises elem = false := by
  rcases updateSrvElements_spec elems (startSrvUpdates m, false)
    with ⟨_, _, _, m', _, _, _, he, _⟩ | ⟨hall, _⟩
  · simp only [applyServicesReply, he] at h
    cases h
  · exact hall

/-- **What a reply leaves under a type**: nothing when it does not name the type,
else the old endpoint, or an empty one, with the reply's edits. -/
theorem applyServicesReply_get (m : SrvMap) {elems : List (Option JsonObject)}
    (hread : ∀ elem ∈ elems, elemRaises elem = false) (t : Str) :
    (applyServicesReply m (some (.array elems))).1[t]? =
      if t ∈ (srvEdits elems).map SrvEdit.srvType then
        some (overwritten t (srvEdits elems)
          ((m[t]?.map HNMDServiceEndpoint.unmarked).getD (HNMDServiceEndpoint.new t)))
      else none := by
  obtain ⟨st', he, happly⟩ := applyServicesReply_read m hread
  have hloop := updateSrvElements_get t elems (startSrvUpdates m, false)
  rw [he, foldl_editUnder, start_get] at hloop
  have hget : st'.1[t]? = _ := hloop
  rw [happly, complete_get, hget]
  split
  next => rfl
  next =>
    -- an endpoint no element has visited is dropped
    cases m[t]? <;> rfl

/-- **A reply is installed**, and one that reports no change has changed nothing. -/
theorem applyServicesReply_installs {m : SrvMap} (hkeyed : Keyed m)
    {elems : List (Option JsonObject)} (hread : ∀ elem ∈ elems, elemRaises elem = false) :
    ∃ changed, (applyServicesReply m (some (.array elems))).2 = some changed ∧
      Installs elems m (applyServicesReply m (some (.array elems))).1 ∧
      (changed = false → SameServices m (applyServicesReply m (some (.array elems))).1) := by
  obtain ⟨st', he, happly⟩ := applyServicesReply_read m hread
  have hold : ∀ {t : Str} {ep}, (applyServicesReply m (some (.array elems))).1[t]? = some ep →
      ep = overwritten t (srvEdits elems)
        ((m[t]?.map HNMDServiceEndpoint.unmarked).getD (HNMDServiceEndpoint.new t)) := by
    intro t ep hep
    rw [applyServicesReply_get m hread] at hep
    split at hep
    next => exact (Option.some.inj hep).symm
    next => cases hep
  refine ⟨st'.2 || (completeSrvUpdates st'.1).2, by rw [happly], ?_, ?_⟩
  · refine ⟨applyServicesReply_keyed hkeyed _, fun t => ?_, fun t ep hep => ?_, fun t ep hep => ?_⟩
    · rw [OrdMap.mem_iff_get, applyServicesReply_get m hread, ← mem_srvEdits_types hread]
      split
      next hmem => exact iff_of_true ⟨_, rfl⟩ hmem
      next hnot => exact iff_of_false (fun ⟨_, h⟩ => by cases h) hnot
    · rw [hold hep, overwritten, (lastGiven_eq hread t).1]
      cases m[t]? <;> rfl
    · rw [hold hep, overwritten, (lastGiven_eq hread t).2]
      cases m[t]? <;> rfl
  · intro hdown
    obtain ⟨hflag, hsweep⟩ := Bool.or_eq_false_iff.mp hdown
    obtain ⟨-, hloop⟩ := updateSrvElements_quiet elems he hflag
    rw [happly]
    exact (sameServices_start m).trans (hloop.trans (sameServices_complete hsweep))

/-! ## §5. A reply that fails. -/

/-- The edits a reply makes. -/
def editsMade : Received → List SrvEdit
  | .ok (some (.array elems)) => srvEdits elems
  | _ => []

/-- The edits repeat what is there: the types are, and the last version and the
last URI given for each are the ones it has. -/
def Repeats (m : SrvMap) (edits : List SrvEdit) : Prop :=
  ∀ t ∈ edits.map SrvEdit.srvType, ∃ ep, m[t]? = some ep ∧
    (∀ version, latest SrvEdit.version t edits = some version → version = ep.version) ∧
    (∀ uri, latest SrvEdit.uri t edits = some uri → uri = ep.rootURI)

/-- The endpoint of a type is the same after its edits. -/
theorem overwritten_unmarked {t : Str} {edits : List SrvEdit} {ep : HNMDServiceEndpoint} :
    (overwritten t edits ep.unmarked).unmarked = ep.unmarked ↔
      (∀ version, latest SrvEdit.version t edits = some version → version = ep.version) ∧
      (∀ uri, latest SrvEdit.uri t edits = some uri → uri = ep.rootURI) := by
  simp only [overwritten, HNMDServiceEndpoint.unmarked, HNMDServiceEndpoint.mk.injEq, true_and,
    and_true]
  cases latest SrvEdit.version t edits <;> cases latest SrvEdit.uri t edits <;> simp

/-- Edits leave the services as they are exactly when they repeat them. -/
theorem sameServices_edits {m m' : SrvMap} {edits : List SrvEdit}
    (h : ∀ t : Str, m'[t]?.map HNMDServiceEndpoint.unmarked =
      (edits.foldl (editUnder t) (m[t]?.map HNMDServiceEndpoint.unmarked)).map
        HNMDServiceEndpoint.unmarked) :
    SameServices m m' ↔ Repeats m edits := by
  have hone : ∀ t : Str, m'[t]?.map HNMDServiceEndpoint.unmarked =
        m[t]?.map HNMDServiceEndpoint.unmarked ↔
      (t ∈ edits.map SrvEdit.srvType → ∃ ep, m[t]? = some ep ∧
        (∀ version, latest SrvEdit.version t edits = some version → version = ep.version) ∧
        (∀ uri, latest SrvEdit.uri t edits = some uri → uri = ep.rootURI)) := by
    intro t
    rw [h, foldl_editUnder]
    by_cases hmem : t ∈ edits.map SrvEdit.srvType
    · rw [if_pos hmem]
      cases hget : m[t]? with
      | none => simp [hmem]
      | some ep =>
        rw [Option.map_some, Option.map_some, Option.getD_some, Option.some.injEq,
          overwritten_unmarked]
        simp [hmem]
    · rw [if_neg hmem]
      refine iff_of_true ?_ fun hin => absurd hin hmem
      rw [Option.map_map]
      rfl
  exact forall_congr' hone

/-- What a reply that raises leaves under a type. -/
theorem applyServicesReply_failed {m : SrvMap} {body : Body}
    (h : (applyServicesReply m body).2 = none) (t : Str) :
    (applyServicesReply m body).1[t]?.map HNMDServiceEndpoint.unmarked =
      ((editsMade (.ok body)).foldl (editUnder t)
        (m[t]?.map HNMDServiceEndpoint.unmarked)).map HNMDServiceEndpoint.unmarked := by
  have hstart := sameServices_start m t
  unfold applyServicesReply at h ⊢
  split
  next =>
    show _ = (m[t]?.map _).map _
    rw [Option.map_map]
    rfl
  next elems =>
    have hloop := updateSrvElements_get t elems (startSrvUpdates m, false)
    cases hrun : elems.foldlM updateSrvElement (startSrvUpdates m, false) with
    | error m' =>
      rw [hrun, start_get] at hloop
      exact congrArg _ hloop
    | ok st =>
      simp only [hrun] at h
      cases h
  next body harr =>
    have hnone : editsMade (.ok (some body)) = [] := by
      cases body with
      | array elems => exact absurd rfl (harr elems)
      | object o => rfl
      | other => rfl
    rw [hnone, List.foldl_nil, Option.map_map]
    exact hstart

/-! ## §6. The two updates. -/

/-- The update of the provided services and that of the desired ones. -/
inductive SrvUpdate where
  | provided
  | desired
  deriving DecidableEq, Repr

namespace SrvUpdate

/-- `updateDeviceServicesProvideInfo`, `updateDeviceServicesMappingInfo`. -/
def op : SrvUpdate → RestOp
  | provided => .updateDeviceServicesProvideInfo
  | desired => .updateDeviceServicesMappingInfo

variable [Platform]

/-- `m_srvMapProvided`, `m_srvMapDesired`. -/
def services (device : HNMDARecord) : SrvUpdate → SrvMap
  | provided => device.srvMapProvided
  | desired => device.srvMapDesired

def withServices (device : HNMDARecord) (m : SrvMap) : SrvUpdate → HNMDARecord
  | provided => { device with srvMapProvided := m }
  | desired => { device with srvMapDesired := m }

/-- `rebuildSrvProviderMap`, `rebuildSrvMappings`. -/
def rebuild (a : HNManagedDeviceArbiter) : SrvUpdate → HNManagedDeviceArbiter
  | provided => a.rebuildSrvProviderMap
  | desired => a.rebuildSrvMappings

/-- The record as a reply leaves it. -/
def updated (device : HNMDARecord) (body : Body) (u : SrvUpdate) : HNMDARecord :=
  u.withServices device (applyServicesReply (u.services device) body).1

/-- Both updates are one function of the map they work on. -/
theorem finish_eq (u : SrvUpdate) (a : HNManagedDeviceArbiter) (id : Str) (device : HNMDARecord)
    (o : RestOutcome) :
    u.op.finish a id device o = store a o.receive fun body =>
      match (applyServicesReply (u.services device) body).2 with
      | none => (a.setDevice id (u.updated device body), .failure)
      | some true => (u.rebuild (a.setDevice id (u.updated device body)), .success)
      | some false => (a.setDevice id (u.updated device body), .success) := by
  cases u <;> rfl

/-- An update whose reply is taken over. -/
theorem finish_success (u : SrvUpdate) (a : HNManagedDeviceArbiter) (id : Str)
    {device : HNMDARecord} {o : RestOutcome} {body : Body} {changed : Bool}
    (hreply : o.receive = .ok body)
    (hflag : (applyServicesReply (u.services device) body).2 = some changed) :
    u.op.finish a id device o =
      some (if changed then u.rebuild (a.setDevice id (u.updated device body))
        else a.setDevice id (u.updated device body), .success) := by
  rw [u.finish_eq, hreply]
  simp only [store, hflag]
  cases changed <;> rfl

/-- An update writes the services of its own direction. -/
theorem services_updated (u : SrvUpdate) (device : HNMDARecord) (body : Body) :
    u.services (u.updated device body) = (applyServicesReply (u.services device) body).1 := by
  cases u <;> rfl

end SrvUpdate

section

variable [Platform]

/-- **A services reply that is read to its end is installed**, and unless the
index is rebuilt the services are the ones that were there. -/
theorem services_update_installs (u : SrvUpdate) (a : HNManagedDeviceArbiter) (id : Str)
    (device : HNMDARecord) (o : RestOutcome) (elems : List (Option JsonObject))
    (hkeyed : Keyed (u.services device)) (hreply : o.receive = .ok (some (.array elems)))
    (hread : ∀ elem ∈ elems, elemRaises elem = false) :
    ∃ new changed,
      u.op.finish a id device o =
        some (if changed then u.rebuild (a.setDevice id (u.withServices device new))
          else a.setDevice id (u.withServices device new), .success) ∧
      Installs elems (u.services device) new ∧
      (changed = false → SameServices (u.services device) new) := by
  obtain ⟨changed, hflag, hinstalls, hsame⟩ := applyServicesReply_installs hkeyed hread
  exact ⟨_, changed, u.finish_success a id hreply hflag, hinstalls, hsame⟩

end

section Sample

open RefPlatform

/-- A device that provides its health, left marked by an update that failed. -/
def sampleProvider : HNMDARecord :=
  { HNMDARecord.new with
    hnodeID := RefPlatform.parseHex (lit "29:72:e2:ae:db:90:11:ec:89:a1:b8:27:eb:52:da:55")
    srvMapProvided := (updateSrv ∅ (lit "hnsrv-health-source")).1 }

def sampleProviders : HNManagedDeviceArbiter :=
  (Sys.init sampleManager ()).arbiter.setDevice (lit "4900fb4e") sampleProvider

/-- An element that is no object, one with no type, and one type twice. -/
def repeatingElems : List (Option JsonObject) :=
  [none, some [], servicesEntry (lit "hnsrv-string-source") (lit "/a"),
    servicesEntry (lit "hnsrv-string-source") (lit "/b")]

theorem services_update_installs_sample :
    ∃ new changed,
      SrvUpdate.provided.op.finish sampleProviders (lit "4900fb4e") sampleProvider
          (okReply (.array repeatingElems)) =
        some (if changed then
            SrvUpdate.provided.rebuild (sampleProviders.setDevice (lit "4900fb4e")
              (SrvUpdate.provided.withServices sampleProvider new))
          else sampleProviders.setDevice (lit "4900fb4e")
            (SrvUpdate.provided.withServices sampleProvider new), .success) ∧
      Installs repeatingElems sampleProvider.srvMapProvided new ∧
      (changed = false → SameServices sampleProvider.srvMapProvided new) :=
  services_update_installs .provided sampleProviders (lit "4900fb4e") sampleProvider
    (okReply (.array repeatingElems)) repeatingElems (keyed_updateSrv keyed_empty _) rfl
    (by decide)

end Sample

section

variable [Platform]

/-- **A services reply that fails** leaves the record's services as they were
EXACTLY when the edits it made repeat them. -/
theorem failed_update_iff (u : SrvUpdate) (a a' : HNManagedDeviceArbiter) (id : Str)
    (device : HNMDARecord) (o : RestOutcome) (hget : a.deviceMap[id]? = some device)
    (hfail : u.op.finish a id device o = some (a', .failure)) :
    (∃ device', a'.deviceMap[id]? = some device' ∧
        SameServices (u.services device) (u.services device')) ↔
      Repeats (u.services device) (editsMade o.receive) := by
  rw [u.finish_eq] at hfail
  cases hreceived : o.receive with
  | raised =>
    rw [hreceived] at hfail
    cases hfail
  | failed =>
    -- the status is not OK, and the reply is not looked at
    rw [hreceived] at hfail
    obtain rfl : a = a' := congrArg Prod.fst (Option.some.inj hfail)
    refine iff_of_true ⟨device, hget, sameServices_refl _⟩ fun t ht => ?_
    cases ht
  | ok body =>
    rw [hreceived] at hfail
    cases hflag : (applyServicesReply (u.services device) body).2 with
    | some changed =>
      simp only [store, hflag] at hfail
      cases changed <;> cases congrArg Prod.snd (Option.some.inj hfail)
    | none =>
      simp only [store, hflag] at hfail
      obtain rfl := congrArg Prod.fst (Option.some.inj hfail)
      rw [← sameServices_edits (applyServicesReply_failed hflag), ← u.services_updated]
      constructor
      · intro h
        obtain ⟨device', hget', hsame⟩ := h
        rw [setDevice_get, if_pos rfl] at hget'
        obtain rfl := Option.some.inj hget'
        exact hsame
      · intro h
        exact ⟨_, by rw [setDevice_get, if_pos rfl], h⟩

end

section Sample

open RefPlatform

/-- A new URI for the service that is there, then a type that is no string. -/
def raisingElems : List (Option JsonObject) :=
  [servicesEntry (lit "hnsrv-health-source") (lit "/moved"),
    some [(lit "type", { asString := none, asBool := none })]]

/-- The reply fails, and the record keeps the new URI. -/
theorem failed_update_changes :
    ∃ a', sampleProviders.deviceMap[lit "4900fb4e"]? = some sampleProvider ∧
      SrvUpdate.provided.op.finish sampleProviders (lit "4900fb4e") sampleProvider
        (okReply (.array raisingElems)) = some (a', .failure) ∧
      ¬ ∃ device', a'.deviceMap[lit "4900fb4e"]? = some device' ∧
        SameServices (SrvUpdate.provided.services sampleProvider)
          (SrvUpdate.provided.services device') := by
  refine ⟨_, setDevice_get.trans (if_pos rfl), rfl, fun h => ?_⟩
  obtain ⟨device', hget, hsame⟩ := h
  rw [setDevice_get, if_pos rfl] at hget
  obtain rfl := Option.some.inj hget
  have huri := congrArg (Option.map HNMDServiceEndpoint.rootURI)
    (hsame (lit "hnsrv-health-source"))
  revert huri
  decide +kernel

/-- The service that is there, then a type that is no string. -/
def repeatingThenRaising : List (Option JsonObject) :=
  [some [(lit "type", stringField "hnsrv-health-source")],
    some [(lit "type", { asString := none, asBool := none })]]

theorem failed_update_iff_sample :
    ∃ a', SrvUpdate.provided.op.finish sampleProviders (lit "4900fb4e") sampleProvider
        (okReply (.array repeatingThenRaising)) = some (a', .failure) ∧
      ∃ device', a'.deviceMap[lit "4900fb4e"]? = some device' ∧
        SameServices (SrvUpdate.provided.services sampleProvider)
          (SrvUpdate.provided.services device') := by
  refine ⟨_, rfl, (failed_update_iff .provided sampleProviders _ (lit "4900fb4e") sampleProvider
    (okReply (.array repeatingThenRaising)) (setDevice_get.trans (if_pos rfl)) rfl).mpr ?_⟩
  intro t ht
  obtain rfl : t = lit "hnsrv-health-source" := List.mem_singleton.mp ht
  refine ⟨HNMDServiceEndpoint.new (lit "hnsrv-health-source"), by decide +kernel, ?_, ?_⟩
  · intro version h
    cases h
  · intro uri h
    cases h

end Sample

end HNodeMgmt.Arbiter
