/-
  HNodeMgmt.Daemon.Endpoints — which operation a request is for.

  The operations of the manager are listed in a document, by the text of a path
  and the name of a method.  At the start the document is gone through and a
  path of the library is registered for each of them; one thing in it that is
  not as expected ends this, with what was registered so far.  A request is for
  the first registered path that takes its method and the segments of its URI.

  Main results:
    * `registered_rows` — what is registered is what the document lists in front
      of the first thing that raises.
    * `mapped_first` — a request is for the first operation of these that takes
      it.
    * `mapped_exact` — of the manager's own document every operation is
      registered, and the order is of no importance.
-/
import Mathlib.Tactic.Common
import HNodeMgmt.Lib.PathTemplate
import HNodeMgmt.Daemon.Mgmtd

namespace HNodeMgmt.Daemon

open Lib Arbiter Scgi

/-! ## §1. The document. -/

/-- The value of a method: an object, with what `getValue<std::string>` makes of its
`operationId`, `none` where it raises, or something else. -/
inductive OpenAPIMethod where
  | object (operationId : Option Str)
  | other

/-- The value of a path. -/
inductive OpenAPIPath where
  | object (methods : StrMap OpenAPIMethod)
  | other

/-- The root: an object, with its `paths` where these are an object too, or
something else.  An object is iterated in the order of its keys. -/
inductive OpenAPIRoot where
  | object (paths : Option (StrMap OpenAPIPath))
  | other

/-- A path with one method. -/
def operation (method operationId : String) : OpenAPIPath :=
  .object ((∅ : StrMap OpenAPIMethod).insertIfNew (lit method) (.object (some (lit operationId))))

/-- `g_HNode2ProxyMgmtAPI`, with the fields that are read. -/
def g_HNode2ProxyMgmtAPI : OpenAPIRoot :=
  .object (some (
    ((((((((∅ : StrMap OpenAPIPath)
    ).insertIfNew (lit "/hnode2/mgmt/auth/signin") (operation "post" "createAuthToken")
    ).insertIfNew (lit "/hnode2/mgmt/status") (operation "get" "getStatus")
    ).insertIfNew (lit "/hnode2/mgmt/device-inventory") (operation "get" "getDeviceInventory")
    ).insertIfNew (lit "/hnode2/mgmt/device-inventory/\x7bdevCRC32ID\x7d")
      (operation "get" "getDeviceMgmtStatus")
    ).insertIfNew (lit "/hnode2/mgmt/device-inventory/\x7bdevCRC32ID\x7d/command")
      (operation "post" "postDeviceMgmtCommand")
    ).insertIfNew (lit "/hnode2/mgmt/device-services") (operation "get" "getDeviceServices")
    ).insertIfNew (lit "/hnode2/mgmt/cluster-health") (operation "get" "getClusterHealth")))

/-! ## §2. The registration. -/

/-- `HNRPE_TYPE_PATH` and `HNRPE_TYPE_PARAM`. -/
inductive HNRPEType where
  | path
  | param
  deriving DecidableEq, Repr

/-- `HNRestPath` of hnode2, as it is called here. -/
class RestPaths where
  HNRestPath : Type
  newRestPath : HNRestPath
  /-- `init`; the third argument is always a null pointer. -/
  init : HNRestPath → Str → Str → HNRestPath
  setMethod : HNRestPath → Str → HNRestPath
  addPathElement : HNRestPath → HNRPEType → Str → HNRestPath
  /-- `none` is a null pointer. -/
  checkForHandler : HNRestPath → Str → List Str → Option HNOperationData

section Registration

variable [Platform] [RestPaths]

open RestPaths

omit [Platform] in
/-- `addProxyPath`; what it returns a pointer to is set up further by the caller. -/
def addProxyPath (m_proxyPathList : List HNRestPath) (dispatchID operationID : Str)
    (setUp : HNRestPath → HNRestPath) : List HNRestPath :=
  m_proxyPathList ++ [setUp (init newRestPath dispatchID operationID)]

/-- A segment in braces. -/
def isParam (segment : Str) : Bool := segment.head? == some 123 && segment.getLast? == some 125

omit [Platform] in
/-- The loop over the segments. -/
def addPathElements (pathStrs : List Str) (path : HNRestPath) : HNRestPath :=
  pathStrs.foldl (fun path segment =>
    if isParam segment then addPathElement path .param segment.tail.dropLast
    else addPathElement path .path segment) path

omit [Platform] in
/-- The loop over the methods of a path, and whether an exception has ended it. -/
def registerMethods (pathStrs : List Str) :
    List (Str × OpenAPIMethod) → List HNRestPath → List HNRestPath × Bool
  | [], m_proxyPathList => (m_proxyPathList, false)
  | (method, .object (some opID)) :: rest, m_proxyPathList =>
    registerMethods pathStrs rest (addProxyPath m_proxyPathList (lit "HNManagementDevice") opID
      fun path => addPathElements pathStrs (setMethod path method))
  -- no object, or no operation in it
  | _ :: _, m_proxyPathList => (m_proxyPathList, true)

/-- The loop over the paths. -/
def registerPaths : List (Str × OpenAPIPath) → List HNRestPath → List HNRestPath × Bool
  | [], m_proxyPathList => (m_proxyPathList, false)
  | (text, value) :: rest, m_proxyPathList =>
    match Platform.parseURI text with
    | none => (m_proxyPathList, true)
    | some uri =>
      match value with
      | .other => (m_proxyPathList, true)
      | .object methods =>
        let (m_proxyPathList, raised) :=
          registerMethods (Platform.uriPathSegments uri) methods.toList m_proxyPathList
        if raised then (m_proxyPathList, true) else registerPaths rest m_proxyPathList

/-- `registerProxyEndpointsFromOpenAPI`; `none` is text that is not parsed. -/
def registerProxyEndpointsFromOpenAPI (m_proxyPathList : List HNRestPath)
    (openAPIJson : Option OpenAPIRoot) : List HNRestPath :=
  match openAPIJson with
  | some (.object (some paths)) => (registerPaths paths.toList m_proxyPathList).1
  | _ => m_proxyPathList

/-- `mapProxyRequest`; the outer `none` is the exception of `Poco::URI`. -/
def mapProxyRequestOf (m_proxyPathList : List HNRestPath) (request : HNSCGIMsg) :
    Option (Option HNOperationData) :=
  (Platform.parseURI request.uri).map fun uri =>
    m_proxyPathList.findSome? fun path =>
      checkForHandler path request.method (Platform.uriPathSegments uri)

/-! ## §3. What the document lists. -/

/-- An operation of the document: its method, its path as a template, and its name. -/
structure Endpoint where
  method : Str
  template : List (PathPart Str Str)
  opID : Str
  deriving DecidableEq

omit [Platform] [RestPaths] in
/-- The template of a path. -/
def templateOf (segments : List Str) : List (PathPart Str Str) :=
  segments.map fun segment =>
    if isParam segment then .param segment.tail.dropLast else .fixed segment

omit [Platform] [RestPaths] in
/-- What is listed under a method; `none` is something that raises. -/
def methodRow (template : List (PathPart Str Str)) : Str × OpenAPIMethod → Option Endpoint
  | (method, .object (some opID)) => some { method, template, opID }
  | _ => none

omit [RestPaths] in
/-- What is listed under a path. -/
def pathRows : Str × OpenAPIPath → List (Option Endpoint)
  | (_, .other) => [none]
  | (text, .object methods) =>
    match Platform.parseURI text with
    | none => [none]
    | some uri => methods.toList.map (methodRow (templateOf (Platform.uriPathSegments uri)))

omit [Platform] [RestPaths] in
/-- The rows in front of the first that raises. -/
def untilRaised : List (Option Endpoint) → List Endpoint
  | [] => []
  | none :: _ => []
  | some e :: rows => e :: untilRaised rows

omit [RestPaths] in
/-- The operations a document registers. -/
def endpointsOf : Option OpenAPIRoot → List Endpoint
  | some (.object (some paths)) => untilRaised (paths.toList.flatMap pathRows)
  | _ => []

omit [Platform] in
/-- A part of a template, added to a path. -/
def addPart (path : HNRestPath) : PathPart Str Str → HNRestPath
  | .fixed text => addPathElement path .path text
  | .param name => addPathElement path .param name

omit [Platform] in
/-- The path of the library for a template. -/
def restPathOf (dispatchID opID method : Str) (template : List (PathPart Str Str)) : HNRestPath :=
  template.foldl addPart (setMethod (init newRestPath dispatchID opID) method)

omit [Platform] in
def Endpoint.restPath (e : Endpoint) : HNRestPath :=
  restPathOf (lit "HNManagementDevice") e.opID e.method e.template

omit [Platform] [RestPaths] in
/-- Rows of which none raises are all in front. -/
theorem untilRaised_append {rows : List (Option Endpoint)} (h : none ∉ rows)
    (rest : List (Option Endpoint)) :
    untilRaised (rows ++ rest) = untilRaised rows ++ untilRaised rest := by
  induction rows with
  | nil => rfl
  | cons row rows ih =>
    cases row with
    | none => exact absurd List.mem_cons_self h
    | some e =>
      rw [List.cons_append, untilRaised, untilRaised, List.cons_append,
        ih fun hmem => h (List.mem_cons_of_mem _ hmem)]

omit [Platform] [RestPaths] in
/-- Behind one that raises nothing counts. -/
theorem untilRaised_raised {rows : List (Option Endpoint)} (h : none ∈ rows)
    (rest : List (Option Endpoint)) : untilRaised (rows ++ rest) = untilRaised rows := by
  induction rows with
  | nil => cases h
  | cons row rows ih =>
    cases row with
    | none => rfl
    | some e =>
      rcases List.mem_cons.mp h with heq | hmem
      · cases heq
      · rw [List.cons_append, untilRaised, untilRaised, ih hmem]

omit [Platform] in
/-- The loop over the segments adds the template. -/
theorem addPathElements_eq (pathStrs : List Str) (path : HNRestPath) :
    addPathElements pathStrs path = (templateOf pathStrs).foldl addPart path := by
  unfold addPathElements templateOf
  rw [List.foldl_map]
  congr 1
  funext path segment
  split <;> rfl

omit [Platform] in
/-- The loop over the methods: the rows in front of the first that raises. -/
theorem registerMethods_rows (pathStrs : List Str) (methods : List (Str × OpenAPIMethod))
    (m_proxyPathList : List HNRestPath) :
    registerMethods pathStrs methods m_proxyPathList =
      (m_proxyPathList ++ (untilRaised (methods.map (methodRow (templateOf pathStrs)))).map
        Endpoint.restPath,
      decide (none ∈ methods.map (methodRow (templateOf pathStrs)))) := by
  induction methods generalizing m_proxyPathList with
  | nil =>
    rw [registerMethods, List.map_nil, untilRaised, List.map_nil, List.append_nil]
    rfl
  | cons row methods ih =>
    obtain ⟨method, value⟩ := row
    cases value with
    | other =>
      rw [registerMethods, List.map_cons, methodRow, untilRaised, List.map_nil, List.append_nil,
        decide_eq_true List.mem_cons_self]
      all_goals exact fun _ => nofun
    | object operationId =>
      cases operationId with
      | none =>
        rw [registerMethods, List.map_cons, methodRow, untilRaised, List.map_nil, List.append_nil,
          decide_eq_true List.mem_cons_self]
        all_goals exact fun _ => nofun
      | some opID =>
        rw [registerMethods, ih, addProxyPath, addPathElements_eq, List.map_cons, methodRow,
          untilRaised, List.map_cons, List.append_assoc, List.singleton_append]
        simp only [List.mem_cons, reduceCtorEq, false_or]
        rfl

/-- The loop over the paths, in the same way. -/
theorem registerPaths_rows (paths : List (Str × OpenAPIPath))
    (m_proxyPathList : List HNRestPath) :
    registerPaths paths m_proxyPathList =
      (m_proxyPathList ++ (untilRaised (paths.flatMap pathRows)).map Endpoint.restPath,
        decide (none ∈ paths.flatMap pathRows)) := by
  induction paths generalizing m_proxyPathList with
  | nil =>
    rw [registerPaths, List.flatMap_nil, untilRaised, List.map_nil, List.append_nil]
    rfl
  | cons row paths ih =>
    obtain ⟨text, value⟩ := row
    -- a path that raises as a whole
    have hnone : pathRows (text, value) = [none] →
        (m_proxyPathList, true) =
          (m_proxyPathList ++ (untilRaised (((text, value) :: paths).flatMap pathRows)).map
            Endpoint.restPath, decide (none ∈ ((text, value) :: paths).flatMap pathRows)) := by
      intro hrow
      rw [List.flatMap_cons, hrow, List.singleton_append, untilRaised, List.map_nil,
        List.append_nil, decide_eq_true List.mem_cons_self]
    cases value with
    | other =>
      rw [← hnone rfl, registerPaths]
      cases Platform.parseURI text <;> rfl
    | object methods =>
      cases huri : Platform.parseURI text with
      | none =>
        rw [← hnone (by rw [pathRows, huri]), registerPaths, huri]
      | some uri =>
        have hrow : pathRows (text, .object methods) =
            methods.toList.map (methodRow (templateOf (Platform.uriPathSegments uri))) := by
          rw [pathRows, huri]
        rw [registerPaths, huri]
        dsimp only
        rw [registerMethods_rows, List.flatMap_cons, hrow]
        dsimp only
        generalize methods.toList.map (methodRow _) = rows
        by_cases hraised : none ∈ rows
        · rw [decide_eq_true hraised, if_pos rfl, untilRaised_raised hraised,
            decide_eq_true (List.mem_append_left _ hraised)]
        · rw [decide_eq_false hraised, if_neg Bool.false_ne_true, ih, untilRaised_append hraised,
            List.map_append, List.append_assoc]
          simp only [List.mem_append, hraised, false_or]

/-- **What is registered** is what the document lists in front of the first thing
that raises, behind what was registered before. -/
theorem registered_rows (m_proxyPathList : List HNRestPath) (openAPIJson : Option OpenAPIRoot) :
    registerProxyEndpointsFromOpenAPI m_proxyPathList openAPIJson =
      m_proxyPathList ++ (endpointsOf openAPIJson).map Endpoint.restPath := by
  unfold registerProxyEndpointsFromOpenAPI
  split
  next paths => rw [registerPaths_rows, endpointsOf]
  next hother =>
    have hnothing : endpointsOf openAPIJson = [] := by
      unfold endpointsOf
      split
      next paths => exact absurd rfl (hother paths)
      next => rfl
    rw [hnothing, List.map_nil, List.append_nil]

/-! ## §4. Which operation a request is for. -/

/-- What `HNRestPath` does for a path that is set up from a template: it takes the
requests of its method whose segments the template takes, and gives the values
to the parameters, as far as these have different names. -/
structure DocumentedRestPath (sameMethod : Str → Str → Bool) : Prop where
  taken : ∀ (dispatchID opID : Str) {method reqMethod : Str}
    {template : List (PathPart Str Str)} {segments : List Str} {values : List (Str × Str)},
    sameMethod method reqMethod = true → capture template segments = some values →
    ∃ opData, checkForHandler (restPathOf dispatchID opID method template) reqMethod segments =
      some opData ∧ opData.opID = opID ∧
        ((values.map Prod.fst).Nodup → ∀ v ∈ values, opData.getParam v.1 = some v.2)
  refused : ∀ {dispatchID opID method reqMethod : Str} {template : List (PathPart Str Str)}
    {segments : List Str}, (sameMethod method reqMethod && (capture template segments).isSome) =
      false → checkForHandler (restPathOf dispatchID opID method template) reqMethod segments = none

omit [Platform] [RestPaths] in
/-- The operation takes a request of this method with these segments. -/
def Endpoint.takes (sameMethod : Str → Str → Bool) (reqMethod : Str) (segments : List Str)
    (e : Endpoint) : Bool :=
  sameMethod e.method reqMethod && (capture e.template segments).isSome

omit [Platform] [RestPaths] in
/-- The operation data is that of the operation, with what the segments say of its
parameters. -/
def Endpoint.Gives (e : Endpoint) (segments : List Str) (opData : HNOperationData) : Prop :=
  opData.opID = e.opID ∧ ∃ values, Spells e.template values segments ∧
    ((values.map Prod.fst).Nodup → ∀ v ∈ values, opData.getParam v.1 = some v.2)

variable {sameMethod : Str → Str → Bool}

omit [Platform] in
/-- One path of the list is asked. -/
theorem checkForHandler_rel (hpaths : DocumentedRestPath sameMethod) (reqMethod : Str)
    (segments : List Str) (e : Endpoint) :
    (e.takes sameMethod reqMethod segments = false ∧
      checkForHandler e.restPath reqMethod segments = none) ∨
    (e.takes sameMethod reqMethod segments = true ∧
      ∃ opData, checkForHandler e.restPath reqMethod segments = some opData ∧
        e.Gives segments opData) := by
  cases htakes : e.takes sameMethod reqMethod segments with
  | false => exact .inl ⟨rfl, hpaths.refused htakes⟩
  | true =>
    obtain ⟨hmethod, hsome⟩ := Bool.and_eq_true_iff.mp htakes
    obtain ⟨values, hvalues⟩ := Option.isSome_iff_exists.mp hsome
    obtain ⟨opData, hcheck, hop, hparams⟩ := hpaths.taken _ _ hmethod hvalues
    exact .inr ⟨rfl, opData, hcheck, hop, values, capture_iff.mp hvalues, hparams⟩

/-- **A request is for the first operation that takes it** of those that the document
lists in front of the first thing that raises, and for none if none takes it. -/
theorem mapped_first (hpaths : DocumentedRestPath sameMethod) (openAPIJson : Option OpenAPIRoot)
    (request : HNSCGIMsg) (uri : Platform.URI) (huri : Platform.parseURI request.uri = some uri) :
    ∃ found, mapProxyRequestOf (registerProxyEndpointsFromOpenAPI [] openAPIJson) request =
        some found ∧
      Option.Rel (fun opData e => Endpoint.Gives e (Platform.uriPathSegments uri) opData) found
        ((endpointsOf openAPIJson).find?
          (Endpoint.takes sameMethod request.method (Platform.uriPathSegments uri))) := by
  rw [registered_rows, List.nil_append, mapProxyRequestOf, huri]
  refine ⟨_, rfl, ?_⟩
  dsimp only
  rw [List.findSome?_map]
  generalize endpointsOf openAPIJson = endpoints
  induction endpoints with
  | nil => exact .none
  | cons e endpoints ih =>
    rw [List.findSome?_cons, List.find?_cons]
    rcases checkForHandler_rel hpaths request.method (Platform.uriPathSegments uri) e with
      ⟨htakes, hcheck⟩ | ⟨htakes, opData, hcheck, hgives⟩
    · rw [Function.comp_apply, hcheck, htakes]
      exact ih
    · rw [Function.comp_apply, hcheck, htakes]
      exact .some hgives

/-! ## §5. The manager's own document. -/

omit [Platform] [RestPaths] in
/-- Everything is below these two. -/
def managed (parts : List (PathPart Str Str)) : List (PathPart Str Str) :=
  .fixed (lit "hnode2") :: .fixed (lit "mgmt") :: parts

omit [Platform] [RestPaths] in
/-- **The operations of the manager.** -/
def ownEndpoints : List Endpoint :=
  let inventory : PathPart Str Str := .fixed (lit "device-inventory")
  let device : PathPart Str Str := .param (lit "devCRC32ID")
  [ { method := lit "post", template := managed [.fixed (lit "auth"), .fixed (lit "signin")]
      opID := lit "createAuthToken" },
    { method := lit "get", template := managed [.fixed (lit "cluster-health")]
      opID := lit "getClusterHealth" },
    { method := lit "get", template := managed [inventory], opID := lit "getDeviceInventory" },
    { method := lit "get", template := managed [inventory, device]
      opID := lit "getDeviceMgmtStatus" },
    { method := lit "post", template := managed [inventory, device, .fixed (lit "command")]
      opID := lit "postDeviceMgmtCommand" },
    { method := lit "get", template := managed [.fixed (lit "device-services")]
      opID := lit "getDeviceServices" },
    { method := lit "get", template := managed [.fixed (lit "status")], opID := lit "getStatus" } ]

omit [RestPaths] in
/-- `Poco::URI` takes an absolute path without special characters, and its segments
are what stands between the slashes. -/
def PlainPaths : Prop :=
  ∀ text : Str, text.head? = some 47 → (∀ c ∈ [35, 37, 58, 63], c ∉ text) →
    (Platform.parseURI text).map Platform.uriPathSegments = some (segmentsOf 47 text)

omit [RestPaths] in
/-- What is listed under a path with one method. -/
theorem pathRows_operation (hplain : PlainPaths) {text : Str} (method operationId : String)
    (htext : text.head? = some 47 ∧ ∀ c ∈ [35, 37, 58, 63], c ∉ text) :
    pathRows (text, operation method operationId) =
      [some
        { method := lit method, template := templateOf (segmentsOf 47 text)
          opID := lit operationId }] := by
  obtain ⟨uri, huri, hsegments⟩ := Option.map_eq_some_iff.mp (hplain text htext.1 htext.2)
  rw [operation, pathRows, huri, ← hsegments]
  rfl

omit [RestPaths] in
/-- **All of them are registered.** -/
theorem own_endpoints (hplain : PlainPaths) :
    endpointsOf (some g_HNode2ProxyMgmtAPI) = ownEndpoints := by
  have hrows : endpointsOf (some g_HNode2ProxyMgmtAPI) = untilRaised
      ([(lit "/hnode2/mgmt/auth/signin", operation "post" "createAuthToken"),
        (lit "/hnode2/mgmt/cluster-health", operation "get" "getClusterHealth"),
        (lit "/hnode2/mgmt/device-inventory", operation "get" "getDeviceInventory"),
        (lit "/hnode2/mgmt/device-inventory/\x7bdevCRC32ID\x7d",
          operation "get" "getDeviceMgmtStatus"),
        (lit "/hnode2/mgmt/device-inventory/\x7bdevCRC32ID\x7d/command",
          operation "post" "postDeviceMgmtCommand"),
        (lit "/hnode2/mgmt/device-services", operation "get" "getDeviceServices"),
        (lit "/hnode2/mgmt/status", operation "get" "getStatus")].flatMap pathRows) := rfl
  rw [hrows]
  simp only [List.flatMap_cons, List.flatMap_nil]
  rw [pathRows_operation hplain _ _ (by decide +kernel),
    pathRows_operation hplain _ _ (by decide +kernel),
    pathRows_operation hplain _ _ (by decide +kernel),
    pathRows_operation hplain _ _ (by decide +kernel),
    pathRows_operation hplain _ _ (by decide +kernel),
    pathRows_operation hplain _ _ (by decide +kernel),
    pathRows_operation hplain _ _ (by decide +kernel)]
  decide +kernel

omit [Platform] [RestPaths] in
/-- No two of them can be meant by one path, each says what the third segment is,
and none names two parameters alike. -/
theorem own_table :
    ownEndpoints.Pairwise (fun e e' => overlap e.template e'.template = false) ∧
    ∀ e ∈ ownEndpoints, (e.template.filterMap PathPart.name?).Nodup ∧
      ∃ text ∈ [lit "auth", lit "cluster-health", lit "device-inventory", lit "device-services",
        lit "status"], e.template[2]? = some (.fixed text) := by
  decide +kernel

/-- The request is for this operation, with these values of its parameters. -/
structure Endpoint.AskedBy (sameMethod : Str → Str → Bool) (request : HNSCGIMsg)
    (segments : List Str) (e : Endpoint) (values : List (Str × Str)) : Prop where
  method : sameMethod e.method request.method = true
  path : Spells e.template values segments

/-- The operation data is that of the operation with these values. -/
structure Endpoint.Data (e : Endpoint) (values : List (Str × Str)) (opData : HNOperationData) :
    Prop where
  opID : opData.opID = e.opID
  param : ∀ v ∈ values, opData.getParam v.1 = some v.2

/-- The list as it is registered at the start. -/
def ownPathList : List HNRestPath :=
  registerProxyEndpointsFromOpenAPI [] (some g_HNode2ProxyMgmtAPI)

omit [Platform] in
/-- What one path of the list answers. -/
theorem handled_iff (hpaths : DocumentedRestPath sameMethod) {request : HNSCGIMsg}
    {segments : List Str} {e : Endpoint} (hmem : e ∈ ownEndpoints) :
    (∀ opData, checkForHandler e.restPath request.method segments = some opData →
      ∃ values, e.AskedBy sameMethod request segments values ∧ e.Data values opData) ∧
    ∀ values, e.AskedBy sameMethod request segments values →
      ∃ opData, checkForHandler e.restPath request.method segments = some opData ∧
        e.Data values opData := by
  have hnames := (own_table.2 e hmem).1
  constructor
  · intro opData hcheck
    rcases checkForHandler_rel hpaths request.method segments e with
      ⟨-, hnone⟩ | ⟨htakes, opData', hcheck', hop, values, hspells, hparams⟩
    · cases hnone.symm.trans hcheck
    · obtain rfl := Option.some.inj (hcheck.symm.trans hcheck')
      rw [hspells.names] at hparams
      exact ⟨values, ⟨(Bool.and_eq_true_iff.mp htakes).1, hspells⟩, hop, hparams hnames⟩
  · intro values hasked
    obtain ⟨opData, hcheck, hop, hparams⟩ :=
      hpaths.taken (lit "HNManagementDevice") e.opID hasked.method
        (capture_iff.mpr hasked.path)
    rw [hasked.path.names] at hparams
    exact ⟨opData, hcheck, hop, hparams hnames⟩

/-- The list of the program is that of its document. -/
theorem mapped_own (hplain : PlainPaths) {request : HNSCGIMsg} {uri : Platform.URI}
    (huri : Platform.parseURI request.uri = some uri) :
    mapProxyRequestOf ownPathList request = some (ownEndpoints.findSome? fun e =>
      checkForHandler e.restPath request.method (Platform.uriPathSegments uri)) := by
  rw [mapProxyRequestOf, huri, ownPathList, registered_rows, own_endpoints hplain,
    List.nil_append, Option.map_some, List.findSome?_map]
  rfl

/-- A request is mapped to an operation that it is for, or to nothing if there is
none. -/
theorem mapped_cases (hpaths : DocumentedRestPath sameMethod) (hplain : PlainPaths)
    {request : HNSCGIMsg} {uri : Platform.URI}
    (huri : Platform.parseURI request.uri = some uri) :
    (mapProxyRequestOf ownPathList request = some none ∧
      ∀ e ∈ ownEndpoints, ∀ values,
        ¬ e.AskedBy sameMethod request (Platform.uriPathSegments uri) values) ∨
    ∃ opData, mapProxyRequestOf ownPathList request = some (some opData) ∧
      ∃ e ∈ ownEndpoints, ∃ values,
        e.AskedBy sameMethod request (Platform.uriPathSegments uri) values ∧
          e.Data values opData := by
  rw [mapped_own hplain huri]
  cases hfound : ownEndpoints.findSome? fun e =>
      checkForHandler e.restPath request.method (Platform.uriPathSegments uri) with
  | none =>
    refine .inl ⟨rfl, fun e hmem values hasked => ?_⟩
    obtain ⟨opData, hcheck, -⟩ := (handled_iff hpaths hmem).2 values hasked
    cases (List.findSome?_eq_none_iff.mp hfound e hmem).symm.trans hcheck
  | some opData =>
    obtain ⟨e, hmem, hcheck⟩ := List.exists_of_findSome?_eq_some hfound
    obtain ⟨values, hasked, hdata⟩ := (handled_iff hpaths hmem).1 opData hcheck
    exact .inr ⟨opData, rfl, e, hmem, values, hasked, hdata⟩

/-- **The manager answers exactly what its document lists.**  A request whose URI is
accepted is mapped to the operation of the document that it is for, with its
parameters, and a request that is for none of them to nothing; wherever in the
list the operation stands. -/
theorem mapped_exact (hpaths : DocumentedRestPath sameMethod) (hplain : PlainPaths)
    (request : HNSCGIMsg) (uri : Platform.URI) (huri : Platform.parseURI request.uri = some uri) :
    (∀ opData, mapProxyRequestOf ownPathList request = some (some opData) →
      ∃ e ∈ ownEndpoints, ∃ values,
        e.AskedBy sameMethod request (Platform.uriPathSegments uri) values ∧
          e.Data values opData) ∧
    ∀ e ∈ ownEndpoints, ∀ values,
      e.AskedBy sameMethod request (Platform.uriPathSegments uri) values →
      ∃ opData, mapProxyRequestOf ownPathList request = some (some opData) ∧
        e.Data values opData := by
  -- two paths that both answer would have a spelling in common
  have hapart : ownEndpoints.Pairwise fun e e' => ∀ opData opData',
      checkForHandler e.restPath request.method (Platform.uriPathSegments uri) = some opData →
      checkForHandler e'.restPath request.method (Platform.uriPathSegments uri) ≠
        some opData' := by
    refine own_table.1.imp_of_mem fun {e e'} hmem hmem' hdisjoint opData opData' h h' => ?_
    obtain ⟨values, hasked, -⟩ := (handled_iff hpaths hmem).1 opData h
    obtain ⟨values', hasked', -⟩ := (handled_iff hpaths hmem').1 opData' h'
    cases hdisjoint.symm.trans (overlap_of_spells hasked.path hasked'.path)
  rw [mapped_own hplain huri]
  constructor
  · intro opData hmapped
    obtain ⟨e, hmem, hcheck⟩ := (findSome?_iff_of_apart hapart).mp (Option.some.inj hmapped)
    obtain ⟨values, hasked, hdata⟩ := (handled_iff hpaths hmem).1 opData hcheck
    exact ⟨e, hmem, values, hasked, hdata⟩
  · intro e hmem values hasked
    obtain ⟨opData, hcheck, hdata⟩ := (handled_iff hpaths hmem).2 values hasked
    exact ⟨opData, congrArg some ((findSome?_iff_of_apart hapart).mpr ⟨e, hmem, hcheck⟩), hdata⟩

end Registration

/-! ## §6. Paths to run the model on. -/

/-- A path as it has been set up. -/
structure RefPath where
  opID : Str
  method : Str
  template : List (PathPart Str Str)

namespace RefPath

/-- The values become the parameters of the operation data. -/
def checkForHandler (path : RefPath) (reqMethod : Str) (segments : List Str) :
    Option HNOperationData :=
  if icompareEq path.method reqMethod then
    (capture path.template segments).map fun values =>
      { opID := path.opID, paramMap := OrdMap.insertAll ∅ values }
  else none

scoped instance paths : RestPaths where
  HNRestPath := RefPath
  newRestPath := { opID := [], method := [], template := [] }
  init path _ opID := { path with opID }
  setMethod path method := { path with method }
  addPathElement path type text :=
    { path with
      template := path.template ++
        [match type with | .path => .fixed text | .param => .param text] }
  checkForHandler := checkForHandler

/-- A path that is set up from a template has this template. -/
theorem restPathOf_eq (dispatchID opID method : Str) (template : List (PathPart Str Str)) :
    restPathOf dispatchID opID method template = ({ opID, method, template } : RefPath) := by
  have hadd : ∀ (template : List (PathPart Str Str)) (path : RefPath),
      template.foldl addPart path = { path with template := path.template ++ template } := by
    intro template
    induction template with
    | nil =>
      intro path
      rw [List.foldl_nil, List.append_nil]
    | cons part template ih =>
      intro path
      rw [List.foldl_cons, ih, List.append_cons path.template part template]
      cases part <;> rfl
  exact hadd template _

/-- These are as documented, with methods compared without regard to case. -/
theorem documented : DocumentedRestPath icompareEq where
  taken := by
    intro dispatchID opID method reqMethod template segments values hmethod hvalues
    rw [restPathOf_eq]
    refine ⟨{ opID, paramMap := OrdMap.insertAll ∅ values }, ?_, rfl, fun hnames v hmem => ?_⟩
    · show (if icompareEq method reqMethod then _ else _) = _
      rw [if_pos hmethod, hvalues]
      rfl
    · refine Std.ExtTreeMap.mem_toList_iff_getElem?_eq_some.mp ?_
      exact (OrdMap.mem_toList_insertAll_of_nodup hnames fun _ _ => by simp).mpr hmem
  refused := by
    intro dispatchID opID method reqMethod template segments hnot
    rw [restPathOf_eq]
    show (if icompareEq method reqMethod then _ else _) = _
    by_cases hmethod : icompareEq method reqMethod = true
    · rw [hmethod, Bool.true_and, Option.isSome_eq_false_iff, Option.isNone_iff_eq_none] at hnot
      rw [if_pos hmethod, hnot]
      rfl
    · rw [if_neg hmethod]

end RefPath

/-! ### One document that is cut off, and the manager's own. -/

section Sample

open RefPlatform RefPath

/-- The second path is no object, and there is a third. -/
def cutOffAPI : OpenAPIRoot :=
  .object (some (
    ((((∅ : StrMap OpenAPIPath)
    ).insertIfNew (lit "/first") (operation "get" "getFirst")
    ).insertIfNew (lit "/second") .other
    ).insertIfNew (lit "/third") (operation "get" "getThird")))

/-- A request to read this path. -/
def readRequest (path : String) : HNSCGIMsg :=
  { HNSCGIMsg.new with method := lit "GET", uri := lit path }

/-- The third path is not registered. -/
theorem mapped_first_sample :
    mapProxyRequestOf (registerProxyEndpointsFromOpenAPI [] (some cutOffAPI))
      (readRequest "/third") = some none := by
  have hparsed : (Platform.parseURI (readRequest "/third").uri).map Platform.uriPathSegments =
      some [lit "third"] := by decide +kernel
  obtain ⟨uri, huri, hsegments⟩ := Option.map_eq_some_iff.mp hparsed
  obtain ⟨found, hmapped, hrel⟩ :=
    mapped_first documented (some cutOffAPI) (readRequest "/third") uri huri
  have hnone : (endpointsOf (some cutOffAPI)).find?
      (Endpoint.takes icompareEq (readRequest "/third").method [lit "third"]) = none := by
    decide +kernel
  rw [hsegments, hnone] at hrel
  cases hrel
  exact hmapped

/-- Text without a percent sign has no bad escapes. -/
theorem wellEscaped_of_plain {s : Str} (h : 37 ∉ s) : wellEscaped s = true := by
  induction s with
  | nil => rfl
  | cons c s ih =>
    rw [wellEscaped]
    · exact ih fun hmem => h (List.mem_cons_of_mem _ hmem)
    · rintro hi lo rest rfl
      exact absurd List.mem_cons_self h
    · rintro rfl
      exact absurd List.mem_cons_self h

/-- The reference URIs are taken as they are. -/
theorem plainPaths_ref : PlainPaths := by
  intro text hhead hspecial
  have hscheme : (lit "http://").isPrefixOf text = false := by
    obtain ⟨rest, rfl⟩ := List.head?_eq_some_iff.mp hhead
    rfl
  have hcolon : text.contains 58 = false := by
    rw [List.contains_eq_mem]
    exact decide_eq_false (hspecial 58 (by decide))
  show (RefPlatform.parseURI text).map _ = _
  rw [RefPlatform.parseURI, wellEscaped_of_plain (hspecial 37 (by decide)), hscheme, hcolon]
  rfl

/-- The status of the garden is asked for, by its name and with its ID. -/
theorem mapped_exact_sample :
    ∃ opData, mapProxyRequestOf ownPathList
        (readRequest "/hnode2/mgmt/device-inventory/4900fb4e") = some (some opData) ∧
      opData.opID = lit "getDeviceMgmtStatus" ∧
      opData.getParam (lit "devCRC32ID") = some (lit "4900fb4e") := by
  have hparsed : (Platform.parseURI
      (readRequest "/hnode2/mgmt/device-inventory/4900fb4e").uri).map Platform.uriPathSegments =
      some [lit "hnode2", lit "mgmt", lit "device-inventory", lit "4900fb4e"] := by
    decide +kernel
  obtain ⟨uri, huri, hsegments⟩ := Option.map_eq_some_iff.mp hparsed
  obtain ⟨opData, hmapped, hdata⟩ := (mapped_exact documented plainPaths_ref
    (readRequest "/hnode2/mgmt/device-inventory/4900fb4e") uri huri).2
    { method := lit "get", opID := lit "getDeviceMgmtStatus"
      template := managed [.fixed (lit "device-inventory"), .param (lit "devCRC32ID")] }
    (by decide +kernel) [(lit "devCRC32ID", lit "4900fb4e")]
    ⟨by decide +kernel, hsegments ▸ capture_iff.mp (by decide +kernel)⟩
  exact ⟨opData, hmapped, hdata.opID, hdata.param _ List.mem_cons_self⟩

end Sample

end HNodeMgmt.Daemon
