/-
  HNodeMgmt.Scgi.Msg — the two halves of a request and its response.

  `HNSCGIMsg` is used for both directions.  Headers that come from the SCGI
  layer are routed: names with an underscore (and the name SCGI itself) go to
  the CGI variables, some of these are translated to HTTP headers or taken as
  the URI and the method, every other name goes to the header map.
-/
import Mathlib.Tactic.Common
import HNodeMgmt.Platform
import HNodeMgmt.Lib.CNumber

namespace HNodeMgmt.Scgi

open Lib

/-- `Poco::Ascii::toLower`. -/
def toLower (c : UInt8) : UInt8 := if 65 ≤ c && c ≤ 90 then c + 32 else c

/-- `Poco::icompare( a, b ) == 0`. -/
def icompareEq (a b : Str) : Bool := a.map toLower == b.map toLower

theorem icompareEq_iff {a b : Str} : icompareEq a b = true ↔ a.map toLower = b.map toLower := by
  simp [icompareEq]

/-- `HNSCGIMsg`: what the parser and the dispatch of requests use of it. -/
structure HNSCGIMsg where
  uri : Str
  method : Str
  statusCode : UInt32
  reason : Str
  headerComplete : Bool
  cgiVarMap : StrMap Str
  paramMap : StrMap Str

/-- The constructor.  The status code is not set there: it is 0 here, and
arbitrary in the code until it is. -/
def HNSCGIMsg.new : HNSCGIMsg :=
  { uri := [], method := [], statusCode := 0, reason := [], headerComplete := false
    cgiVarMap := ∅, paramMap := ∅ }

namespace HNSCGIMsg

def setURI (msg : HNSCGIMsg) (uri : Str) : HNSCGIMsg := { msg with uri }

def setMethod (msg : HNSCGIMsg) (method : Str) : HNSCGIMsg := { msg with method }

def setHeaderDone (msg : HNSCGIMsg) (value : Bool) : HNSCGIMsg :=
  { msg with headerComplete := value }

def addHdrPair (msg : HNSCGIMsg) (name value : Str) : HNSCGIMsg :=
  -- the one name whose capitalization is made uniform
  if icompareEq name (lit "Content-Length") then
    { msg with paramMap := msg.paramMap.insertIfNew (lit "Content-Length") value }
  else
    { msg with paramMap := msg.paramMap.insertIfNew name value }

/-- The variable itself, before any special handling. -/
def addCGIVar (msg : HNSCGIMsg) (name value : Str) : HNSCGIMsg :=
  { msg with cgiVarMap := msg.cgiVarMap.insertIfNew name value }

def addSCGIRequestHeader (msg : HNSCGIMsg) (name value : Str) : HNSCGIMsg :=
  if icompareEq name (lit "SCGI") then
    msg.addCGIVar name value
  else if name.contains 95 then
    let msg := msg.addCGIVar name value
    if icompareEq name (lit "CONTENT_LENGTH") then msg.addHdrPair (lit "Content-Length") value
    else if icompareEq name (lit "CONTENT_TYPE") then
      if value.isEmpty then msg else msg.addHdrPair (lit "Content-Type") value
    else if icompareEq name (lit "REQUEST_URI") then msg.setURI value
    else if icompareEq name (lit "REQUEST_METHOD") then msg.setMethod value
    else msg
  else msg.addHdrPair name value

/-! ### The response side. -/

def clearHeaders (msg : HNSCGIMsg) : HNSCGIMsg :=
  { msg with statusCode := 0, reason := [], paramMap := ∅ }

def setContentLength (msg : HNSCGIMsg) (length : UInt32) : HNSCGIMsg :=
  { msg with
    paramMap := msg.paramMap.insertIfNew (lit "Content-Length") (decimal length.toNat) }

def getContentLength (msg : HNSCGIMsg) : UInt32 :=
  match msg.paramMap[lit "Content-Length"]? with
  | none => 0
  | some value => narrow32 (strtol value)

def setContentType (msg : HNSCGIMsg) (typeStr : Str) : HNSCGIMsg :=
  { msg with paramMap := msg.paramMap.insertIfNew (lit "Content-Type") typeStr }

/-- The bodies of the three below: all cleared, a status, and no content. -/
def configAs (msg : HNSCGIMsg) (statusCode : UInt32) (reason : Str) : HNSCGIMsg :=
  ({ msg.clearHeaders with statusCode, reason }).setContentLength 0

def configAsNotImplemented (msg : HNSCGIMsg) : HNSCGIMsg :=
  msg.configAs 501 (lit "Not Implemented")

def configAsNotFound (msg : HNSCGIMsg) : HNSCGIMsg := msg.configAs 404 (lit "Not Found")

def configAsInternalServerError (msg : HNSCGIMsg) : HNSCGIMsg :=
  msg.configAs 500 (lit "Internal Server Error")

end HNSCGIMsg

/-- A header goes to the header map and nowhere else. -/
theorem addHdrPair_eq (msg : HNSCGIMsg) (name value : Str) :
    msg.addHdrPair name value =
      { msg with
        paramMap := msg.paramMap.insertIfNew
          (if icompareEq name (lit "Content-Length") then lit "Content-Length" else name)
          value } := by
  unfold HNSCGIMsg.addHdrPair
  split <;> rfl

end HNodeMgmt.Scgi
