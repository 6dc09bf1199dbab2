/-
  HNodeMgmt.Platform — strings, JSON values, and the libraries the daemon rests on.

  A `std::string` is a list of bytes.  A parsed JSON reply is kept as the
  code can see it: which fields an object has, and for each of them the value
  that `getValue<T>` converts it to, or the exception Poco raises instead.

  The hnode2 library and Poco are not in the repository.  `Platform` holds
  what the daemon calls of them: node identifiers, IP addresses, URIs and the
  two caches.  Nothing is assumed of these functions here; a result that
  needs something of them says so in its hypotheses.
-/
import Mathlib.Tactic.Common
import HNodeMgmt.Lib.OrdMap

namespace HNodeMgmt

open Lib

/-! ## §1. Strings. -/

/-- `std::string`: a sequence of bytes. -/
abbrev Str := List UInt8

/-- A string literal of the source (all of them are ASCII). -/
def lit (s : String) : Str := s.toList.map fun c => UInt8.ofNat c.toNat

/-- `std::map< std::string, α >`. -/
abbrev StrMap (α : Type) := OrdMap Str α

/-! ## §2. JSON as the code reads it. -/

/-- A field of a parsed object: the conversions the code asks for, `none` where
Poco raises an exception. -/
structure JsonField where
  asString : Option Str
  asBool : Option Bool
  deriving DecidableEq, Repr

/-- The fields of a `Poco::JSON::Object`. -/
abbrev JsonObject := List (Str × JsonField)

/-- `has( key )`. -/
def JsonObject.has (o : JsonObject) (key : Str) : Bool := (o.lookup key).isSome

/-- `getValue<std::string>( key )`; a missing key converts no more than an
unconvertible one. -/
def JsonObject.getString (o : JsonObject) (key : Str) : Option Str :=
  (o.lookup key).bind JsonField.asString

/-- `getValue<bool>( key )`. -/
def JsonObject.getBool (o : JsonObject) (key : Str) : Option Bool :=
  (o.lookup key).bind JsonField.asBool

/-- The root value the parser returns.  `getObject( i )` gives a null pointer
for an array element that is no object. -/
inductive JsonVar where
  | object (o : JsonObject)
  | array (elems : List (Option JsonObject))
  | other
  deriving DecidableEq, Repr

/-- The body of a request or reply: `none` when `parser.parse` raises. -/
abbrev Body := Option JsonVar

/-! ## §3. The libraries. -/

/-- The address families `Poco::Net::IPAddress` distinguishes. -/
inductive AddressFamily where
  | ipv4
  | ipv6
  deriving DecidableEq, Repr

/-- What the code asks a `Poco::Net::IPAddress`. -/
structure IPAddress where
  family : AddressFamily
  isLoopback : Bool
  isMulticast : Bool
  isBroadcast : Bool
  isLinkLocal : Bool
  isSiteLocal : Bool
  deriving DecidableEq, Repr

/-- The parts of hnode2 and Poco the daemon calls. -/
class Platform where
  /-- `HNodeID`. -/
  HNodeID : Type
  /-- A default constructed `HNodeID`. -/
  newHNodeID : HNodeID
  setFromStr : HNodeID → Str → HNodeID
  clear : HNodeID → HNodeID
  getStr : HNodeID → Str
  getCRC32 : HNodeID → UInt32
  getCRC32AsHexStr : HNodeID → Str
  /-- The `Poco::Net::IPAddress` constructor; `none` is its exception. -/
  parseIP : Str → Option IPAddress
  /-- `Poco::URI`. -/
  URI : Type
  /-- The string constructor; `none` is its exception. -/
  parseURI : Str → Option URI
  /-- An empty URI with scheme `http` and this host, port and path set. -/
  httpURI : Str → UInt16 → Str → URI
  uriToString : URI → Str
  uriPath : URI → Str
  /-- `setPath`, which decodes its argument; `none` is its exception. -/
  uriSetPath : URI → Str → Option URI
  uriHost : URI → Str
  uriPort : URI → UInt16
  uriPathAndQuery : URI → Str
  uriPathSegments : URI → List Str
  uriRawQuery : URI → Str
  /-- `HNHealthCache` with the `HNFormatStringCache` it is linked to. -/
  Caches : Type
  /-- The new caches and the `changed` flag of an update that returns. -/
  updateDeviceHealth : Caches → UInt32 → Body → Caches × Bool
  /-- `none` is an exception. -/
  getUncachedStrRefList : Caches → UInt32 → Option (List Str)
  updateStringDefinitions : Caches → Str → Body → Caches × Bool

/-- The `HNodeDevice` of the manager itself, as the arbiter reads it. -/
structure HNodeDevice where
  hnodeIDStr : Str
  hnodeIDCRC32Str : Str
  hnodeIDCRC32 : UInt32
  restAddress : Str
  restPort : UInt16
  restRootPath : Str
  deriving DecidableEq, Repr

end HNodeMgmt
