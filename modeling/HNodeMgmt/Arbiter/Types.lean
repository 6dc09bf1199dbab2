/-
  HNodeMgmt.Arbiter.Types — the arbiter's enumerations and small classes.

  Management states, ownership states, addresses, service endpoints and
  management commands, each with the source's operations on it.
-/
import Mathlib.Tactic.Common
import HNodeMgmt.Platform

namespace HNodeMgmt.Arbiter

open Lib

/-! ## §1. Enumerations. -/

/-- `HNMDL_RESULT_T`. -/
inductive HNMDLResult where
  | success
  | failure
  deriving DecidableEq, Repr

/-- `HNMDR_MGMT_STATE_T`. -/
inductive MgmtState where
  | notset
  | discovered
  | recovered
  | self
  | optInfo
  | ownerInfo
  | srvProvideInfo
  | srvMappingInfo
  | srvMapUpdate
  | unclaimed
  | notAvailable
  | otherMgr
  | active
  | disappearing
  | offline
  | execCmd
  | updateHealth
  | updateStrref
  deriving DecidableEq, Repr

/-- `HNMDR_OWNER_STATE_T`. -/
inductive OwnerState where
  | notset
  | unknown
  | mine
  | other
  | available
  | unavailable
  deriving DecidableEq, Repr

/-- `HMDAR_ADDRTYPE_T`. -/
inductive AddrType where
  | notset
  | unknown
  | ipv4
  | loopbackIpv4
  | castIpv4
  | inetIpv4
  | ipv6
  | loopbackIpv6
  | castIpv6
  | inetIpv6
  deriving DecidableEq, Repr

/-- `HNMDC_CMDTYPE_T`. -/
inductive CmdType where
  | notset
  | claimdev
  | releasedev
  | setdevparams
  deriving DecidableEq, Repr

/-! ## §2. Addresses (`HNMDARAddress`). -/

structure HNMDARAddress where
  type : AddrType
  dnsName : Str
  address : Str
  port : UInt16
  deriving DecidableEq, Repr

/-- The type `setAddressInfo` gives an address string. -/
def addressType [Platform] (address : Str) : AddrType :=
  match Platform.parseIP address with
  | none => .unknown
  | some ip =>
    match ip.family with
    | .ipv4 =>
      if ip.isLoopback then .loopbackIpv4
      else if ip.isMulticast || ip.isBroadcast then .castIpv4
      else if ip.isLinkLocal || ip.isSiteLocal then .ipv4
      else .inetIpv4
    | .ipv6 =>
      if ip.isLoopback then .loopbackIpv6
      else if ip.isMulticast || ip.isBroadcast then .castIpv6
      else if ip.isLinkLocal || ip.isSiteLocal then .ipv6
      else .inetIpv6

/-- `setAddressInfo` overwrites every field. -/
def setAddressInfo [Platform] (dnsName address : Str) (port : UInt16) : HNMDARAddress :=
  { type := addressType address, dnsName, address, port }

/-! ## §3. Service endpoints (`HNMDServiceEndpoint`). -/

structure HNMDServiceEndpoint where
  type : Str
  version : Str
  rootURI : Str
  visited : Bool
  deriving DecidableEq, Repr

/-- The constructor, with the type and the visited mark a new entry gets. -/
def HNMDServiceEndpoint.new (srvType : Str) : HNMDServiceEndpoint :=
  { type := srvType, version := [], rootURI := [], visited := true }

/-- A record's map of provided or desired services. -/
abbrev SrvMap := StrMap HNMDServiceEndpoint

/-! ## §4. Management commands (`HNMDMgmtCmd`). -/

structure HNMDMgmtCmd where
  cmdType : CmdType
  fieldMask : UInt32
  name : Str
  deriving DecidableEq, Repr

/-- `HNMDC_FLDMASK_NONE` and `HNMDC_FLDMASK_NAME`. -/
def fldmaskNone : UInt32 := 0
def fldmaskName : UInt32 := 1

namespace HNMDMgmtCmd

/-- The constructor. -/
def new : HNMDMgmtCmd := { cmdType := .notset, fieldMask := fldmaskNone, name := [] }

/-- `clear` leaves the name; only the mask says that it is not set. -/
def clear (c : HNMDMgmtCmd) : HNMDMgmtCmd :=
  { c with cmdType := .notset, fieldMask := fldmaskNone }

/-- The command type and the error flag `setTypeFromStr` returns. -/
def setTypeFromStr (c : HNMDMgmtCmd) (value : Str) : HNMDMgmtCmd × Bool :=
  if lit "claim" = value then ({ c with cmdType := .claimdev }, false)
  else if lit "release" = value then ({ c with cmdType := .releasedev }, false)
  else if lit "update_device_fields" = value then ({ c with cmdType := .setdevparams }, false)
  else ({ c with cmdType := .notset }, true)

def setName (c : HNMDMgmtCmd) (value : Str) : HNMDMgmtCmd :=
  { c with name := value, fieldMask := c.fieldMask ||| fldmaskName }

/-- `setFromJSON`: the old command is cleared before the body is looked at. -/
def setFromJSON (c : HNMDMgmtCmd) (body : Body) : HNMDMgmtCmd × HNMDLResult :=
  match body with
  | some (.object jsRoot) =>
    if jsRoot.has (lit "command") = false then (c.clear, .failure)
    else
      match jsRoot.getString (lit "command") with
      | none => (c.clear, .failure)
      | some command =>
        match c.clear.setTypeFromStr command with
        | (c, true) => (c, .failure)
        | (c, false) =>
          if jsRoot.has (lit "name") then
            match jsRoot.getString (lit "name") with
            | none => (c, .failure)
            | some name => (c.setName name, .success)
          else (c, .success)
  | _ => (c.clear, .failure)

/-- The fields `getUpdateFieldsJSON` renders: nothing at all for an empty mask,
else an object that holds the name when the mask has its bit. -/
def getUpdateFieldsJSON (c : HNMDMgmtCmd) : Option (Option Str) :=
  if c.fieldMask = fldmaskNone then none
  else if c.fieldMask &&& fldmaskName ≠ 0 then some (some c.name)
  else some none

end HNMDMgmtCmd

end HNodeMgmt.Arbiter
