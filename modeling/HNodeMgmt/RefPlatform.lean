/-
  HNodeMgmt.RefPlatform — a platform to run the model on.

  Node identifiers are the bytes of a UUID written in hexadecimal with colons,
  as in the replies the source quotes, and their CRC32 is the usual one of
  those bytes.  Addresses are dotted quads; a URI is kept by its parts.

  Main results:
    * `RefPlatform.parseHex_hexStr` — an identifier is read back from its text.
-/
import Mathlib.Tactic.Common
import HNodeMgmt.Platform

namespace HNodeMgmt.RefPlatform

open Lib

/-! ## §1. Node identifiers. -/

/-- A lower case hexadecimal digit. -/
def hexDigit (n : UInt8) : UInt8 := if n < 10 then 48 + n else 87 + n

def hexByte (b : UInt8) : Str := [hexDigit (b >>> 4), hexDigit (b &&& 15)]

def hexVal (c : UInt8) : UInt8 := if c < 58 then c - 48 else c - 87

/-- The bytes in hexadecimal, with colons between them. -/
def hexStr : List UInt8 → Str
  | [] => []
  | [b] => hexByte b
  | b :: bs => hexByte b ++ 58 :: hexStr bs

/-- Read pairs of digits, each followed by a colon or the end. -/
def parseHex : Str → List UInt8
  | hi :: lo :: _ :: rest => (hexVal hi <<< 4 ||| hexVal lo) :: parseHex rest
  | [hi, lo] => [hexVal hi <<< 4 ||| hexVal lo]
  | _ => []

/-- One round of the reflected CRC32. -/
def crcStep (c : UInt32) : UInt32 := if c &&& 1 = 1 then (c >>> 1) ^^^ 0xEDB88320 else c >>> 1

def crcByte (c : UInt32) (b : UInt8) : UInt32 :=
  crcStep (crcStep (crcStep (crcStep (crcStep (crcStep (crcStep (crcStep (c ^^^ b.toUInt32))))))))

def crc32 (bs : List UInt8) : UInt32 := bs.foldl crcByte 0xFFFFFFFF ^^^ 0xFFFFFFFF

/-- Eight hexadecimal digits. -/
def crcHexStr (c : UInt32) : Str :=
  hexByte (c >>> 24).toUInt8 ++ hexByte (c >>> 16).toUInt8 ++ hexByte (c >>> 8).toUInt8 ++
    hexByte c.toUInt8

private theorem hexVal_hexByte (n : Fin 256) :
    (hexVal (hexDigit (UInt8.ofFin n >>> 4)) <<< 4 ||| hexVal (hexDigit (UInt8.ofFin n &&& 15))) =
      UInt8.ofFin n := by
  revert n
  decide +kernel

/-- **An identifier is read back from its text.** -/
theorem parseHex_hexStr : ∀ bs : List UInt8, parseHex (hexStr bs) = bs
  | [] => rfl
  | [b] => by
      show [hexVal (hexDigit (b >>> 4)) <<< 4 ||| hexVal (hexDigit (b &&& 15))] = [b]
      rw [show b = UInt8.ofFin b.toFin from rfl, hexVal_hexByte]
  | b :: b' :: bs => by
      have ih := parseHex_hexStr (b' :: bs)
      show (hexVal (hexDigit (b >>> 4)) <<< 4 ||| hexVal (hexDigit (b &&& 15))) ::
        parseHex (hexStr (b' :: bs)) = b :: b' :: bs
      rw [ih, show b = UInt8.ofFin b.toFin from rfl, hexVal_hexByte]

/-! ## §2. Addresses and URIs. -/

/-- The value of a run of decimal digits; `none` for anything else. -/
def decimal (s : Str) : Option Nat :=
  if s.isEmpty then none
  else s.foldl (fun acc c => acc.bind fun n =>
    if 48 ≤ c && c ≤ 57 then some (10 * n + (c.toNat - 48)) else none) (some 0)

/-- Dotted quads. -/
def parseIP (s : Str) : Option IPAddress :=
  match (s.splitOn 46).map decimal with
  | [some a, some b, some c, some d] =>
    if a < 256 ∧ b < 256 ∧ c < 256 ∧ d < 256 then
      some {
        family := .ipv4
        isLoopback := a = 127
        isMulticast := 224 ≤ a ∧ a < 240
        isBroadcast := a = 255 ∧ b = 255 ∧ c = 255 ∧ d = 255
        isLinkLocal := a = 169 ∧ b = 254
        isSiteLocal := a = 10 ∨ (a = 172 ∧ 16 ≤ b ∧ b < 32) ∨ (a = 192 ∧ b = 168) }
    else none
  | _ => none

structure RefURI where
  host : Str
  port : UInt16
  path : Str
  deriving DecidableEq, Repr

def isHexDigit (c : UInt8) : Bool :=
  48 ≤ c && c ≤ 57 || 65 ≤ c && c ≤ 70 || 97 ≤ c && c ≤ 102

/-- Every percent sign is followed by two hexadecimal digits. -/
def wellEscaped : Str → Bool
  | 37 :: hi :: lo :: rest => isHexDigit hi && isHexDigit lo && wellEscaped rest
  | 37 :: _ => false
  | _ :: rest => wellEscaped rest
  | [] => true

/-- `http://host/path` (default port) or a bare path, with no bad escapes. -/
def parseURI (s : Str) : Option RefURI :=
  if !wellEscaped s then none else
  if (lit "http://").isPrefixOf s then
    let rest := s.drop 7
    some { host := rest.takeWhile (· ≠ 47), port := 80, path := rest.dropWhile (· ≠ 47) }
  else if s.contains 58 then none
  else some { host := [], port := 0, path := s }

def uriToString (u : RefURI) : Str :=
  if u.host.isEmpty then u.path else lit "http://" ++ u.host ++ u.path

scoped instance platform : Platform where
  HNodeID := List UInt8
  newHNodeID := []
  setFromStr _ s := parseHex s
  clear _ := []
  getStr := hexStr
  getCRC32 := crc32
  getCRC32AsHexStr id := crcHexStr (crc32 id)
  parseIP := parseIP
  URI := RefURI
  parseURI := parseURI
  httpURI host port path := { host, port, path }
  uriToString := uriToString
  uriPath u := u.path
  uriSetPath u path := if wellEscaped path then some { u with path } else none
  uriHost u := u.host
  uriPort u := u.port
  uriPathAndQuery u := u.path
  uriPathSegments u := (u.path.splitOn 47).filter fun segment => !segment.isEmpty
  uriRawQuery _ := []
  Caches := Unit
  updateDeviceHealth c _ _ := (c, false)
  getUncachedStrRefList _ _ := some []
  updateStringDefinitions c _ _ := (c, false)

/-- The owner ID and its CRC32 quoted in `updateDeviceOwnerInfo`. -/
example : crcHexStr (crc32 (parseHex (lit "54:cb:b3:de:e4:7f:11:ec:84:ac:d0:50:99:9c:b1:04"))) =
    lit "2c1b21da" := by decide +kernel

end HNodeMgmt.RefPlatform
