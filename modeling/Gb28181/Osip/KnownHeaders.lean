import Gb28181.Lib.HashIndex
import Gb28181.Lib.Text

/-! `osip_parser_cfg.c`: the headers that the parser knows, and how they are looked up. -/

namespace Gb28181.Osip

open Gb28181.Lib

/-- The headers that are read into a field of their own. -/
inductive HeaderKind where
  | accept | acceptEncoding | acceptLanguage | alertInfo | allow | authenticationInfo
  | authorization | contentType | callId | callInfo | contact | contentEncoding | contentLength
  | cseq | errorInfo | fromHeader | mimeVersion | proxyAuthenticate | proxyAuthenticationInfo
  | proxyAuthorization | recordRoute | route | toHeader | via | wwwAuthenticate
  deriving DecidableEq

/-- A row of `pconfig`; `setheader` is the field that is set. -/
structure ParserConfig where
  hname : Text
  setheader : HeaderKind
  ignoredWhenInvalid : Bool
  deriving DecidableEq

def pconfig : List ParserConfig :=
  [⟨"accept".toList, .accept, true⟩,
    ⟨"accept-encoding".toList, .acceptEncoding, true⟩,
    ⟨"accept-language".toList, .acceptLanguage, true⟩,
    ⟨"alert-info".toList, .alertInfo, true⟩,
    ⟨"allow".toList, .allow, true⟩,
    ⟨"authentication-info".toList, .authenticationInfo, true⟩,
    ⟨"authorization".toList, .authorization, true⟩,
    ⟨"c".toList, .contentType, false⟩,
    ⟨"call-id".toList, .callId, false⟩,
    ⟨"call-info".toList, .callInfo, true⟩,
    ⟨"contact".toList, .contact, false⟩,
    ⟨"content-encoding".toList, .contentEncoding, true⟩,
    ⟨"content-length".toList, .contentLength, false⟩,
    ⟨"content-type".toList, .contentType, false⟩,
    ⟨"cseq".toList, .cseq, false⟩,
    ⟨"e".toList, .contentEncoding, true⟩,
    ⟨"error-info".toList, .errorInfo, true⟩,
    ⟨"f".toList, .fromHeader, false⟩,
    ⟨"from".toList, .fromHeader, false⟩,
    ⟨"i".toList, .callId, false⟩,
    ⟨"l".toList, .contentLength, false⟩,
    ⟨"m".toList, .contact, false⟩,
    ⟨"mime-version".toList, .mimeVersion, true⟩,
    ⟨"proxy-authenticate".toList, .proxyAuthenticate, true⟩,
    ⟨"proxy-authentication-info".toList, .proxyAuthenticationInfo, true⟩,
    ⟨"proxy-authorization".toList, .proxyAuthorization, true⟩,
    ⟨"record-route".toList, .recordRoute, false⟩,
    ⟨"route".toList, .route, false⟩,
    ⟨"t".toList, .toHeader, false⟩,
    ⟨"to".toList, .toHeader, false⟩,
    ⟨"v".toList, .via, false⟩,
    ⟨"via".toList, .via, false⟩,
    ⟨"www-authenticate".toList, .wwwAuthenticate, true⟩]

/-- A `char` as it is added to an `int`. -/
def charInt (char : Char) : Int := (char.toNat : Int).bmod 256

/-- `osip_hash`, in an `unsigned int`. -/
def osipHash (str : Text) : Nat :=
  str.foldl (fun hash char => (((hash <<< 5 + hash : Nat) + charInt char) % 2 ^ 32).toNat) 5381

def hashTableSize : Nat := 150

def hashSlot (hname : Text) : Nat := osipHash hname % hashTableSize

def headerNames : List Text := pconfig.map ParserConfig.hname

/-- `parser_init`: the table of references, or nothing where two names have one slot. -/
def parserInit : Option (List (Option Nat)) :=
  fillSlots hashSlot headerNames 0 (List.replicate hashTableSize none)

/-- `__osip_message_is_known_header`. -/
def isKnownHeader (hdrRefTable : List (Option Nat)) (hname : Text) : Option Nat :=
  searchSlot hashSlot headerNames hdrRefTable hname

theorem parserInit_isSome : parserInit.isSome := by decide +kernel

/-- The table that the parser works with. -/
def hdrRefTable : List (Option Nat) := parserInit.getD []

theorem parserInit_eq : parserInit = some hdrRefTable := by
  obtain ⟨table, built⟩ := Option.isSome_iff_exists.mp parserInit_isSome
  rw [hdrRefTable, built]
  rfl

theorem isKnownHeader_eq (hname : Text) : isKnownHeader hdrRefTable hname =
    pconfig.findIdx? (fun config => config.hname = hname) := by
  rw [isKnownHeader, searchSlot_eq_findIdx? parserInit_eq, headerNames, List.findIdx?_map]
  rfl

/-- The table is built without a conflict, and what is found in it under any name is what a
search through all the names finds. -/
theorem known_header_search : ∃ table, parserInit = some table ∧
    ∀ hname, isKnownHeader table hname =
      pconfig.findIdx? (fun config => config.hname = hname) :=
  ⟨hdrRefTable, parserInit_eq, isKnownHeader_eq⟩

/-- The row of `pconfig` for a name. -/
def headerConfig (hname : Text) : Option ParserConfig :=
  pconfig.find? (fun config => config.hname = hname)

theorem headerConfig_eq (hname : Text) :
    (isKnownHeader hdrRefTable hname).bind (pconfig[·]?) = headerConfig hname := by
  rw [isKnownHeader_eq]
  exact List.find?_eq_bind_findIdx?_getElem?.symm

end Gb28181.Osip
