/-
  LoRaWAN frames, as the devices see them.

  The frame types and the cryptography belong to `github.com/brocaar/lorawan`, which is not part of
  the repository.  The types are written out as far as the devices read them; the functions the
  devices call are the fields of a parameter `lib : Library`.  What a result assumes of them is a
  `Prop` about `lib`, stated where it is used.

  1. **Identifiers, keys, nonces** — byte vectors and fixed-width numbers.
  2. **Frames** — `PHYPayload` around a join-request, a join-accept or a `MACPayload`; the body is
     an interface in Go, and a sum of the types it is found to hold here.
  3. **Library** — the calls, each with the error Go returns.  `Library.plain` is one to run the
     model with: nothing is encrypted, and every MIC is void and valid.
-/
import Mathlib.Algebra.Group.Nat.Defs
import Mathlib.Tactic.Common

namespace ChirpStackSimulator.LoRaWAN

/-! ## Identifiers, keys, nonces -/

/-- Of a device, a gateway or a join server. -/
abbrev EUI64 := Vector UInt8 8
abbrev NetID := Vector UInt8 3
abbrev DevAddr := Vector UInt8 4
/-- `AppKey`, `NwkKey` and the session keys. -/
abbrev AES128Key := Vector UInt8 16
abbrev MIC := Vector UInt8 4
abbrev DevNonce := UInt16
/-- 24 bits on the wire. -/
abbrev JoinNonce := UInt32

/-! ## Frames -/

/-- The message types, in the order of their codes. -/
inductive MType where
  | joinRequest
  | joinAccept
  | unconfirmedDataUp
  | unconfirmedDataDown
  | confirmedDataUp
  | confirmedDataDown
  | rejoinRequest
  | proprietary
  deriving DecidableEq

/-- The bits of the frame control byte, without the length of `fOpts`. -/
structure FCtrl where
  adr : Bool
  adrACKReq : Bool
  ack : Bool
  fPending : Bool
  deriving DecidableEq

/-- The frame header. -/
structure FHDR where
  devAddr : DevAddr
  fCtrl : FCtrl
  /-- 32 bits, of which only the lower 16 are transmitted. -/
  fCnt : UInt32
  fOpts : List UInt8
  deriving DecidableEq

/-- An element of an `FRMPayload`. -/
inductive FRMItem where
  | dataPayload (bytes : List UInt8)
  | macCommand (bytes : List UInt8)
  deriving DecidableEq

/-- The body of a data frame. -/
structure MACPayload where
  fhdr : FHDR
  fPort : Option UInt8
  frmPayload : List FRMItem
  deriving DecidableEq

/-- The body of a join-request. -/
structure JoinRequestPayload where
  joinEUI : EUI64
  devEUI : EUI64
  devNonce : DevNonce
  deriving DecidableEq

/-- `optNeg` is the only one of the `DLSettings` a device looks at. -/
structure JoinAcceptPayload where
  joinNonce : JoinNonce
  homeNetID : NetID
  devAddr : DevAddr
  optNeg : Bool
  deriving DecidableEq

/-- What the `MACPayload` interface of a `PHYPayload` can hold. -/
inductive Body where
  | joinRequest (pl : JoinRequestPayload)
  | joinAccept (pl : JoinAcceptPayload)
  | mac (pl : MACPayload)
  /-- Bytes not (or not yet) decoded, such as an encrypted join-accept. -/
  | raw (bytes : List UInt8)
  deriving DecidableEq

/-- The body's Go type, as `%T` prints it. -/
def Body.typeName : Body → String
  | .joinRequest _ => "*lorawan.JoinRequestPayload"
  | .joinAccept _ => "*lorawan.JoinAcceptPayload"
  | .mac _ => "*lorawan.MACPayload"
  | .raw _ => "*lorawan.DataPayload"

/-- A frame: its type, its body and its message integrity code. -/
structure PHYPayload where
  mType : MType
  body : Body
  mic : MIC
  deriving DecidableEq

/-! ## The library -/

/-- The calls into `brocaar/lorawan`. -/
structure Library where
  unmarshalBinary : List UInt8 → Except String PHYPayload
  setUplinkJoinMIC : AES128Key → PHYPayload → Except String PHYPayload
  decryptJoinAcceptPayload : AES128Key → PHYPayload → Except String PHYPayload
  validateDownlinkJoinMIC : EUI64 → DevNonce → AES128Key → PHYPayload → Except String Bool
  validateDownlinkDataMIC : AES128Key → PHYPayload → Except String Bool
  encryptFRMPayload : AES128Key → PHYPayload → Except String PHYPayload
  /-- The `FRMPayload` it leaves in the frame. -/
  decryptFRMPayload : AES128Key → PHYPayload → Except String (List FRMItem)
  setUplinkDataMIC : AES128Key → PHYPayload → Except String PHYPayload
  marshalNetID : NetID → Except String (List UInt8)
  marshalEUI64 : EUI64 → Except String (List UInt8)
  marshalJoinNonce : JoinNonce → Except String (List UInt8)
  marshalDevNonce : DevNonce → Except String (List UInt8)

/-- A library to run the model with: identifiers and nonces are little-endian, nothing is encrypted
    and every MIC is void and valid. -/
def Library.plain : Library where
  unmarshalBinary _ := .error "not modelled"
  setUplinkJoinMIC _ phy := .ok phy
  decryptJoinAcceptPayload _ phy := .ok phy
  validateDownlinkJoinMIC _ _ _ _ := .ok true
  validateDownlinkDataMIC _ _ := .ok true
  encryptFRMPayload _ phy := .ok phy
  decryptFRMPayload _ phy :=
    match phy.body with
    | .mac pl => .ok pl.frmPayload
    | _ => .error "lorawan: MACPayload must be of type *MACPayload"
  setUplinkDataMIC _ phy := .ok phy
  marshalNetID id := .ok id.toList.reverse
  marshalEUI64 eui := .ok eui.toList.reverse
  marshalJoinNonce n :=
    if n.toNat < 2 ^ 24 then .ok [n.toUInt8, (n >>> 8).toUInt8, (n >>> 16).toUInt8]
    else .error "lorawan: max value of JoinNonce is 2^24 - 1"
  marshalDevNonce n := .ok [n.toUInt8, (n >>> 8).toUInt8]

end ChirpStackSimulator.LoRaWAN
