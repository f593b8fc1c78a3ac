/-
  Session keys (`simulator/session_keys.go`).

  Both keys are one AES block: a type byte, the nonces and, by `OptNeg`, the network or the join
  EUI.  AES is the parameter `newCipher`; the wire form of the identifiers comes from the library.

  1. **The block** (`sKeyBlock`) - sixteen zero bytes with a type byte in front, over which Go
     copies one identifier after another.  `copySlice` is Go's `copy` into a slice, which stops
     where the shorter of the two ends; no copy changes the length of the block
     (`length_sKeyBlock`).
  2. **`getSKey`** - marshals all four identifiers, whether the block has a place for them or not,
     asks for a cipher and encrypts the block.  Every step can fail, and the first that does
     decides.
  3. **The two keys** - `getAppSKey` has the type byte 2, `getFNwkSIntKey` the type byte 1.

  `getSKey_eq` is what the join-accept handler needs of it: with a cipher of sixteen-byte blocks
  there is a key.  That different inputs give different blocks is in `KeySeparation.lean`.
-/
import ChirpStackSimulator.LoRaWAN

namespace ChirpStackSimulator

open LoRaWAN

/-- `cipher.Block`: its block size and `Encrypt` into a key. -/
structure CipherBlock where
  blockSize : Nat
  encrypt : List UInt8 → AES128Key

/-- `copy(b[lo:hi], src)`. -/
def copySlice (b : List UInt8) (lo hi : Nat) (src : List UInt8) : List UInt8 :=
  b.take lo ++ src.take (hi - lo) ++ b.drop (lo + min src.length (hi - lo))

/-- `copy` overwrites bytes, it neither adds nor removes any. -/
theorem length_copySlice {b : List UInt8} {n : Nat} (hb : b.length = n) (src : List UInt8)
    {lo hi : Nat} (hlo : lo ≤ hi) (hhi : hi ≤ n) : (copySlice b lo hi src).length = n := by
  simp only [copySlice, List.length_append, List.length_take, List.length_drop]
  omega

section
variable (lib : Library) (newCipher : AES128Key → Except String CipherBlock)

/-- `errors.Wrap(err, "marshal binary error")`. -/
def marshalled (bytes : Except String (List UInt8)) : Except String (List UInt8) :=
  bytes.mapError ("marshal binary error: " ++ ·)

/-- The block `getSKey` encrypts. -/
def sKeyBlock (optNeg : Bool) (typ : UInt8) (netIDB joinEUIB joinNonceB devNonceB : List UInt8) :
    List UInt8 :=
  let b := (List.replicate 16 0).set 0 typ
  if optNeg then
    copySlice (copySlice (copySlice b 1 4 joinNonceB) 4 12 joinEUIB) 12 14 devNonceB
  else
    copySlice (copySlice (copySlice b 1 4 joinNonceB) 4 7 netIDB) 7 9 devNonceB

theorem length_sKeyBlock (optNeg : Bool) (typ : UInt8)
    (netIDB joinEUIB joinNonceB devNonceB : List UInt8) :
    (sKeyBlock optNeg typ netIDB joinEUIB joinNonceB devNonceB).length = 16 := by
  have h₀ : ((List.replicate 16 (0 : UInt8)).set 0 typ).length = 16 := by simp
  have h₁ := length_copySlice h₀ joinNonceB (show 1 ≤ 4 by decide) (by decide)
  cases optNeg with
  | true =>
    have h₂ := length_copySlice h₁ joinEUIB (show 4 ≤ 12 by decide) (by decide)
    exact length_copySlice h₂ devNonceB (by decide) (by decide)
  | false =>
    have h₂ := length_copySlice h₁ netIDB (show 4 ≤ 7 by decide) (by decide)
    exact length_copySlice h₂ devNonceB (by decide) (by decide)

/-- `getSKey`; where Go returns an error it returns the zero key with it. -/
def getSKey (optNeg : Bool) (typ : UInt8) (nwkKey : AES128Key) (netID : NetID) (joinEUI : EUI64)
    (joinNonce : JoinNonce) (devNonce : DevNonce) : Except String AES128Key := do
  let netIDB ← marshalled (lib.marshalNetID netID)
  let joinEUIB ← marshalled (lib.marshalEUI64 joinEUI)
  let joinNonceB ← marshalled (lib.marshalJoinNonce joinNonce)
  let devNonceB ← marshalled (lib.marshalDevNonce devNonce)
  let b := sKeyBlock optNeg typ netIDB joinEUIB joinNonceB devNonceB
  let block ← newCipher nwkKey
  if block.blockSize ≠ b.length then
    throw ("block-size of " ++ toString b.length ++ " bytes is expected")
  return block.encrypt b

/-- **With AES every session key exists**: the block has the size the cipher wants. -/
theorem getSKey_eq (optNeg : Bool) (typ : UInt8) {nwkKey : AES128Key} {netID : NetID}
    {joinEUI : EUI64} {joinNonce : JoinNonce} {devNonce : DevNonce} {block : CipherBlock}
    {netIDB joinEUIB joinNonceB devNonceB : List UInt8} (hnet : lib.marshalNetID netID = .ok netIDB)
    (heui : lib.marshalEUI64 joinEUI = .ok joinEUIB)
    (hjoin : lib.marshalJoinNonce joinNonce = .ok joinNonceB)
    (hdev : lib.marshalDevNonce devNonce = .ok devNonceB)
    (hcipher : newCipher nwkKey = .ok block) (hsize : block.blockSize = 16) :
    getSKey lib newCipher optNeg typ nwkKey netID joinEUI joinNonce devNonce =
      .ok (block.encrypt (sKeyBlock optNeg typ netIDB joinEUIB joinNonceB devNonceB)) := by
  have hlen := length_sKeyBlock optNeg typ netIDB joinEUIB joinNonceB devNonceB
  have hfits : block.blockSize
      = (sKeyBlock optNeg typ netIDB joinEUIB joinNonceB devNonceB).length := by
    rw [hsize, hlen]
  simp [getSKey, marshalled, Except.mapError, bind, Except.bind, pure, Except.pure, hnet, heui,
    hjoin, hdev, hcipher, hfits]

/-- `getAppSKey`. -/
def getAppSKey (optNeg : Bool) (nwkKey : AES128Key) (netID : NetID) (joinEUI : EUI64)
    (joinNonce : JoinNonce) (devNonce : DevNonce) : Except String AES128Key :=
  getSKey lib newCipher optNeg 0x02 nwkKey netID joinEUI joinNonce devNonce

/-- `getFNwkSIntKey`; in LoRaWAN 1.0 it is the NwkSKey. -/
def getFNwkSIntKey (optNeg : Bool) (nwkKey : AES128Key) (netID : NetID) (joinEUI : EUI64)
    (joinNonce : JoinNonce) (devNonce : DevNonce) : Except String AES128Key :=
  getSKey lib newCipher optNeg 0x01 nwkKey netID joinEUI joinNonce devNonce

end

end ChirpStackSimulator
