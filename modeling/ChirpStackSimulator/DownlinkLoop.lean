/-
  The downlink loop of a device (`Device.downlinkLoop`).

  The gateways put `DownlinkFrame`s into the queue; the loop takes them out one by one, decodes the
  first item of each and hands it to `joinAccept` or `downlinkData`, by its type.  Errors are logged
  and nothing else, and the items after the first are never read.

  1. **`joinAccept` in one piece**, when no join-request falls into it.
  2. **Frame rule** — a frame touches no more of a device than the session (`handleFrame_session`):
     keys, address, state and downlink counter.  `withSession` is the device with another session,
     and the rule says that there is one; so the uplink side is the uplink loop's alone.
  3. **Service** — a genuine downlink reaches `downlinkData` (`handleFrame_genuine`), with the bytes
     the gateway was given.

  Whole queues are treated in `DownlinkDelivery.lean`.
-/
import ChirpStackSimulator.Downlink
import ChirpStackSimulator.Gateway
import ChirpStackSimulator.Join

namespace ChirpStackSimulator.DownlinkLoop

open LoRaWAN Join Downlink
open Downstream (DownlinkFrame)

/-! ## `joinAccept` in one piece -/

section
variable (lib : Library) (newCipher : AES128Key → Except String CipherBlock)

/-- The device and the error `joinAccept` returns. -/
def joinAccept (d : Device) (phy : PHYPayload) : Device × Option String :=
  match lib.decryptJoinAcceptPayload d.appKey phy with
  | .error e => (d, some ("decrypt join-accept payload error: " ++ e))
  | .ok phy =>
    match lib.validateDownlinkJoinMIC d.joinEUI d.devNonce d.appKey phy with
    | .error _ => (d, none)
    | .ok false => (d, none)
    | .ok true =>
      match phy.body with
      | .joinAccept ja =>
        match getAppSKey lib newCipher ja.optNeg d.appKey ja.homeNetID d.joinEUI ja.joinNonce
            d.devNonce with
        | .error e =>
          ({ d with appSKey := Vector.replicate 16 0 }, some ("get AppSKey error: " ++ e))
        | .ok appSKey =>
          match getFNwkSIntKey lib newCipher ja.optNeg d.appKey ja.homeNetID d.joinEUI ja.joinNonce
              d.devNonce with
          | .error e =>
            ({ d with appSKey, nwkSKey := Vector.replicate 16 0 },
              some ("get NwkSKey error: " ++ e))
          | .ok nwkSKey =>
            ({ d with appSKey, nwkSKey, devAddr := ja.devAddr, state := .activated }, none)
      | _ => (d, some "expected *lorawan.JoinAcceptPayload")

/-! ## The loop -/

/-- The function the loop calls on an item: decode it and go by its type. -/
def handleItem (d : Device) (phyPayload : List UInt8) : Outcome :=
  match lib.unmarshalBinary phyPayload with
  | .error e => ⟨d, none, some ("unmarshal phypayload error: " ++ e)⟩
  | .ok phy =>
    match phy.mType with
    | .joinAccept =>
      let (d, err) := joinAccept lib newCipher d phy
      ⟨d, none, err⟩
    | .unconfirmedDataDown => downlinkData lib d phy
    | .confirmedDataDown => downlinkData lib d phy
    -- anything else is ignored without an error
    | _ => ⟨d, none, none⟩

/-- The body of the loop: the `break` leaves the items after the first one unread. -/
def handleFrame (d : Device) (pl : DownlinkFrame) : Outcome :=
  match pl.items with
  | [] => ⟨d, none, none⟩
  | item :: _ => handleItem lib newCipher d item

/-- The device and the handler calls after a queue of frames; an error is only logged. -/
def downlinkLoop : Device → List DownlinkFrame → Device × List HandlerCall
  | d, [] => (d, [])
  | d, pl :: pls =>
    let o := handleFrame lib newCipher d pl
    let (d', calls) := downlinkLoop o.device pls
    (d', o.handled.toList ++ calls)

end

/-! ## What a downlink can change -/

/-- The session of a device: its keys, address, state and downlink counter. -/
structure SessionFields where
  devAddr : DevAddr
  appSKey : AES128Key
  nwkSKey : AES128Key
  state : DeviceState
  fCntDown : UInt32

def withSession (d : Device) (f : SessionFields) : Device :=
  { d with
    devAddr := f.devAddr
    appSKey := f.appSKey
    nwkSKey := f.nwkSKey
    state := f.state
    fCntDown := f.fCntDown }

@[simp] theorem withSession_withSession (d : Device) (f f' : SessionFields) :
    withSession (withSession d f) f' = withSession d f' := rfl

section
variable (lib : Library) (newCipher : AES128Key → Except String CipherBlock)

theorem withSession_self (d : Device) : ∃ f, d = withSession d f :=
  ⟨⟨d.devAddr, d.appSKey, d.nwkSKey, d.state, d.fCntDown⟩, rfl⟩

theorem joinAccept_session (d : Device) (phy : PHYPayload) :
    ∃ f, (joinAccept lib newCipher d phy).1 = withSession d f := by
  unfold joinAccept
  split
  · exact withSession_self d
  · split
    · exact withSession_self d
    · exact withSession_self d
    · split
      · split
        · exact ⟨⟨d.devAddr, Vector.replicate 16 0, d.nwkSKey, d.state, d.fCntDown⟩, rfl⟩
        · rename_i appSKey _
          split
          · exact ⟨⟨d.devAddr, appSKey, Vector.replicate 16 0, d.state, d.fCntDown⟩, rfl⟩
          · rename_i ja _ _ _ nwkSKey _
            exact ⟨⟨_, appSKey, nwkSKey, .activated, d.fCntDown⟩, rfl⟩
      · exact withSession_self d

theorem handleItem_session (d : Device) (phyPayload : List UInt8) :
    ∃ f, (handleItem lib newCipher d phyPayload).device = withSession d f := by
  have hdata : ∀ phy, ∃ f, (downlinkData lib d phy).device = withSession d f := by
    intro phy
    obtain ⟨n, hn⟩ := downlinkData_device lib d phy
    exact ⟨⟨d.devAddr, d.appSKey, d.nwkSKey, d.state, n⟩, hn⟩
  unfold handleItem
  split
  · exact withSession_self d
  · rename_i phy _
    split
    · exact joinAccept_session lib newCipher d phy
    · exact hdata phy
    · exact hdata phy
    · exact withSession_self d

/-- One frame: no more than the session changes. -/
theorem handleFrame_session (d : Device) (pl : DownlinkFrame) :
    ∃ f, (handleFrame lib newCipher d pl).device = withSession d f := by
  unfold handleFrame
  split
  · exact withSession_self d
  · exact handleItem_session lib newCipher d _

end

/-! ## Genuine downlinks -/

section
variable {lib : Library} {c : Crypto} {newCipher : AES128Key → Except String CipherBlock}

/-- A call of the handler with what the server sent. -/
def callOf (g : ShortDownlink) : HandlerCall :=
  ⟨g.1.confirmed, g.1.fCtrl.ack, g.1.n, g.1.fPort.getD 0, g.1.payload⟩

theorem handleFrame_genuine {d : Device} {pl : DownlinkFrame} {g : ShortDownlink}
    {item : List UInt8} {rest : List (List UInt8)} (hitems : pl.items = item :: rest)
    (hdec : lib.unmarshalBinary item = .ok (g.1.receivedBy c d)) :
    handleFrame lib newCipher d pl = downlinkData lib d (g.1.receivedBy c d) := by
  have htype : (g.1.receivedBy c d).mType = g.1.mType := rfl
  simp only [handleFrame, hitems, handleItem, hdec, htype, ServerDownlink.mType]
  cases g.1.confirmed <;> rfl

end

end ChirpStackSimulator.DownlinkLoop
