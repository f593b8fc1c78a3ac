/-
  What a gateway publishes (`SendUplinkFrame` and `sendDownlinkTxAck` in `simulator/gateway.go`).

  Both marshal a message and publish it, and both return `errors.Wrap(err, ..)` when the publish
  token has an error.  That `err` is the one of `proto.Marshal`, which is nil by then, and to wrap
  nil is nil: the caller hears of no error.

  1. **Messages** - an uplink frame and an acknowledgement, each with what `proto.Marshal` and the
     token make of it (`Send`).
  2. **The two functions**, and a run of `SendUplinkFrame`.  What they share after marshalling is
     `publishError`.
  3. **What is returned** (`publish_errors_reported_iff`) - every failure is returned exactly if
     nothing that was marshalled failed to be published; the counter is right in any case
     (`sendUplinkFrames_count`).
-/
import ChirpStackSimulator.Gateway

namespace ChirpStackSimulator.GatewayPublish

open Downstream LoRaWAN

/-! ## Messages -/

/-- `gw.UplinkTxInfo` with LoRa modulation. -/
structure UplinkTxInfo where
  frequency : UInt32
  bandwidth : UInt32
  spreadingFactor : UInt32
  deriving DecidableEq

structure UplinkRxInfo where
  gatewayID : String
  rssi : Int
  snr : Rat
  context : List UInt8
  uplinkID : UInt32
  deriving DecidableEq

structure UplinkFrame where
  phyPayload : List UInt8
  txInfo : UplinkTxInfo
  rxInfo : Option UplinkRxInfo
  deriving DecidableEq

/-- A message, and what `proto.Marshal` and the publish token make of it. -/
structure Send (μ : Type) where
  message : μ
  marshal : μ → Except String (List UInt8)
  /-- `token.Error()`. -/
  tokenError : Option String

/-- A call of `SendUplinkFrame`, with the random number that it draws. -/
structure Uplink extends Send UplinkFrame where
  uplinkID : UInt32

structure Publisher where
  gatewayID : EUI64
  tenantID : String
  uplinkCount : UInt32
  /-- `gateway_uplink_count`, by tenant. -/
  gatewayUplinkCount : String → Nat
  /-- What the MQTT client was given, with the topics. -/
  handed : List (String × List UInt8)

/-! ## The two functions -/

/-- `errors.Wrap`. -/
def wrap (err : Option String) (message : String) : Option String :=
  err.map fun e => message ++ ": " ++ e

/-- What comes after `proto.Marshal`: the error that is returned. -/
def publishError (marshalled : Except String (List UInt8)) (tokenError : Option String)
    (marshalText publishText : String) : Option String :=
  match marshalled with
  | .error e => wrap (some e) marshalText
  | .ok _ =>
    let err : Option String := none
    -- not `token.Error()`
    if tokenError.isSome then wrap err publishText else none

/-- The message is given to the MQTT client, if it was marshalled. -/
def Publisher.hand (g : Publisher) (event : String) : Except String (List UInt8) → Publisher
  | .error _ => g
  | .ok b => { g with handed := g.handed ++ [(topic g.gatewayID "event" event, b)] }

/-- The frame with the reception that every gateway reports. -/
def withRxInfo (gatewayID : EUI64) (u : Uplink) : UplinkFrame :=
  { u.message with
    rxInfo := some
      ⟨Hex.encode gatewayID.toList, 50, 11 / 2, [0x01, 0x02, 0x03, 0x04], u.uplinkID⟩ }

/-- The marshalled message is published. -/
def published (marshalled : Except String (List UInt8)) (tokenError : Option String) : Bool :=
  match marshalled with
  | .error _ => false
  | .ok _ => tokenError.isNone

def Publisher.sendUplinkFrame (g : Publisher) (u : Uplink) : Option String × Publisher :=
  let marshalled := u.marshal (withRxInfo g.gatewayID u)
  let g := { g with uplinkCount := g.uplinkCount + 1 }.hand "up" marshalled
  (publishError marshalled u.tokenError "send uplink frame error"
      "simulator: publish uplink frame error",
    if published marshalled u.tokenError then
      { g with gatewayUplinkCount :=
          Function.update g.gatewayUplinkCount g.tenantID (g.gatewayUplinkCount g.tenantID + 1) }
    else g)

def Publisher.sendDownlinkTxAck (g : Publisher) (a : Send DownlinkTxAck) : Option String × Publisher :=
  let marshalled := a.marshal a.message
  (publishError marshalled a.tokenError "send tx ack error"
    "simulator: publish downlink tx ack error", g.hand "ack" marshalled)

/-- A run of `SendUplinkFrame`: the errors, and the gateway after it. -/
def Publisher.sendUplinkFrames (g : Publisher) : List Uplink → List (Option String) × Publisher
  | [] => ([], g)
  | u :: us =>
    let (err, g) := g.sendUplinkFrame u
    let (errs, g) := g.sendUplinkFrames us
    (err :: errs, g)

/-! ## What is returned -/

/-- Marshalling or publishing fails. -/
def Failed (marshalled : Except String (List UInt8)) (tokenError : Option String) : Prop :=
  published marshalled tokenError = false

/-- It was marshalled and could not be published. -/
def Lost (marshalled : Except String (List UInt8)) (tokenError : Option String) : Prop :=
  (∃ b, marshalled = .ok b) ∧ tokenError.isSome

/-- An error is returned for every failure but one: the publish that fails. -/
theorem reported_iff {marshalled : Except String (List UInt8)} {tokenError : Option String}
    {marshalText publishText : String} :
    (publishError marshalled tokenError marshalText publishText ≠ none ↔ Failed marshalled tokenError)
      ↔ ¬ Lost marshalled tokenError := by
  cases marshalled with
  | error e =>
    refine iff_of_true ⟨fun _ => rfl, fun _ => Option.some_ne_none _⟩ ?_
    rintro ⟨⟨b, hb⟩, -⟩
    cases hb
  | ok b =>
    cases tokenError with
    | none =>
      refine iff_of_true ⟨fun h => absurd rfl h, fun h => Bool.noConfusion h⟩ ?_
      rintro ⟨-, h⟩
      cases h
    | some e =>
      refine iff_of_false (fun h => ?_) fun h => h ⟨⟨b, rfl⟩, rfl⟩
      exact h.mpr rfl rfl

/-- Each of the calls of the run returned an error exactly if it failed, and the counter counts those
    that did not. -/
structure UplinksReported (g : Publisher) (us : List Uplink) : Prop where
  errors : List.Forall₂ (fun u err =>
    err ≠ none ↔ Failed (u.marshal (withRxInfo g.gatewayID u)) u.tokenError) us
      (g.sendUplinkFrames us).1
  count : (g.sendUplinkFrames us).2.gatewayUplinkCount g.tenantID =
    g.gatewayUplinkCount g.tenantID +
      us.countP fun u => published (u.marshal (withRxInfo g.gatewayID u)) u.tokenError

def AckReported (g : Publisher) (a : Send DownlinkTxAck) : Prop :=
  (g.sendDownlinkTxAck a).1 ≠ none ↔ Failed (a.marshal a.message) a.tokenError

section
variable {g : Publisher} {u : Uplink} {us : List Uplink}

@[simp] theorem hand_gatewayID (event : String) (b : Except String (List UInt8)) :
    (g.hand event b).gatewayID = g.gatewayID := by
  cases b <;> rfl

@[simp] theorem hand_tenantID (event : String) (b : Except String (List UInt8)) :
    (g.hand event b).tenantID = g.tenantID := by
  cases b <;> rfl

@[simp] theorem hand_count (event : String) (b : Except String (List UInt8)) :
    (g.hand event b).gatewayUplinkCount = g.gatewayUplinkCount := by
  cases b <;> rfl

theorem sendUplinkFrame_ids : (g.sendUplinkFrame u).2.gatewayID = g.gatewayID ∧
    (g.sendUplinkFrame u).2.tenantID = g.tenantID := by
  unfold Publisher.sendUplinkFrame
  dsimp only
  split
  · exact ⟨hand_gatewayID .., hand_tenantID ..⟩
  · exact ⟨hand_gatewayID .., hand_tenantID ..⟩

/-- One call counts a frame that is published. -/
theorem sendUplinkFrame_count : (g.sendUplinkFrame u).2.gatewayUplinkCount g.tenantID =
    g.gatewayUplinkCount g.tenantID +
      if published (u.marshal (withRxInfo g.gatewayID u)) u.tokenError then 1 else 0 := by
  unfold Publisher.sendUplinkFrame
  dsimp only
  split
  · rw [hand_tenantID, hand_count]
    exact Function.update_self _ _ _
  · rw [hand_count]
    rfl

/-- **A run** counts the frames that are published. -/
theorem sendUplinkFrames_count : (g.sendUplinkFrames us).2.gatewayUplinkCount g.tenantID =
    g.gatewayUplinkCount g.tenantID +
      us.countP fun u => published (u.marshal (withRxInfo g.gatewayID u)) u.tokenError := by
  induction us generalizing g with
  | nil => rfl
  | cons u us ih =>
    obtain ⟨hid, htenant⟩ := sendUplinkFrame_ids (g := g) (u := u)
    have hrest := ih (g := (g.sendUplinkFrame u).2)
    rw [hid, htenant, sendUplinkFrame_count] at hrest
    rw [List.countP_cons]
    show ((g.sendUplinkFrame u).2.sendUplinkFrames us).2.gatewayUplinkCount g.tenantID = _
    omega

/-- The errors of a run. -/
theorem forall₂_errors_iff {P : Uplink → Option String → Prop} :
    List.Forall₂ P us (g.sendUplinkFrames us).1 ↔ ∀ u ∈ us, P u (publishError
      (u.marshal (withRxInfo g.gatewayID u)) u.tokenError "send uplink frame error"
      "simulator: publish uplink frame error") := by
  induction us generalizing g with
  | nil =>
    exact iff_of_true .nil fun u hu => absurd hu List.not_mem_nil
  | cons u us ih =>
    have hid := (sendUplinkFrame_ids (g := g) (u := u)).1
    have hrest := ih (g := (g.sendUplinkFrame u).2)
    rw [hid] at hrest
    show List.Forall₂ P (u :: us) ((g.sendUplinkFrame u).1 ::
      ((g.sendUplinkFrame u).2.sendUplinkFrames us).1) ↔ _
    rw [List.forall₂_cons, hrest, List.forall_mem_cons]
    rfl

/-- **Publish errors are reported** exactly where nothing that was marshalled failed to be published. -/
theorem publish_errors_reported_iff (g : Publisher) (us : List Uplink)
    (acks : List (Send DownlinkTxAck)) :
    (UplinksReported g us ∧ ∀ a ∈ acks, AckReported g a) ↔
      (∀ u ∈ us, ¬ Lost (u.marshal (withRxInfo g.gatewayID u)) u.tokenError) ∧
        ∀ a ∈ acks, ¬ Lost (a.marshal a.message) a.tokenError := by
  refine and_congr ⟨fun h => ?_, fun h => ?_⟩ (forall₂_congr fun a _ => reported_iff)
  · intro u hu
    exact reported_iff.mp (forall₂_errors_iff.mp h.errors u hu)
  · exact ⟨forall₂_errors_iff.mpr fun u hu => reported_iff.mpr (h u hu), sendUplinkFrames_count⟩

end

/-- The broker is gone. -/
def unpublished : Uplink where
  message := ⟨[0x40], ⟨868100000, 125000, 7⟩, none⟩
  marshal _ := .ok [0x0a]
  tokenError := some "not Connected"
  uplinkID := 0

def publisher : Publisher := ⟨Vector.replicate 8 0, "t", 0, fun _ => 0, []⟩

/-- A frame that was marshalled and not published is sent without an error. -/
theorem unpublished_not_reported : (publisher.sendUplinkFrame unpublished).1 = none ∧
    ¬ (UplinksReported publisher [unpublished] ∧ ∀ a ∈ [], AckReported publisher a) := by
  refine ⟨rfl, fun h => ?_⟩
  have herr := List.forall₂_cons.mp h.1.errors
  exact herr.1.mpr rfl rfl

end ChirpStackSimulator.GatewayPublish
