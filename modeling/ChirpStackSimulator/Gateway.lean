/-
  Simulated gateways on one MQTT client (`simulator/gateway.go`).

  All gateways of a run share the client `ns.Client()`.  `NewGateway` subscribes the gateway's
  command topic on it, with the gateway's own handler as the callback; the client keeps one callback
  for a topic, the last one.  `addDevice` puts a device's queue under its EUI into the gateway, and
  the handler offers every command to every queue in there.

  1. **Gateways** — their devices, and the topics of their commands, from which the id can be read
     off (`topic_injective`).
  2. **The network** — the objects, the client, the registry and the queues.  A `Gateway` is named
     by the simulation that built it and its position there, a device's queue by the simulation and
     the device's position.
  3. **Forwarding** — a queue has 100 places, and a frame that finds it full is lost.

  Metrics, the uplink direction and the delay before the acknowledgement are left out.
-/
import ChirpStackSimulator.Lib.Hex
import ChirpStackSimulator.LoRaWAN
import Mathlib.Logic.Function.Basic

namespace ChirpStackSimulator.Downstream

open LoRaWAN

/-! ## Gateways -/

/-- `gw.DownlinkFrame`: its items are PHY payloads. -/
structure DownlinkFrame where
  downlinkID : UInt32
  items : List (List UInt8)
  deriving DecidableEq

inductive TxAckStatus where
  | ok
  | collisionPacket
  deriving DecidableEq

/-- `gw.DownlinkTxAck`. -/
structure DownlinkTxAck where
  gatewayID : String
  downlinkID : UInt32
  items : List TxAckStatus
  deriving DecidableEq

/-- A gateway object, or a device's queue: the simulation and the position in it. -/
abbrev Ref := Nat × Nat

structure Gateway where
  gatewayID : EUI64
  /-- The queues of the devices, by EUI. -/
  devices : List (EUI64 × Ref)
  downlinkTxNAckRate : Int64
  downlinkTxCounter : Int64
  downlinkCount : UInt32
  deriving DecidableEq

/-- `addDevice`: a map holds one queue for an EUI, the last one. -/
def Gateway.addDevice (g : Gateway) (devEUI : EUI64) (c : Ref) : Gateway :=
  { g with devices := (devEUI, c) :: g.devices.filter fun d => d.1 ≠ devEUI }

/-- What `getEventTopic` and `getCommandTopic` make of the two templates the discovery sets. -/
def topic (gatewayID : EUI64) (kind name : String) : String :=
  "eu868/gateway/" ++ Hex.encode gatewayID.toList ++ "/" ++ kind ++ "/" ++ name

/-- `getCommandTopic("down")`. -/
def commandTopic (gatewayID : EUI64) : String := topic gatewayID "command" "down"

/-- What stands between fixed texts can be read off the whole. -/
theorem between_injective {p x y a b c d : String}
    (h : p ++ x ++ a ++ b ++ c ++ d = p ++ y ++ a ++ b ++ c ++ d) : x = y := by
  have hchars := congrArg String.toList h
  simp only [String.toList_append] at hchars
  have hprefix := List.append_cancel_right (List.append_cancel_right (List.append_cancel_right
    (List.append_cancel_right hchars)))
  exact String.toList_inj.mp (List.append_cancel_left hprefix)

/-- The gateway id can be read off a topic. -/
theorem topic_injective {a b : EUI64} {kind name : String}
    (h : topic a kind name = topic b kind name) : a = b := by
  have hhex : Hex.encode a.toList = Hex.encode b.toList := between_injective h
  exact Vector.toList_inj.mp (Hex.encode_injective hhex)

theorem commandTopic_injective {a b : EUI64} (h : commandTopic a = commandTopic b) : a = b :=
  topic_injective h

/-! ## The network -/

/-- The gateway objects, the shared client, the registry, the devices' queues and the acks sent. -/
structure Network where
  gateways : Ref → Option Gateway
  /-- The callback of a topic. -/
  callbacks : String → Option Ref
  /-- `ActiveGateways`. -/
  active : EUI64 → Option Ref
  queues : Ref → List DownlinkFrame
  acks : List (String × DownlinkTxAck)

def Network.empty : Network := ⟨fun _ => none, fun _ => none, fun _ => none, fun _ => [], []⟩

/-- `NewGateway` with the shared client: a new object, its subscription and its registration. -/
def Network.newGateway (n : Network) (ref : Ref) (gatewayID : EUI64) : Network :=
  { n with
    gateways := Function.update n.gateways ref (some ⟨gatewayID, [], 0, 0, 0⟩)
    callbacks := Function.update n.callbacks (commandTopic gatewayID) (some ref)
    active := Function.update n.active gatewayID (some ref) }

/-- `addDevice` on the gateway object `ref`. -/
def Network.addDevice (n : Network) (ref : Ref) (devEUI : EUI64) (c : Ref) : Network :=
  { n with
    gateways := Function.update n.gateways ref ((n.gateways ref).map (·.addDevice devEUI c)) }

/-- `select { case downChan <- pl: default: }` on a channel of 100 slots. -/
def offer (queue : List DownlinkFrame) (pl : DownlinkFrame) : List DownlinkFrame :=
  if queue.length < 100 then queue ++ [pl] else queue

/-- The frame is offered to the queue of every device of the gateway. -/
def forward (devices : List (EUI64 × Ref)) (pl : DownlinkFrame)
    (queues : Ref → List DownlinkFrame) : Ref → List DownlinkFrame :=
  devices.foldl (fun q d => Function.update q d.2 (offer (q d.2) pl)) queues

/-- `downlinkEventHandler` of the gateway object `ref`; `unmarshal` gives the frame as decoded so far
    and the error, which is only logged. -/
def Network.downlinkEventHandler (unmarshal : List UInt8 → DownlinkFrame × Option String)
    (n : Network) (ref : Ref) (payload : List UInt8) : Network :=
  match n.gateways ref with
  | none => n
  | some g =>
    let pl := (unmarshal payload).1
    -- decoded or not, the frame counts for the acknowledgement pattern
    let nack := g.downlinkTxCounter + 1 = g.downlinkTxNAckRate
    let status := if nack then TxAckStatus.collisionPacket else .ok
    { n with
      gateways := Function.update n.gateways ref (some { g with
        downlinkCount := g.downlinkCount + 1
        downlinkTxCounter := if nack then 0 else g.downlinkTxCounter + 1 })
      queues := forward g.devices pl n.queues
      acks := n.acks ++ [(topic g.gatewayID "event" "ack",
        ⟨Hex.encode g.gatewayID.toList, pl.downlinkID, pl.items.map fun _ => status⟩)] }

/-- A message published on a topic reaches the topic's callback. -/
def Network.publish (unmarshal : List UInt8 → DownlinkFrame × Option String) (n : Network)
    (t : String) (payload : List UInt8) : Network :=
  match n.callbacks t with
  | none => n
  | some ref => n.downlinkEventHandler unmarshal ref payload

/-! ## Forwarding -/

/-- A queue of none of the devices is left alone. -/
theorem forward_of_not_mem {devices : List (EUI64 × Ref)} {pl : DownlinkFrame} {c : Ref} :
    ∀ {queues : Ref → List DownlinkFrame}, (∀ d ∈ devices, d.2 ≠ c) →
      forward devices pl queues c = queues c := by
  induction devices with
  | nil => intro queues _; rfl
  | cons d devices ih =>
    intro queues h
    show forward devices pl (Function.update queues d.2 (offer (queues d.2) pl)) c = queues c
    rw [ih fun e he => h e (List.mem_cons_of_mem d he),
      Function.update_of_ne (h d List.mem_cons_self).symm]

/-- With one queue for each device, a device's queue is offered the frame once. -/
theorem forward_of_mem {devices : List (EUI64 × Ref)} {pl : DownlinkFrame} {c : Ref} :
    ∀ {queues : Ref → List DownlinkFrame}, (devices.map Prod.snd).Nodup →
      c ∈ devices.map Prod.snd → forward devices pl queues c = offer (queues c) pl := by
  induction devices with
  | nil => intro queues _ h; exact absurd h List.not_mem_nil
  | cons d devices ih =>
    intro queues hnd hmem
    rw [List.map_cons, List.nodup_cons] at hnd
    rw [List.map_cons, List.mem_cons] at hmem
    show forward devices pl (Function.update queues d.2 (offer (queues d.2) pl)) c = _
    rcases hmem with rfl | hmem
    · rw [forward_of_not_mem, Function.update_self]
      exact fun e he heq => hnd.1 (heq ▸ List.mem_map_of_mem he)
    · have hne : c ≠ d.2 := fun heq => hnd.1 (heq ▸ hmem)
      rw [ih hnd.2 hmem, Function.update_of_ne hne]

end ChirpStackSimulator.Downstream
