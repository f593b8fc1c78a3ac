/-
  The connections of the application server API (`internal/as/api.go`).

  `Setup` replaces two connections that are kept in globals: the gRPC connection `clientConn` and the
  MQTT client `mqttClient`, whose subscription brings in the events of ChirpStack.  Nothing locks the
  two.  `Setup` runs at the start, every five seconds from a goroutine as long as it fails, and from
  every request that saves the system configuration, so calls can overlap.

  1. **Clients** — an MQTT client with auto-reconnect and a clean session; each connection it gets
     launches the handler that subscribes `application/#`.
  2. **Steps** — a call of `Setup` goes on by one access to a global or one outcome from the outside at
     a time, but for two places: the statement that disconnects reads `mqttClient` three times, and the
     last one writes it and reads it for `Connect`; each of the two is one step here.  Connections are
     lost and restored, events are published, delivered and handled, in any order.
  3. **Two slots** — each step is one of a slot that is replaced without a lock, or changes nothing
     there (`connSlot_step`, `clientSlot_step`).
  4. `connections_bounded`: in every state of every run the gRPC connections open besides `clientConn`,
     and the clients alive besides `mqttClient`, are at most one each for every call that began while
     another was running.
-/
import ChirpStackSimulator.Lib.Handover
import ChirpStackSimulator.Lib.Objects
import ChirpStackSimulator.Lib.Run

namespace ChirpStackSimulator.Connections

open Transition Handover

/-! ## Clients -/

/-- What the MQTT library makes of a client. -/
inductive Status where
  | connecting
  | connected
  | reconnecting
  | disconnected
  deriving DecidableEq

/-- An MQTT client with the options of `Setup`: auto-reconnect, a clean session and the handler. -/
structure Client where
  status : Status
  /-- The broker has `application/#` in the session of the connection. -/
  subscribed : Bool
  /-- Goroutines of the handler that have not subscribed yet. -/
  subscribing : Nat
  /-- What has been delivered and not handled, by its position in the messages published. -/
  inbox : List Nat

namespace Client

/-- `mqtt.NewClient` and the call of `Connect`. -/
def new : Client := ⟨.connecting, false, 0, []⟩

/-- It is connected, or will be without anyone's doing. -/
def alive (c : Client) : Bool := c.status ≠ .disconnected

/-- A client that is reconnecting counts as connected. -/
def isConnected (c : Client) : Bool := c.status = .connected ∨ c.status = .reconnecting

/-- A connection is made, in a new session, and the handler is launched. -/
def connect (c : Client) : Client :=
  { c with status := .connected, subscribed := false, subscribing := c.subscribing + 1 }

/-- What becomes of the first connection. -/
def connectDone (c : Client) (ok : Bool) : Client :=
  if c.status = .connecting then
    if ok then c.connect else { c with status := .disconnected }
  else c

/-- `Disconnect`, if it is connected. -/
def disconnect (c : Client) : Client :=
  if c.isConnected then { c with status := .disconnected, subscribed := false } else c

/-- The broker is gone while the client is connected. -/
def lose (c : Client) : Option Client :=
  if c.status = .connected then some { c with status := .reconnecting, subscribed := false } else none

/-- A client that lost its connection comes back. -/
def reconnect (c : Client) : Option Client :=
  if c.status = .reconnecting then some c.connect else none

/-- The `OnConnect` handler: it subscribes once, and logs it when that fails. -/
def subscribe (c : Client) (granted : Bool) : Option Client :=
  if c.subscribing = 0 then none
  else some { c with
    subscribing := c.subscribing - 1
    subscribed := c.subscribed || (granted && c.status = .connected) }

/-- The broker has a session to deliver to. -/
def receives (c : Client) : Bool := c.status = .connected && c.subscribed

/-- A message published reaches the client. -/
def deliver (c : Client) (message : Nat) : Client :=
  if c.receives then { c with inbox := c.inbox ++ [message] } else c

end Client

/-! ## Events -/

/-- What the broker hands to a subscription. -/
structure Message (Payload : Type) where
  topic : String
  payload : Payload

/-- `CommonFields.DeviceInfo`. -/
structure DeviceInfo where
  deviceName : String
  devEUI : String

/-- `handleIntegrationMessage`: what it forwards to the backend, if anything.  `unmarshal` decodes the
    common fields of the JSON payload. -/
def handleIntegrationMessage {Payload : Type} (unmarshal : Payload → Option DeviceInfo)
    (msg : Message Payload) : Option Payload :=
  let parts := (msg.topic.toList.splitOn '/').map String.ofList
  if parts.length < 6 ∨ parts[0]? ≠ some "application" ∨ parts[2]? ≠ some "device"
      ∨ parts[4]? ≠ some "event" then none
  else
    match unmarshal msg.payload with
    | none => none
    | some _ => if parts[5]? = some "up" then some msg.payload else none

/-! ## Calls of `Setup` -/

/-- What a call of `Setup` does next. -/
inductive Phase where
  /-- `if mqttClient != nil && mqttClient.IsConnected() { mqttClient.Disconnect(250) }`. -/
  | disconnect
  /-- `if clientConn != nil`. -/
  | checkConn
  /-- `clientConn.Close()`. -/
  | closeConn
  /-- `clientConn = nil`. -/
  | clearConn
  /-- `grpc.DialContext`. -/
  | dial
  /-- `clientConn = conn`. -/
  | keepConn
  /-- `mqttClient = mqtt.NewClient(opts)`, and `Connect` is called. -/
  | newClient
  /-- The token of `Connect` is waited for. -/
  | connect (client : Nat)
  /-- It has returned, with an error if not `ok`. -/
  | returned (ok : Bool)
  /-- It has called `Close` on a nil connection. -/
  | panicked
  deriving DecidableEq

/-- The call is over. -/
def Phase.over : Phase → Bool
  | .returned _ => true
  | .panicked => true
  | _ => false

/-- The two globals, all connections and clients ever made, the calls at work on them, and the
    messages. -/
structure World (Payload : Type) where
  calls : List Phase
  /-- The gRPC connections `clientConn` has held, and whether they are open. -/
  conns : List Bool
  clientConn : Option Nat
  clients : List Client
  mqttClient : Option Nat
  /-- How many calls began while another one was running. -/
  overlapped : Nat
  /-- The messages published, and how many clients each was delivered to. -/
  messages : List (Message Payload × Nat)
  /-- The messages handed to `forwardToBackend`, by position. -/
  forwarded : List Nat
  /-- The messages lost between the broker and the handler. -/
  dropped : List Nat

variable {Payload : Type} (unmarshal : Payload → Option DeviceInfo)

/-- No call yet. -/
def init : World Payload := ⟨[], [], none, [], none, 0, [], [], []⟩

namespace World

variable (w : World Payload)

/-- The call goes on to its next phase. -/
def goto (k : Nat) (p : Phase) : World Payload := { w with calls := w.calls.set k p }

/-- `Setup` is called. -/
def begin : World Payload :=
  { w with
    calls := w.calls ++ [.disconnect]
    overlapped := w.overlapped + if w.calls.all Phase.over then 0 else 1 }

/-- The client `mqttClient` holds is disconnected, if it is connected. -/
def disconnectClient : World Payload :=
  match w.mqttClient with
  | none => w
  | some i =>
    match w.clients[i]? with
    | none => w
    | some c => { w with clients := w.clients.set i c.disconnect }

/-- What `Setup` does next, and what comes of it. -/
def setup (k : Nat) (ok : Bool) : Phase → Option (World Payload)
  | .disconnect => some (w.disconnectClient.goto k .checkConn)
  | .checkConn => some (w.goto k (if w.clientConn.isSome then .closeConn else .dial))
  | .closeConn =>
    match w.clientConn with
    | none => some (w.goto k .panicked)
    | some i => some ({ w with conns := w.conns.set i false }.goto k .clearConn)
  | .clearConn => some ({ w with clientConn := none }.goto k .dial)
  | .dial => some (w.goto k (if ok then .keepConn else .returned false))
  | .keepConn =>
    some ({ w with conns := w.conns ++ [true], clientConn := some w.conns.length }.goto k .newClient)
  | .newClient =>
    some ({ w with
      clients := w.clients ++ [Client.new]
      mqttClient := some w.clients.length }.goto k (.connect w.clients.length))
  | .connect i =>
    match w.clients[i]? with
    | none => none
    | some c => some ({ w with clients := w.clients.set i (c.connectDone ok) }.goto k (.returned ok))
  | .returned _ => none
  | .panicked => none

/-- Client `i` becomes `f` of it, where that is possible. -/
def onClient (i : Nat) (f : Client → Option Client) : Option (World Payload) :=
  match w.clients[i]? with
  | none => none
  | some c =>
    match f c with
    | none => none
    | some c' => some { w with clients := w.clients.set i c' }

/-- The broker delivers a message to every session that has subscribed. -/
def publish (msg : Message Payload) : World Payload :=
  { w with
    clients := w.clients.map (·.deliver w.messages.length)
    messages := w.messages ++ [(msg, w.clients.countP Client.receives)] }

/-- The message client `i` has waited with longest leaves its inbox. -/
def take (i : Nat) : Option (Nat × World Payload) :=
  match w.clients[i]? with
  | none => none
  | some c =>
    match c.inbox with
    | [] => none
    | m :: rest => some (m, { w with clients := w.clients.set i { c with inbox := rest } })

/-- The handler is called with the next message of client `i`. -/
def handle (i : Nat) : Option (World Payload) :=
  match w.take i with
  | none => none
  | some (m, w') =>
    match w.messages[m]? with
    | none => none
    | some (msg, _) =>
      match handleIntegrationMessage unmarshal msg with
      | none => some w'
      | some _ => some { w' with forwarded := w.forwarded ++ [m] }

/-- The next message of client `i` is lost with its connection. -/
def drop (i : Nat) : Option (World Payload) :=
  match w.clients[i]? with
  | none => none
  | some c =>
    if c.status = .connected then none else
    match w.take i with
    | none => none
    | some (m, w') => some { w' with dropped := w.dropped ++ [m] }

end World

/-- What may happen next. -/
inductive Label (Payload : Type) where
  | begin
  | setup (k : Nat) (ok : Bool)
  | lose (i : Nat)
  | reconnect (i : Nat)
  | subscribe (i : Nat) (granted : Bool)
  | publish (msg : Message Payload)
  | handle (i : Nat)
  | drop (i : Nat)

/-- Anything that can happen next. -/
def step (w : World Payload) : Label Payload → Option (World Payload)
  | .begin => some w.begin
  | .setup k ok => w.calls[k]?.bind (w.setup k ok)
  | .lose i => w.onClient i Client.lose
  | .reconnect i => w.onClient i Client.reconnect
  | .subscribe i granted => w.onClient i (·.subscribe granted)
  | .publish msg => some (w.publish msg)
  | .handle i => w.handle unmarshal i
  | .drop i => w.drop i

/-! ## Two slots -/

/-- Where a call stands with `clientConn`. -/
def Phase.connStage : Phase → Stage
  | .disconnect => .entered
  | .checkConn => .entered
  | .closeConn => .entered
  | .clearConn => .released
  | .dial => .released
  | .keepConn => .released
  | _ => .over

/-- Where a call stands with `mqttClient`. -/
def Phase.clientStage : Phase → Stage
  | .disconnect => .entered
  | .checkConn => .released
  | .closeConn => .released
  | .clearConn => .released
  | .dial => .released
  | .keepConn => .released
  | .newClient => .released
  | .connect i => .opening i
  | .returned _ => .over
  | .panicked => .over

/-- The gRPC side as one slot that is filled and cleared: `clientConn`. -/
def connSlot (w : World Payload) : Slot :=
  ⟨w.conns, w.clientConn, w.calls.map Phase.connStage, w.overlapped⟩

/-- The MQTT side: `mqttClient`. -/
def clientSlot (w : World Payload) : Slot :=
  ⟨w.clients.map Client.alive, w.mqttClient, w.calls.map Phase.clientStage, w.overlapped⟩

/-- The gRPC connections that are open and not in `clientConn`. -/
def spareConns (w : World Payload) : Nat :=
  (List.range w.conns.length).countP fun i => w.conns[i]? == some true && w.clientConn != some i

/-- The MQTT clients that are alive and not in `mqttClient`. -/
def spareClients (w : World Payload) : Nat :=
  (List.range w.clients.length).countP fun i =>
    (w.clients[i]?.map Client.alive) == some true && w.mqttClient != some i

variable {unmarshal} {w w' : World Payload} {k i : Nat} {p p' : Phase} {c c' : Client}

/-- One element changes to another with the same image. -/
theorem map_set_same {α β : Type} {f : α → β} {l : List α} {x y : α} (h : l[k]? = some x)
    (hf : f y = f x) : (l.set k y).map f = l.map f := by
  rw [List.map_set, hf]
  refine List.ext_getElem? fun j => ?_
  by_cases hj : k = j
  · subst hj
    have hx : (l.map f)[k]? = some (f x) := by rw [List.getElem?_map, h]; rfl
    rw [List.getElem?_set_self (List.getElem?_eq_some_iff.mp hx).1, hx]
  · rw [List.getElem?_set_ne hj]

/-- A call has the same number on both sides. -/
theorem connStage_at (h : w.calls[k]? = some p) :
    (connSlot w).calls[k]? = some p.connStage := by
  show (w.calls.map Phase.connStage)[k]? = _
  rw [List.getElem?_map, h]
  rfl

theorem clientStage_at (h : w.calls[k]? = some p) :
    (clientSlot w).calls[k]? = some p.clientStage := by
  show (w.calls.map Phase.clientStage)[k]? = _
  rw [List.getElem?_map, h]
  rfl

/-- A call that goes on. -/
theorem connSlot_goto : connSlot (w.goto k p) = (connSlot w).goto k p.connStage := by
  unfold connSlot World.goto Slot.goto
  rw [List.map_set]

/-- A call that goes on moves in both slots. -/
theorem clientSlot_goto : clientSlot (w.goto k p) = (clientSlot w).goto k p.clientStage := by
  unfold clientSlot World.goto Slot.goto
  rw [List.map_set]

/-- A call that goes on within one stage. -/
theorem goto_same {s : Slot} {st : Stage} (h : s.calls[k]? = some st) : s.goto k st = s := by
  unfold Slot.goto
  have hset := map_set_same (f := id) h rfl
  rw [List.map_id, List.map_id] at hset
  rw [hset]

/-- A step that is one of the slot, or nothing to it. -/
abbrev Moves (s t : Slot) : Prop := t = s ∨ Step s t

/-- A call begins. -/
theorem begin_moves {f : Phase → Stage} (hover : ∀ p, p.over = true → f p = .over)
    (hentered : f .disconnect = .entered) (resources : List Bool) (slot : Option Nat) :
    Step ⟨resources, slot, w.calls.map f, w.overlapped⟩
      ⟨resources, slot, w.begin.calls.map f, w.begin.overlapped⟩ := by
  have hcalls : w.begin.calls.map f = w.calls.map f ++ [.entered] := by
    show (w.calls ++ [Phase.disconnect]).map f = _
    rw [List.map_append, List.map_singleton, hentered]
  rw [hcalls]
  unfold World.begin
  split
  · next hall =>
    refine Step.enterAlone fun st hst => ?_
    obtain ⟨p, hp, rfl⟩ := List.mem_map.mp hst
    exact hover p (List.all_eq_true.mp hall p hp)
  · exact Step.enterOver

/-! ### Steps of the clients alone -/

/-- What `onClient` does. -/
theorem onClient_eq_some {f : Client → Option Client} :
    w.onClient i f = some w' ↔ ∃ c c', w.clients[i]? = some c ∧ f c = some c' ∧
      w' = { w with clients := w.clients.set i c' } := by
  unfold World.onClient
  split
  · next hnone => simp [hnone]
  · next c hc =>
    split
    · next hf => simp [hc, hf]
    · next c' hf => simp [hc, hf, eq_comm]

/-- What `take` does. -/
theorem take_eq_some {m : Nat} : w.take i = some (m, w') ↔ ∃ c rest, w.clients[i]? = some c ∧
    c.inbox = m :: rest ∧ w' = { w with clients := w.clients.set i { c with inbox := rest } } := by
  unfold World.take
  split
  · next hnone => simp [hnone]
  · next c hc =>
    split
    · next hbox => simp [hc, hbox]
    · next m' rest hbox =>
      simp only [Option.some.injEq, Prod.mk.injEq]
      constructor
      · rintro ⟨rfl, rfl⟩
        exact ⟨c, rest, hc, hbox, rfl⟩
      · rintro ⟨c₁, rest₁, hc₁, hbox₁, rfl⟩
        obtain rfl := Option.some.inj (hc.symm.trans hc₁)
        obtain ⟨rfl, rfl⟩ := List.cons_eq_cons.mp (hbox.symm.trans hbox₁)
        exact ⟨rfl, rfl⟩

/-- What `handle` does. -/
theorem handle_eq_some (h : w.handle unmarshal i = some w') :
    ∃ c m rest msg copies, w.clients[i]? = some c ∧ c.inbox = m :: rest ∧
      w.messages[m]? = some (msg, copies) ∧
      w' = { w with
        clients := w.clients.set i { c with inbox := rest }
        forwarded := w.forwarded ++
          if (handleIntegrationMessage unmarshal msg).isSome then [m] else [] } := by
  unfold World.handle at h
  split at h
  · cases h
  · next m w₁ htake =>
    obtain ⟨c, rest, hc, hbox, rfl⟩ := take_eq_some.mp htake
    split at h
    · cases h
    · next msg copies hmsg =>
      refine ⟨c, m, rest, msg, copies, hc, hbox, hmsg, ?_⟩
      split at h <;> obtain rfl := Option.some.inj h
      · next hnone => simp [hnone]
      · next hsome => simp [hsome]

/-- What `drop` does. -/
theorem drop_eq_some (h : w.drop i = some w') :
    ∃ c m rest, w.clients[i]? = some c ∧ c.inbox = m :: rest ∧
      w' = { w with
        clients := w.clients.set i { c with inbox := rest }
        dropped := w.dropped ++ [m] } := by
  unfold World.drop at h
  split at h
  · cases h
  · split at h
    · cases h
    · split at h
      · cases h
      · next m w₁ htake =>
        obtain ⟨c, rest, hc, hbox, rfl⟩ := take_eq_some.mp htake
        obtain rfl := Option.some.inj h
        exact ⟨c, m, rest, hc, hbox, rfl⟩

/-! ### The gRPC connection -/

/-- Closing the MQTT client leaves the gRPC side alone. -/
theorem disconnectClient_kept : w.disconnectClient.conns = w.conns ∧
    w.disconnectClient.clientConn = w.clientConn ∧ w.disconnectClient.calls = w.calls ∧
    w.disconnectClient.overlapped = w.overlapped := by
  unfold World.disconnectClient
  split
  · exact ⟨rfl, rfl, rfl, rfl⟩
  · split <;> exact ⟨rfl, rfl, rfl, rfl⟩

/-- What changes only clients and messages is nothing to `clientConn`. -/
theorem connSlot_congr (hconns : w'.conns = w.conns) (hslot : w'.clientConn = w.clientConn)
    (hcalls : w'.calls = w.calls) (hover : w'.overlapped = w.overlapped) :
    connSlot w' = connSlot w := by
  unfold connSlot
  rw [hconns, hslot, hcalls, hover]

/-- Opening does not happen in `clientConn`: a connection put there has been dialled. -/
theorem connSlot_not_opening : .opening i ∉ (connSlot w).calls := by
  intro h
  obtain ⟨p, -, hp⟩ := List.mem_map.mp h
  cases p <;> cases hp

/-- `Setup` on the gRPC side, phase by phase: it looks at the slot, closes and clears what it finds,
    and puts in what it has dialled. -/
theorem connSlot_setup {ok : Bool} (hk : w.calls[k]? = some p) (h : w.setup k ok p = some w') :
    Moves (connSlot w) (connSlot w') := by
  have hst := connStage_at hk
  cases p with
  | disconnect =>
    obtain rfl := Option.some.inj h
    obtain ⟨h1, h2, h3, h4⟩ := disconnectClient_kept (w := w)
    rw [connSlot_goto, connSlot_congr h1 h2 h3 h4]
    exact Or.inl (goto_same hst)
  | checkConn =>
    obtain rfl := Option.some.inj h
    rw [connSlot_goto]
    cases hconn : w.clientConn with
    | none =>
      refine Or.inr (Step.pass hst fun hheld => ?_)
      unfold Slot.held connSlot at hheld
      rw [hconn] at hheld
      cases hheld
    | some i => exact Or.inl (goto_same hst)
  | closeConn =>
    dsimp only [World.setup] at h
    split at h <;> obtain rfl := Option.some.inj h
    · rw [connSlot_goto]
      exact Or.inr (Step.quit hst rfl)
    · next i hconn =>
      rw [connSlot_goto]
      have hrel : connSlot { w with conns := w.conns.set i false } = (connSlot w).release := by
        unfold Slot.release connSlot
        rw [hconn]
        rfl
      rw [hrel]
      exact Or.inr (Step.release hst)
  | clearConn =>
    obtain rfl := Option.some.inj h
    rw [connSlot_goto]
    refine Or.inr ?_
    have hclear := Step.clear hst fun i => connSlot_not_opening
    rwa [← goto_same (s := { connSlot w with slot := none }) hst] at hclear
  | dial =>
    obtain rfl := Option.some.inj h
    rw [connSlot_goto]
    cases ok with
    | true => exact Or.inl (goto_same hst)
    | false => exact Or.inr (Step.quit hst rfl)
  | keepConn =>
    obtain rfl := Option.some.inj h
    rw [connSlot_goto]
    exact Or.inr (Step.put hst)
  | newClient =>
    obtain rfl := Option.some.inj h
    rw [connSlot_goto]
    exact Or.inl (goto_same hst)
  | connect i =>
    dsimp only [World.setup] at h
    split at h
    · cases h
    · obtain rfl := Option.some.inj h
      rw [connSlot_goto]
      exact Or.inl (goto_same hst)
  | returned ok => cases h
  | panicked => cases h

/-- **One step on the gRPC side** is a move of its slot; only `Setup` makes one that is not idle. -/
theorem connSlot_step {a : Label Payload} (h : step unmarshal w a = some w') :
    Moves (connSlot w) (connSlot w') := by
  cases a with
  | begin =>
    obtain rfl := Option.some.inj h
    exact Or.inr (begin_moves (fun p hp => by cases p <;> first | rfl | cases hp) rfl _ _)
  | setup k ok =>
    obtain ⟨p, hp, hstep⟩ := Option.bind_eq_some_iff.mp h
    exact connSlot_setup hp hstep
  | lose i =>
    obtain ⟨c, c', -, -, rfl⟩ := onClient_eq_some.mp h
    exact Or.inl rfl
  | reconnect i =>
    obtain ⟨c, c', -, -, rfl⟩ := onClient_eq_some.mp h
    exact Or.inl rfl
  | subscribe i granted =>
    obtain ⟨c, c', -, -, rfl⟩ := onClient_eq_some.mp h
    exact Or.inl rfl
  | publish msg =>
    obtain rfl := Option.some.inj h
    exact Or.inl rfl
  | handle i =>
    obtain ⟨c, m, rest, msg, copies, -, -, -, rfl⟩ := handle_eq_some h
    exact Or.inl rfl
  | drop i =>
    obtain ⟨c, m, rest, -, -, rfl⟩ := drop_eq_some h
    exact Or.inl rfl

/-! ### The MQTT client -/

/-- A client that is connecting is one a call waits for. -/
def Sound (w : World Payload) : Prop :=
  ∀ i c, w.clients[i]? = some c → c.status = .connecting → Phase.connect i ∈ w.calls

/-- A client that changes without coming to its end. -/
theorem alive_set (h : w.clients[i]? = some c) (hc : c'.alive = c.alive) :
    (w.clients.set i c').map Client.alive = w.clients.map Client.alive :=
  map_set_same h hc

/-- A client that comes to its end. -/
theorem alive_kill_set (hc : c'.alive = false) :
    (w.clients.set i c').map Client.alive = (w.clients.map Client.alive).set i false := by
  rw [List.map_set, hc]

/-- A lost connection leaves the client alive, since it will try again. -/
theorem lose_alive (h : c.lose = some c') : c'.alive = c.alive := by
  unfold Client.lose at h
  split at h
  · next hc =>
    obtain rfl := Option.some.inj h
    unfold Client.alive
    rw [hc]
    rfl
  · cases h

/-- Nor does coming back change that. -/
theorem reconnect_alive (h : c.reconnect = some c') : c'.alive = c.alive := by
  unfold Client.reconnect at h
  split at h
  · next hc =>
    obtain rfl := Option.some.inj h
    unfold Client.alive
    rw [hc]
    rfl
  · cases h

/-- Subscriptions and messages leave the status as it was. -/
theorem subscribe_status {granted : Bool} (h : c.subscribe granted = some c') :
    c'.status = c.status := by
  unfold Client.subscribe at h
  split at h
  · cases h
  · obtain rfl := Option.some.inj h
    rfl

theorem deliver_status (m : Nat) : (c.deliver m).status = c.status := by
  unfold Client.deliver
  split <;> rfl

/-- A client is alive by its status alone. -/
theorem alive_of_status (h : c'.status = c.status) : c'.alive = c.alive := by
  unfold Client.alive
  rw [h]

/-- A call takes the client it finds for dead although it is alive: that client is connecting. -/
theorem not_connected (h : c.isConnected = false) (halive : c.alive = true) :
    c.status = .connecting := by
  cases hs : c.status <;> simp [Client.isConnected, Client.alive, hs] at h halive ⊢

/-- `Disconnect`, by what `mqttClient` holds. -/
theorem clientSlot_disconnect (hw : Sound w) (hk : w.calls[k]? = some .disconnect) :
    Step (clientSlot w) (clientSlot (w.disconnectClient.goto k .checkConn)) := by
  have hst := clientStage_at hk
  rw [clientSlot_goto]
  -- what it takes for dead is dead, or is being opened
  have hpass : ∀ i c, w.mqttClient = some i → w.clients[i]? = some c → c.isConnected = false →
      (clientSlot w).held = true → ∃ i, .opening i ∈ (clientSlot w).calls := by
    intro i c hslot hc hcon hheld
    unfold Slot.held clientSlot at hheld
    rw [hslot] at hheld
    dsimp only at hheld
    rw [List.getElem?_map, hc] at hheld
    have halive : c.alive = true := by simpa using hheld
    exact ⟨i, List.mem_map.mpr ⟨_, hw i c hc (not_connected hcon halive), rfl⟩⟩
  unfold World.disconnectClient
  split
  · next hnone =>
    refine Step.pass hst fun hheld => ?_
    unfold Slot.held clientSlot at hheld
    rw [hnone] at hheld
    cases hheld
  · next i hslot =>
    split
    · next hnone =>
      refine Step.pass hst fun hheld => ?_
      unfold Slot.held clientSlot at hheld
      rw [hslot] at hheld
      dsimp only at hheld
      rw [List.getElem?_map, hnone] at hheld
      cases hheld
    · next c hc =>
      cases hcon : c.isConnected with
      | false =>
        have hsame : c.disconnect = c := by
          unfold Client.disconnect
          rw [hcon]
          rfl
        have heq : clientSlot { w with clients := w.clients.set i c.disconnect }
            = clientSlot w := by
          unfold clientSlot
          rw [alive_set hc (congrArg Client.alive hsame)]
        rw [heq]
        exact Step.pass hst (hpass i c hslot hc hcon)
      | true =>
        have hdead : c.disconnect.alive = false := by
          unfold Client.disconnect
          rw [hcon]
          rfl
        have heq : clientSlot { w with clients := w.clients.set i c.disconnect }
            = (clientSlot w).release := by
          unfold Slot.release clientSlot
          rw [alive_kill_set hdead, hslot]
          rfl
        rw [heq]
        exact Step.release hst

/-- What becomes of the first connection of a client. -/
theorem clientSlot_connect {ok : Bool} (hk : w.calls[k]? = some (.connect i))
    (hc : w.clients[i]? = some c) :
    Step (clientSlot w)
      (clientSlot ({ w with clients := w.clients.set i (c.connectDone ok) }.goto k (.returned ok))) := by
  have hst : (clientSlot w).calls[k]? = some (.opening i) := clientStage_at hk
  rw [clientSlot_goto]
  -- the client stays alive, unless the connection fails
  have hopened : (c.connectDone ok).alive = c.alive →
      Step (clientSlot w) ((clientSlot { w with clients := w.clients.set i (c.connectDone ok) }).goto k
        (Phase.returned ok).clientStage) := by
    intro hsame
    have heq : clientSlot { w with clients := w.clients.set i (c.connectDone ok) }
        = clientSlot w := by
      unfold clientSlot
      rw [alive_set hc hsame]
    rw [heq]
    exact Step.opened hst
  by_cases hcon : c.status = .connecting
  · cases ok with
    | true =>
      refine hopened ?_
      unfold Client.connectDone Client.alive
      rw [if_pos hcon, hcon]
      rfl
    | false =>
      have hdead : (c.connectDone false).alive = false := by
        unfold Client.connectDone Client.alive
        rw [if_pos hcon]
        rfl
      have heq : clientSlot { w with clients := w.clients.set i (c.connectDone false) }
          = (clientSlot w).kill i := by
        unfold Slot.kill clientSlot
        rw [alive_kill_set hdead]
      rw [heq]
      exact Step.failed hst
  · refine hopened ?_
    unfold Client.connectDone
    rw [if_neg hcon]

/-- `Setup` changes clients only when it disconnects one, makes one and waits for one. -/
theorem clientSlot_setup {ok : Bool} (hw : Sound w) (hk : w.calls[k]? = some p)
    (h : w.setup k ok p = some w') : Moves (clientSlot w) (clientSlot w') := by
  have hst := clientStage_at hk
  cases p with
  | disconnect =>
    obtain rfl := Option.some.inj h
    exact Or.inr (clientSlot_disconnect hw hk)
  | checkConn =>
    obtain rfl := Option.some.inj h
    rw [clientSlot_goto]
    refine Or.inl (Eq.trans ?_ (goto_same hst))
    split <;> rfl
  | closeConn =>
    dsimp only [World.setup] at h
    split at h <;> obtain rfl := Option.some.inj h
    · rw [clientSlot_goto]
      exact Or.inr (Step.quit hst rfl)
    · rw [clientSlot_goto]
      exact Or.inl (goto_same hst)
  | clearConn =>
    obtain rfl := Option.some.inj h
    rw [clientSlot_goto]
    exact Or.inl (goto_same hst)
  | dial =>
    obtain rfl := Option.some.inj h
    rw [clientSlot_goto]
    cases ok with
    | true => exact Or.inl (goto_same hst)
    | false => exact Or.inr (Step.quit hst rfl)
  | keepConn =>
    obtain rfl := Option.some.inj h
    rw [clientSlot_goto]
    exact Or.inl (goto_same hst)
  | newClient =>
    obtain rfl := Option.some.inj h
    have hput : clientSlot { w with
        clients := w.clients ++ [Client.new]
        mqttClient := some w.clients.length } = (clientSlot w).put := by
      unfold Slot.put clientSlot
      rw [List.map_append, List.length_map]
      rfl
    rw [clientSlot_goto, hput]
    have hnew := Step.putOpening hst
    unfold clientSlot at hnew
    rw [List.length_map] at hnew
    exact Or.inr hnew
  | connect i =>
    dsimp only [World.setup] at h
    split at h
    · cases h
    · next c hc =>
      obtain rfl := Option.some.inj h
      exact Or.inr (clientSlot_connect hk hc)
  | returned ok => cases h
  | panicked => cases h

/-- A client that changes without coming to its end is nothing to `mqttClient`. -/
theorem clientSlot_set (hc : w.clients[i]? = some c) (halive : c'.alive = c.alive) :
    clientSlot { w with clients := w.clients.set i c' } = clientSlot w := by
  unfold clientSlot
  rw [alive_set hc halive]

/-- **One step on the MQTT side** is a move of its slot, if the clients that are connecting are
    waited for. -/
theorem clientSlot_step {a : Label Payload} (hw : Sound w) (h : step unmarshal w a = some w') :
    Moves (clientSlot w) (clientSlot w') := by
  cases a with
  | begin =>
    obtain rfl := Option.some.inj h
    exact Or.inr (begin_moves (fun p hp => by cases p <;> first | rfl | cases hp) rfl _ _)
  | setup k ok =>
    obtain ⟨p, hp, hstep⟩ := Option.bind_eq_some_iff.mp h
    exact clientSlot_setup hw hp hstep
  | lose i =>
    obtain ⟨c, c', hc, hc', rfl⟩ := onClient_eq_some.mp h
    exact Or.inl (clientSlot_set hc (lose_alive hc'))
  | reconnect i =>
    obtain ⟨c, c', hc, hc', rfl⟩ := onClient_eq_some.mp h
    exact Or.inl (clientSlot_set hc (reconnect_alive hc'))
  | subscribe i granted =>
    obtain ⟨c, c', hc, hc', rfl⟩ := onClient_eq_some.mp h
    exact Or.inl (clientSlot_set hc (alive_of_status (subscribe_status hc')))
  | publish msg =>
    obtain rfl := Option.some.inj h
    have hmap : (w.clients.map (·.deliver w.messages.length)).map Client.alive
        = w.clients.map Client.alive := by
      rw [List.map_map]
      exact List.map_congr_left fun c _ => alive_of_status (deliver_status _)
    unfold clientSlot World.publish
    dsimp only
    rw [hmap]
    exact Or.inl rfl
  | handle i =>
    obtain ⟨c, m, rest, msg, copies, hc, -, -, rfl⟩ := handle_eq_some h
    have halive : Client.alive { c with inbox := rest } = c.alive := rfl
    exact Or.inl (clientSlot_set hc halive)
  | drop i =>
    obtain ⟨c, m, rest, hc, -, rfl⟩ := drop_eq_some h
    have halive : Client.alive { c with inbox := rest } = c.alive := rfl
    exact Or.inl (clientSlot_set hc halive)

/-! ### Clients that are connecting -/

/-- There is no client yet. -/
theorem init_sound : Sound (init : World Payload) := fun i c h => by cases h

/-- Clients that are connecting were, and the calls that wait for them still do. -/
theorem Sound.mono (hw : Sound w)
    (hclients : ∀ (j : Nat) (d : Client), w'.clients[j]? = some d → d.status = .connecting →
      ∃ d', w.clients[j]? = some d' ∧ d'.status = .connecting)
    (hcalls : ∀ j, Phase.connect j ∈ w.calls → Phase.connect j ∈ w'.calls) : Sound w' := by
  intro j d hd hstatus
  obtain ⟨d', hd', hstatus'⟩ := hclients j d hd hstatus
  exact hcalls j (hw j d' hd' hstatus')

/-- A call that goes on from elsewhere. -/
theorem mem_set_of_ne {calls : List Phase} (hk : calls[k]? = some p) {q : Phase} (hne : q ≠ p)
    (h : q ∈ calls) : q ∈ calls.set k p' := by
  obtain ⟨j, hj⟩ := List.getElem?_of_mem h
  have hjk : j ≠ k := by
    rintro rfl
    exact hne (Option.some.inj (hj.symm.trans hk))
  exact List.mem_of_getElem? (Objects.set_kept hjk hj)

/-- One client changes, and is connecting only if it was. -/
theorem Sound.set (hw : Sound w) (hc : w.clients[i]? = some c)
    (hstatus : c'.status = .connecting → c.status = .connecting)
    (hclients : w'.clients = w.clients.set i c') (hcalls : w'.calls = w.calls) : Sound w' := by
  refine hw.mono (fun j d hd hds => ?_) fun j hj => hcalls ▸ hj
  rw [hclients] at hd
  rcases Objects.of_lookup_set hd with ⟨rfl, rfl⟩ | ⟨-, hd'⟩
  · exact ⟨c, hc, hstatus hds⟩
  · exact ⟨d, hd', hds⟩

/-- `Disconnect` makes no client that is connecting. -/
theorem Sound.disconnectClient (hw : Sound w) : Sound w.disconnectClient := by
  unfold World.disconnectClient
  split
  · exact hw
  · split
    · exact hw
    · next i _ c hc =>
      refine hw.set hc (fun h => ?_) rfl rfl
      unfold Client.disconnect at h
      split at h
      · cases h
      · exact h

/-- A call that goes on without having waited for a client. -/
theorem Sound.goto (hw : Sound w) (hk : w.calls[k]? = some p) (hp : ∀ i, .connect i ≠ p) :
    Sound (w.goto k p') :=
  hw.mono (fun _ d hd hds => ⟨d, hd, hds⟩) fun j hj => mem_set_of_ne hk (hp j) hj

/-- `newClient` makes one, and its call goes on to wait for it. -/
theorem Sound.setup {ok : Bool} (hw : Sound w) (hk : w.calls[k]? = some p)
    (h : w.setup k ok p = some w') : Sound w' := by
  cases p with
  | disconnect =>
    obtain rfl := Option.some.inj h
    refine hw.disconnectClient.goto (p := .disconnect) ?_ (fun i => Phase.noConfusion)
    rw [disconnectClient_kept.2.2.1]
    exact hk
  | checkConn =>
    obtain rfl := Option.some.inj h
    exact hw.goto hk fun i => Phase.noConfusion
  | closeConn =>
    dsimp only [World.setup] at h
    split at h <;> obtain rfl := Option.some.inj h
    · exact hw.goto hk fun i => Phase.noConfusion
    · exact Sound.goto (w := { w with conns := _ }) hw hk fun i => Phase.noConfusion
  | clearConn =>
    obtain rfl := Option.some.inj h
    exact Sound.goto (w := { w with clientConn := none }) hw hk fun i => Phase.noConfusion
  | dial =>
    obtain rfl := Option.some.inj h
    exact hw.goto hk fun i => Phase.noConfusion
  | keepConn =>
    obtain rfl := Option.some.inj h
    exact Sound.goto (w := { w with conns := _, clientConn := _ }) hw hk fun i => Phase.noConfusion
  | newClient =>
    obtain rfl := Option.some.inj h
    intro j d hd hds
    rcases Objects.lookup_append.mp hd with hold | ⟨rfl, -⟩
    · exact mem_set_of_ne hk Phase.noConfusion (hw j d hold hds)
    · exact List.mem_of_getElem? (Objects.set_self hk)
  | connect i =>
    dsimp only [World.setup] at h
    split at h
    · cases h
    · next c hc =>
      obtain rfl := Option.some.inj h
      intro j d hd hds
      rcases Objects.of_lookup_set hd with ⟨rfl, rfl⟩ | ⟨hji, hold⟩
      · -- whether it connects or not, it is connecting no longer
        unfold Client.connectDone at hds
        split at hds
        · cases ok <;> cases hds
        · next hne => exact absurd hds hne
      · refine mem_set_of_ne hk (fun e => hji ?_) (hw j d hold hds)
        exact Phase.connect.inj e
  | returned ok => cases h
  | panicked => cases h

/-- **One step**: what is connecting is waited for. -/
theorem Sound.step {a : Label Payload} (hw : Sound w) (h : step unmarshal w a = some w') :
    Sound w' := by
  cases a with
  | begin =>
    obtain rfl := Option.some.inj h
    exact hw.mono (fun _ d hd hds => ⟨d, hd, hds⟩) fun j hj => List.mem_append_left _ hj
  | setup k ok =>
    obtain ⟨p, hp, hstep⟩ := Option.bind_eq_some_iff.mp h
    exact hw.setup hp hstep
  | lose i =>
    obtain ⟨c, c', hc, hc', rfl⟩ := onClient_eq_some.mp h
    refine hw.set hc (fun hs => ?_) rfl rfl
    unfold Client.lose at hc'
    split at hc'
    · obtain rfl := Option.some.inj hc'
      cases hs
    · cases hc'
  | reconnect i =>
    obtain ⟨c, c', hc, hc', rfl⟩ := onClient_eq_some.mp h
    refine hw.set hc (fun hs => ?_) rfl rfl
    unfold Client.reconnect at hc'
    split at hc'
    · obtain rfl := Option.some.inj hc'
      cases hs
    · cases hc'
  | subscribe i granted =>
    obtain ⟨c, c', hc, hc', rfl⟩ := onClient_eq_some.mp h
    exact hw.set hc (fun hs => (subscribe_status hc') ▸ hs) rfl rfl
  | publish msg =>
    obtain rfl := Option.some.inj h
    refine hw.mono (fun j d hd hds => ?_) fun j hj => hj
    obtain ⟨d', hd', rfl⟩ := Option.map_eq_some_iff.mp ((List.getElem?_map).symm.trans hd)
    exact ⟨d', hd', (deliver_status _).symm.trans hds⟩
  | handle i =>
    obtain ⟨c, m, rest, msg, copies, hc, -, -, rfl⟩ := handle_eq_some h
    have hstatus : Client.status { c with inbox := rest } = .connecting → c.status = .connecting := id
    exact hw.set hc hstatus rfl rfl
  | drop i =>
    obtain ⟨c, m, rest, hc, -, rfl⟩ := drop_eq_some h
    have hstatus : Client.status { c with inbox := rest } = .connecting → c.status = .connecting := id
    exact hw.set hc hstatus rfl rfl

/-! ## Connections that are left over -/

/-- What holds in every state. -/
structure Kept (w : World Payload) : Prop where
  sound : Sound w
  conns : Balanced (connSlot w)
  clients : Balanced (clientSlot w)

theorem init_kept : Kept (init : World Payload) :=
  ⟨init_sound, Balanced.empty, Balanced.empty⟩

/-- A move keeps the balance of the slot. -/
theorem Moves.balanced {s t : Slot} (h : Moves s t) (hs : Balanced s) : Balanced t := by
  rcases h with rfl | hstep
  · exact hs
  · exact hs.step hstep

/-- **One step**: the two sides, each by its own moves. -/
theorem Kept.step {a : Label Payload} (hw : Kept w) (h : step unmarshal w a = some w') : Kept w' :=
  ⟨hw.sound.step h, (connSlot_step h).balanced hw.conns,
    (clientSlot_step hw.sound h).balanced hw.clients⟩

/-- In every reachable state both slots balance. -/
theorem reachable_kept {as : List (Label Payload)} (h : exec (step unmarshal) init as = some w) :
    Kept w :=
  exec_invariant (I := Kept) (fun _ _ _ hk hstep => hk.step hstep) init_kept h

theorem spareConns_eq (w : World Payload) : spareConns w = (connSlot w).spare := rfl

/-- The clients alive beside the one in use are the spare ones of the slot. -/
theorem spareClients_eq (w : World Payload) : spareClients w = (clientSlot w).spare := by
  unfold spareClients Slot.spare clientSlot
  dsimp only
  rw [List.length_map]
  refine List.countP_congr fun i _ => ?_
  rw [List.getElem?_map]

variable (unmarshal)

/-- **Connections left over.**  However the calls of `Setup` interleave, in every state the gRPC
    connections open besides the one in `clientConn`, and the MQTT clients alive besides the one in
    `mqttClient`, are each no more than the calls that began while another one was running. -/
theorem connections_bounded {as : List (Label Payload)} {w : World Payload}
    (h : exec (step unmarshal) init as = some w) :
    spareConns w ≤ w.overlapped ∧ spareClients w ≤ w.overlapped := by
  rw [spareConns_eq, spareClients_eq]
  exact ⟨(reachable_kept h).conns.surplus, (reachable_kept h).clients.surplus⟩

/-- Two calls that go on in turns, and what they leave. -/
theorem connections_bounded_twoCalls :
    ∃ w : World Unit, exec (step fun _ => some ⟨"", ""⟩) init
        ([.begin, .begin] ++ (List.replicate 6 [.setup 0 true, .setup 1 true]).flatten) = some w ∧
      spareConns w = 1 ∧ spareClients w = 1 ∧
      (spareConns w ≤ w.overlapped ∧ spareClients w ≤ w.overlapped) :=
  ⟨_, rfl, by decide, by decide,
    @connections_bounded Unit (fun _ => some ⟨"", ""⟩)
      ([.begin, .begin] ++ (List.replicate 6 [.setup 0 true, .setup 1 true]).flatten) _ rfl⟩

end ChirpStackSimulator.Connections
