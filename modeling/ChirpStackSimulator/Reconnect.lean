/-
  Subscriptions across reconnects (`NewGateway` in `simulator/gateway.go`, `internal/ns/mqtt.go`).

  A gateway's downlink commands come in on its command topic.  Both kinds of MQTT client use a clean
  session: the broker forgets what was subscribed when the connection is lost, and the client library
  restores the connection but not the subscriptions.  A client that `NewGateway` makes from options
  gets a handler that subscribes again after every connect.  The client of `ns.Setup`, which all
  gateways of the simulations share, has none; `NewGateway` subscribes once.

  1. **Clients** — options, connection, the broker's session, and the goroutines the handler has
     launched.
  2. **Steps** — simulations come and go and build gateways, connections are lost and restored, in any
     order.
  3. `Sound` says once what holds of the clients in every reachable world: a client with a handler that
     is connected and has no goroutine left has its topic subscribed (`Sound.served`).
  4. `subscribed_throughout_iff`: the law holds in every state of a run exactly if the shared client
     never reconnects while a live simulation has a gateway.
-/
import ChirpStackSimulator.Gateway
import ChirpStackSimulator.Lib.Objects
import ChirpStackSimulator.Lib.Run

namespace ChirpStackSimulator.Reconnect

open LoRaWAN Transition

/-! ## Clients -/

/-- `mqtt.ClientOptions`. -/
structure ClientOptions where
  cleanSession : Bool
  autoReconnect : Bool
  /-- The topic the `OnConnect` handler subscribes, if there is a handler. -/
  onConnect : Option String

/-- The options of `ns.Setup`. -/
def nsOptions : ClientOptions := ⟨true, true, none⟩

/-- The options of `WithMQTTCredentials` and `WithMQTTCertificates`. -/
def gatewayOptions : ClientOptions := ⟨true, true, none⟩

structure Client where
  opts : ClientOptions
  connected : Bool
  /-- The topics subscribed in the broker's session. -/
  session : List String
  /-- Goroutines of the handler that have not subscribed yet. -/
  resubscribing : Nat

namespace Client

/-- `mqtt.NewClient`. -/
def new (opts : ClientOptions) : Client := ⟨opts, false, [], 0⟩

/-- The connection is made, and the handler launches its goroutine. -/
def connect (c : Client) : Client :=
  { c with
    connected := true
    resubscribing := c.resubscribing + if c.opts.onConnect.isSome then 1 else 0 }

/-- The connection is lost. -/
def lose (c : Client) : Option Client :=
  if c.connected then
    some { c with connected := false, session := if c.opts.cleanSession then [] else c.session }
  else none

/-- The library has restored the connection. -/
def reconnect (c : Client) : Option Client :=
  if c.connected = false ∧ c.opts.autoReconnect then some c.connect else none

/-- `Subscribe`, which fails without a connection, and may fail with one. -/
def subscribe (c : Client) (topic : String) (granted : Bool) : Option Client :=
  if c.connected ∧ granted then some { c with session := topic :: c.session } else none

/-- One attempt of a goroutine of the handler; when it fails it tries again two seconds later. -/
def resubscribe (c : Client) (granted : Bool) : Option Client :=
  match c.opts.onConnect with
  | none => none
  | some topic =>
    if c.resubscribing = 0 then none else
    match c.subscribe topic granted with
    | none => some c
    | some c' => some { c' with resubscribing := c'.resubscribing - 1 }

end Client

/-! ## Gateways -/

structure Gateway where
  gatewayID : EUI64
  /-- The parsed template, by what it makes of a gateway id and a command. -/
  commandTopicTemplate : EUI64 → String → String
  /-- The client, by its position. -/
  mqtt : Nat
  /-- The simulation that builds it. -/
  sim : Nat
  /-- `NewGateway` has returned. -/
  built : Bool

def Gateway.getCommandTopic (g : Gateway) (command : String) : String :=
  g.commandTopicTemplate g.gatewayID command

structure World where
  /-- The first one is `ns.Client()`. -/
  clients : List Client
  gateways : List Gateway
  /-- The simulations, and whether they are live. -/
  sims : List Bool

/-- After `ns.Setup`. -/
def init : World := ⟨[(Client.new nsOptions).connect], [], []⟩

/-- The two ways `NewGateway` is given a client. -/
inductive Path where
  /-- `WithMQTTCredentials` or `WithMQTTCertificates`; `Connect` succeeds or fails. -/
  | options (connects : Bool)
  /-- `WithMQTTClient(ns.Client())`. -/
  | external

/-- `NewGateway` up to the subscription; with options that is all there is to it. -/
def newGateway (w : World) (sim : Nat) (gatewayID : EUI64) (template : EUI64 → String → String) :
    Path → World
  | .options false => w
  | .options true =>
    let opts := { gatewayOptions with onConnect := some (template gatewayID "down") }
    { w with
      clients := w.clients ++ [(Client.new opts).connect]
      gateways := w.gateways ++ [⟨gatewayID, template, w.clients.length, sim, true⟩] }
  | .external => { w with gateways := w.gateways ++ [⟨gatewayID, template, 0, sim, false⟩] }

/-- One attempt of the loop in `NewGateway` that subscribes on an external client; when it fails it
    tries again two seconds later. -/
def subscribe (w : World) (i : Nat) (granted : Bool) : Option World :=
  match w.gateways[i]? with
  | none => none
  | some g =>
    if g.built then none else
    match w.clients[g.mqtt]? with
    | none => none
    | some c =>
      match c.subscribe (g.getCommandTopic "down") granted with
      | none => some w
      | some c' => some { w with
          clients := w.clients.set g.mqtt c', gateways := w.gateways.set i { g with built := true } }

/-- A client goes from one state to the next. -/
def moveClient (w : World) (i : Nat) (move : Client → Option Client) : Option World :=
  match w.clients[i]? with
  | none => none
  | some c => (move c).map fun c' => { w with clients := w.clients.set i c' }

inductive Label where
  | newSimulation
  | endSimulation (sim : Nat)
  | newGateway (sim : Nat) (gatewayID : EUI64) (template : EUI64 → String → String) (path : Path)
  | subscribe (gateway : Nat) (granted : Bool)
  | resubscribe (client : Nat) (granted : Bool)
  | lose (client : Nat)
  | reconnect (client : Nat)

def step (w : World) : Label → Option World
  | .newSimulation => some { w with sims := w.sims ++ [true] }
  | .endSimulation sim => some { w with sims := w.sims.set sim false }
  | .newGateway sim gatewayID template path =>
    if w.sims[sim]? = some true then some (newGateway w sim gatewayID template path) else none
  | .subscribe i granted => subscribe w i granted
  | .resubscribe i granted => moveClient w i (Client.resubscribe · granted)
  | .lose i => moveClient w i Client.lose
  | .reconnect i => moveClient w i Client.reconnect

/-! ## The law -/

/-- The gateway is built and its simulation is live. -/
def Used (w : World) (g : Gateway) : Prop := g.built = true ∧ w.sims[g.sim]? = some true

/-- If the client is connected and its handler has nothing left to do, the topic is subscribed. -/
def Client.Serves (c : Client) (topic : String) : Prop :=
  c.connected = true → c.resubscribing = 0 → topic ∈ c.session

/-- The gateway's client serves the gateway's command topic. -/
def Served (w : World) (g : Gateway) : Prop :=
  ∀ c, w.clients[g.mqtt]? = some c → c.Serves (g.getCommandTopic "down")

/-- **Subscriptions survive**: so it is for every gateway of a live simulation. -/
def Subscribed (w : World) : Prop := ∀ g ∈ w.gateways, Used w g → Served w g

/-- No client without a handler reconnects under a gateway of a live simulation. -/
def Undisturbed (w : World) : Label → Prop
  | .reconnect i => ∀ c, w.clients[i]? = some c → c.connected = false → c.opts.onConnect = none →
      ∀ g ∈ w.gateways, g.mqtt = i → ¬ Used w g
  | _ => True

/-! ## What holds of the clients -/

/-- A client's session is empty while it is not connected; a client without a handler has no
    goroutines, and one with a handler serves the handler's topic. -/
structure Client.Sound (c : Client) : Prop where
  clean : c.opts.cleanSession = true
  forgotten : c.connected = false → c.session = []
  plain : c.opts.onConnect = none → c.resubscribing = 0
  handled : ∀ topic, c.opts.onConnect = some topic → c.Serves topic

namespace Client

variable {c c' : Client}

theorem Sound.connect_new {opts : ClientOptions} (hclean : opts.cleanSession = true) :
    ((new opts).connect).Sound where
  clean := hclean
  forgotten h := by cases h
  plain h := by
    have hnone : opts.onConnect = none := h
    simp [connect, new, hnone]
  handled topic h := by
    have hsome : opts.onConnect = some topic := h
    intro _ hzero
    simp [connect, new, hsome] at hzero

theorem Sound.lose (hc : c.Sound) (h : c.lose = some c') :
    c'.Sound ∧ c'.opts = c.opts ∧ ∀ topic, c'.Serves topic := by
  unfold Client.lose at h
  split at h
  · cases h
    refine ⟨⟨hc.clean, fun _ => if_pos hc.clean, hc.plain, fun topic _ hcon => ?_⟩, rfl,
      fun topic hcon => ?_⟩
    · cases hcon
    · cases hcon
  · cases h

/-- With a handler there is a goroutine after a reconnect; without one nothing is subscribed. -/
theorem Sound.reconnect (hc : c.Sound) (h : c.reconnect = some c') :
    c'.Sound ∧ c'.opts = c.opts ∧ c.connected = false ∧
      (c.opts.onConnect = none → ∀ topic, ¬ c'.Serves topic) := by
  unfold Client.reconnect at h
  split at h
  · rename_i hcond
    cases h
    have hsession : c.session = [] := hc.forgotten hcond.1
    refine ⟨⟨hc.clean, fun hcon => ?_, fun hnone => ?_, fun topic hsome _ hzero => ?_⟩, rfl, hcond.1,
      fun hnone topic hserves => ?_⟩
    · cases hcon
    · have hnone' : c.opts.onConnect = none := hnone
      simp [connect, hnone', hc.plain hnone']
    · have hsome' : c.opts.onConnect = some topic := hsome
      simp [connect, hsome'] at hzero
    · have hmem : topic ∈ c.session :=
        hserves rfl (by simp [connect, hnone, hc.plain hnone])
      rw [hsession] at hmem
      cases hmem
  · cases h

/-- A subscription adds its topic, and nothing that was served is lost. -/
theorem Sound.subscribe {topic : String} {granted : Bool} (hc : c.Sound)
    (h : c.subscribe topic granted = some c') :
    c'.Sound ∧ c'.opts = c.opts ∧ topic ∈ c'.session ∧ ∀ t, c.Serves t → c'.Serves t := by
  unfold Client.subscribe at h
  split at h
  · rename_i hcond
    cases h
    have hgrows : ∀ t, c.Serves t → Client.Serves { c with session := topic :: c.session } t :=
      fun t hserves hcon hzero => List.mem_cons_of_mem _ (hserves hcon hzero)
    refine ⟨⟨hc.clean, fun hcon => ?_, hc.plain, fun t ht => hgrows t (hc.handled t ht)⟩, rfl,
      List.mem_cons_self, hgrows⟩
    have hcon' : c.connected = false := hcon
    rw [hcon'] at hcond
    exact absurd hcond.1 (by decide)
  · cases h

/-- Only a client with a handler has goroutines that subscribe. -/
theorem Sound.resubscribe {granted : Bool} (hc : c.Sound) (h : c.resubscribe granted = some c') :
    c'.Sound ∧ c'.opts = c.opts ∧ c.opts.onConnect ≠ none := by
  unfold Client.resubscribe at h
  split at h
  · cases h
  · rename_i topic hsome
    have hne : c.opts.onConnect ≠ none := by simp [hsome]
    split at h
    · cases h
    · split at h
      · cases h
        exact ⟨hc, rfl, hne⟩
      · rename_i c₁ hsub
        cases h
        obtain ⟨hsound, hopts, hmem, -⟩ := hc.subscribe hsub
        refine ⟨⟨hsound.clean, hsound.forgotten, fun hnone => ?_, fun t ht hcon _ => ?_⟩, hopts, hne⟩
        · exact absurd (hopts ▸ hnone) hne
        · have ht' : c₁.opts.onConnect = some t := ht
          rw [hopts, hsome] at ht'
          obtain rfl := Option.some.inj ht'
          exact hmem

end Client

/-- Every client is sound, every gateway has one and a simulation, and a gateway on a client with a
    handler is the gateway the handler is for. -/
structure Sound (w : World) : Prop where
  clients : ∀ (i : Nat) (c : Client), w.clients[i]? = some c → c.Sound
  onClient : ∀ g ∈ w.gateways, g.mqtt < w.clients.length
  own : ∀ g ∈ w.gateways, ∀ c, w.clients[g.mqtt]? = some c → ∀ topic, c.opts.onConnect = some topic →
    topic = g.getCommandTopic "down"
  shared : ∃ c, w.clients[0]? = some c ∧ c.opts.onConnect = none
  ofSim : ∀ g ∈ w.gateways, g.sim < w.sims.length

/-- **A gateway with a client of its own is served**, whatever the connection has been through. -/
theorem Sound.served {w : World} (hw : Sound w) {g : Gateway} (hg : g ∈ w.gateways) {c : Client}
    (hc : w.clients[g.mqtt]? = some c) (hhandler : c.opts.onConnect ≠ none) : Served w g := by
  intro c' hc'
  obtain rfl : c = c' := Option.some.inj (hc.symm.trans hc')
  obtain ⟨topic, htopic⟩ := Option.ne_none_iff_exists'.mp hhandler
  obtain rfl := hw.own g hg c hc topic htopic
  exact (hw.clients _ c hc).handled _ htopic

/-- A client is replaced by a sound one with the same options. -/
theorem sound_setClient {w : World} (hw : Sound w) {i : Nat} {c c' : Client}
    (hc : w.clients[i]? = some c) (hsound : c'.Sound) (hopts : c'.opts = c.opts) :
    Sound { w with clients := w.clients.set i c' } := by
  refine ⟨fun j d hd => ?_, fun g hg => ?_, fun g hg d hd topic htopic => ?_, ?_, hw.ofSim⟩
  · rcases Objects.of_lookup_set hd with ⟨-, rfl⟩ | ⟨-, hd⟩
    · exact hsound
    · exact hw.clients j d hd
  · show g.mqtt < (w.clients.set i c').length
    rw [List.length_set]
    exact hw.onClient g hg
  · rcases Objects.of_lookup_set hd with ⟨hi, rfl⟩ | ⟨-, hd⟩
    · exact hw.own g hg c (hi ▸ hc) topic (hopts ▸ htopic)
    · exact hw.own g hg d hd topic htopic
  · obtain ⟨d, hd, hnone⟩ := hw.shared
    by_cases hi : i = 0
    · subst hi
      obtain rfl : c = d := Option.some.inj (hc.symm.trans hd)
      exact ⟨c', by simp [(List.getElem?_eq_some_iff.mp hc).1], hopts ▸ hnone⟩
    · exact ⟨d, by simpa [hi] using hd, hnone⟩

theorem moveClient_cases {w w' : World} {i : Nat} {move : Client → Option Client}
    (h : moveClient w i move = some w') :
    ∃ c c', w.clients[i]? = some c ∧ move c = some c' ∧
      w' = { w with clients := w.clients.set i c' } := by
  unfold moveClient at h
  split at h
  · cases h
  · rename_i c hc
    obtain ⟨c', hc', rfl⟩ := Option.map_eq_some_iff.mp h
    exact ⟨c, c', hc, hc', rfl⟩

/-- An attempt of `NewGateway` to subscribe fails, or the gateway's topic is subscribed and it is
    built. -/
theorem subscribe_cases {w w' : World} {i : Nat} {granted : Bool}
    (h : subscribe w i granted = some w') :
    w' = w ∨ ∃ g c c', w.gateways[i]? = some g ∧ w.clients[g.mqtt]? = some c ∧
      c.subscribe (g.getCommandTopic "down") granted = some c' ∧
      w' = { w with
        clients := w.clients.set g.mqtt c', gateways := w.gateways.set i { g with built := true } } := by
  unfold subscribe at h
  split at h
  · cases h
  · rename_i g hg
    split at h
    · cases h
    · split at h
      · cases h
      · rename_i c hc
        split at h
        · exact Or.inl (Option.some.inj h).symm
        · rename_i c' hc'
          exact Or.inr ⟨g, c, c', hg, hc, hc', (Option.some.inj h).symm⟩

/-- A gateway object is added that has its client. -/
theorem sound_addGateway {w : World} (hw : Sound w) {g : Gateway} {c : Client}
    (hc : w.clients[g.mqtt]? = some c) (hsim : g.sim < w.sims.length)
    (hown : ∀ topic, c.opts.onConnect = some topic → topic = g.getCommandTopic "down") :
    Sound { w with gateways := w.gateways ++ [g] } := by
  refine ⟨hw.clients, fun g' hg' => ?_, fun g' hg' c' hc' topic htopic => ?_, hw.shared,
    fun g' hg' => ?_⟩
  · rcases List.mem_append.mp hg' with hg' | hg'
    · exact hw.onClient g' hg'
    · obtain rfl := List.mem_singleton.mp hg'
      exact (List.getElem?_eq_some_iff.mp hc).1
  · rcases List.mem_append.mp hg' with hg' | hg'
    · exact hw.own g' hg' c' hc' topic htopic
    · obtain rfl := List.mem_singleton.mp hg'
      obtain rfl : c = c' := Option.some.inj (hc.symm.trans hc')
      exact hown topic htopic
  · rcases List.mem_append.mp hg' with hg' | hg'
    · exact hw.ofSim g' hg'
    · obtain rfl := List.mem_singleton.mp hg'
      exact hsim

/-- A client is added. -/
theorem sound_addClient {w : World} (hw : Sound w) {c : Client} (hc : c.Sound) :
    Sound { w with clients := w.clients ++ [c] } := by
  refine ⟨fun j d hd => ?_, fun g hg => ?_, fun g hg d hd => ?_, ?_, hw.ofSim⟩
  · rcases Objects.lookup_append.mp hd with hd | ⟨-, rfl⟩
    · exact hw.clients j d hd
    · exact hc
  · show g.mqtt < (w.clients ++ [c]).length
    have := hw.onClient g hg
    rw [List.length_append]
    omega
  · rcases Objects.lookup_append.mp hd with hd | ⟨hnew, -⟩
    · exact hw.own g hg d hd
    · exact absurd hnew (Nat.ne_of_lt (hw.onClient g hg))
  · obtain ⟨d, hd, hnone⟩ := hw.shared
    exact ⟨d, Objects.append_kept hd _, hnone⟩

/-- A gateway is built: nothing is said about that. -/
theorem sound_setBuilt {w : World} (hw : Sound w) {i : Nat} {g : Gateway}
    (hg : w.gateways[i]? = some g) :
    Sound { w with gateways := w.gateways.set i { g with built := true } } := by
  refine ⟨hw.clients, fun g' hg' => ?_, fun g' hg' c hc topic htopic => ?_, hw.shared,
    fun g' hg' => ?_⟩
  · rcases List.mem_or_eq_of_mem_set hg' with hg' | rfl
    · exact hw.onClient g' hg'
    · exact hw.onClient g (List.mem_of_getElem? hg)
  · rcases List.mem_or_eq_of_mem_set hg' with hg' | rfl
    · exact hw.own g' hg' c hc topic htopic
    · exact hw.own g (List.mem_of_getElem? hg) c hc topic htopic
  · rcases List.mem_or_eq_of_mem_set hg' with hg' | rfl
    · exact hw.ofSim g' hg'
    · exact hw.ofSim g (List.mem_of_getElem? hg)

theorem sound_step {w w' : World} {a : Label} (hw : Sound w) (h : step w a = some w') : Sound w' := by
  cases a with
  | newSimulation =>
    cases h
    refine ⟨hw.clients, hw.onClient, hw.own, hw.shared, fun g hg => ?_⟩
    have := hw.ofSim g hg
    show g.sim < (w.sims ++ [true]).length
    rw [List.length_append]
    omega
  | endSimulation sim =>
    cases h
    refine ⟨hw.clients, hw.onClient, hw.own, hw.shared, fun g hg => ?_⟩
    show g.sim < (w.sims.set sim false).length
    rw [List.length_set]
    exact hw.ofSim g hg
  | newGateway sim gatewayID template path =>
    simp only [step] at h
    split at h
    · rename_i hlive
      cases h
      have hsim : sim < w.sims.length := (List.getElem?_eq_some_iff.mp hlive).1
      match path with
      | .options false => exact hw
      | .options true =>
        have hclean : ({ gatewayOptions with onConnect := some (template gatewayID "down") } :
            ClientOptions).cleanSession = true := rfl
        have hnew := sound_addClient hw (Client.Sound.connect_new hclean)
        refine sound_addGateway hnew
          (g := ⟨gatewayID, template, w.clients.length, sim, true⟩) (List.getElem?_concat_length ..)
          hsim fun topic htopic => ?_
        exact (Option.some.inj htopic).symm
      | .external =>
        obtain ⟨c, hc, hnone⟩ := hw.shared
        refine sound_addGateway hw (g := ⟨gatewayID, template, 0, sim, false⟩) hc hsim
          fun topic htopic => ?_
        rw [hnone] at htopic
        cases htopic
    · cases h
  | subscribe i granted =>
    rcases subscribe_cases h with rfl | ⟨g, c, c', hg, hc, hsub, rfl⟩
    · exact hw
    · obtain ⟨hsound, hopts, -, -⟩ := (hw.clients _ c hc).subscribe hsub
      exact sound_setBuilt (sound_setClient hw hc hsound hopts) hg
  | resubscribe i granted =>
    obtain ⟨c, c', hc, hmove, rfl⟩ := moveClient_cases h
    obtain ⟨hsound, hopts, -⟩ := (hw.clients i c hc).resubscribe hmove
    exact sound_setClient hw hc hsound hopts
  | lose i =>
    obtain ⟨c, c', hc, hmove, rfl⟩ := moveClient_cases h
    obtain ⟨hsound, hopts, -⟩ := (hw.clients i c hc).lose hmove
    exact sound_setClient hw hc hsound hopts
  | reconnect i =>
    obtain ⟨c, c', hc, hmove, rfl⟩ := moveClient_cases h
    obtain ⟨hsound, hopts, -, -⟩ := (hw.clients i c hc).reconnect hmove
    exact sound_setClient hw hc hsound hopts

/-! ## What a step does to the law -/

/-- A client is moved such that what it served it still serves, if it has no handler. -/
theorem subscribed_setClient {w : World} {i : Nat} {c c' : Client} {gateways : List Gateway}
    (hnew : Sound { w with clients := w.clients.set i c', gateways := gateways })
    (hc : w.clients[i]? = some c)
    (hkeeps : c'.opts.onConnect = none → ∀ topic, c.Serves topic → c'.Serves topic)
    (hgateways : ∀ g ∈ gateways, Used w g → (g.mqtt = i ∧ c'.Serves (g.getCommandTopic "down")) ∨
      g ∈ w.gateways)
    (hw : Subscribed w) :
    Subscribed { w with clients := w.clients.set i c', gateways := gateways } := by
  intro g hg hused d hd
  have hd' : (w.clients.set i c')[g.mqtt]? = some d := hd
  by_cases hhandler : d.opts.onConnect = none
  · have hset : (w.clients.set i c')[i]? = some c' := Objects.set_self hc
    rcases hgateways g hg hused with ⟨hi, hserves⟩ | hold
    · rw [hi, hset] at hd'
      obtain rfl := Option.some.inj hd'
      exact hserves
    · rcases Objects.of_lookup_set hd' with ⟨hi, rfl⟩ | ⟨-, hd'⟩
      · exact hkeeps hhandler _ (hw g hold hused c (by rw [hi]; exact hc))
      · exact hw g hold hused d hd'
  · exact hnew.served hg hd hhandler d hd

theorem subscribed_step {w w' : World} {a : Label} (hw : Sound w) (hsub : Subscribed w)
    (h : step w a = some w') : Subscribed w' ↔ Undisturbed w a := by
  have hw' : Sound w' := sound_step hw h
  cases a with
  | newSimulation =>
    cases h
    refine iff_of_true (fun g hg hused => ?_) trivial
    have hsim : (w.sims ++ [true])[g.sim]? = some true := hused.2
    rw [List.getElem?_append_left (hw.ofSim g hg)] at hsim
    exact hsub g hg ⟨hused.1, hsim⟩
  | endSimulation sim =>
    cases h
    refine iff_of_true (fun g hg hused => ?_) trivial
    rcases Objects.of_lookup_set hused.2 with ⟨-, hfalse⟩ | ⟨-, hsim⟩
    · cases hfalse
    · exact hsub g hg ⟨hused.1, hsim⟩
  | newGateway sim gatewayID template path =>
    refine iff_of_true (fun g hg hused => ?_) trivial
    simp only [step] at h
    split at h
    · cases h
      match path with
      | .options false => exact hsub g hg hused
      | .options true =>
        rcases List.mem_append.mp hg with hold | hnew
        · intro c hc
          have hc' : (w.clients ++ _)[g.mqtt]? = some c := hc
          rw [List.getElem?_append_left (hw.onClient g hold)] at hc'
          exact hsub g hold hused c hc'
        · -- a new client with its handler
          obtain rfl := List.mem_singleton.mp hnew
          exact hw'.served hg (List.getElem?_concat_length ..) (Option.some_ne_none _)
      | .external =>
        rcases List.mem_append.mp hg with hold | hnew
        · exact hsub g hold hused
        · -- it has not subscribed yet
          obtain rfl := List.mem_singleton.mp hnew
          cases hused.1
    · cases h
  | subscribe i granted =>
    refine iff_of_true ?_ trivial
    rcases subscribe_cases h with rfl | ⟨g, c, c', hg, hc, hgranted, rfl⟩
    · exact hsub
    · obtain ⟨-, -, hmem, hgrows⟩ := (hw.clients _ c hc).subscribe hgranted
      refine subscribed_setClient hw' hc (fun _ => hgrows) (fun g' hg' _ => ?_) hsub
      rcases List.mem_or_eq_of_mem_set hg' with hg' | rfl
      · exact Or.inr hg'
      · exact Or.inl ⟨rfl, fun _ _ => hmem⟩
  | resubscribe i granted =>
    refine iff_of_true ?_ trivial
    obtain ⟨c, c', hc, hmove, rfl⟩ := moveClient_cases h
    obtain ⟨-, hopts, hne⟩ := (hw.clients i c hc).resubscribe hmove
    exact subscribed_setClient hw' hc (fun hnone => absurd (hopts ▸ hnone) hne)
      (fun g hg _ => Or.inr hg) hsub
  | lose i =>
    refine iff_of_true ?_ trivial
    obtain ⟨c, c', hc, hmove, rfl⟩ := moveClient_cases h
    obtain ⟨-, -, hserves⟩ := (hw.clients i c hc).lose hmove
    exact subscribed_setClient hw' hc (fun _ topic _ => hserves topic) (fun g hg _ => Or.inr hg) hsub
  | reconnect i =>
    obtain ⟨c, c', hc, hmove, rfl⟩ := moveClient_cases h
    obtain ⟨-, hopts, hdisc, hbare⟩ := (hw.clients i c hc).reconnect hmove
    have hset : (w.clients.set i c')[i]? = some c' := Objects.set_self hc
    constructor
    · intro hsub' d hd _ hnone g hg hi hused
      obtain rfl : c = d := Option.some.inj (hc.symm.trans hd)
      exact hbare hnone _ (hsub' g hg hused c' (by rw [hi]; exact hset))
    · intro hund g hg hused d hd
      by_cases hhandler : d.opts.onConnect = none
      · rcases Objects.of_lookup_set hd with ⟨hi, rfl⟩ | ⟨-, hd'⟩
        · exact absurd hused (hund c hc hdisc (hopts ▸ hhandler) g hg hi)
        · exact hsub g hg hused d hd'
      · exact hw'.served hg hd hhandler d hd

theorem sound_init : Sound init where
  clients i c hc := by
    obtain rfl := List.mem_singleton.mp (List.mem_of_getElem? hc)
    exact Client.Sound.connect_new rfl
  onClient g hg := absurd hg List.not_mem_nil
  own g hg := absurd hg List.not_mem_nil
  shared := ⟨_, rfl, rfl⟩
  ofSim g hg := absurd hg List.not_mem_nil

/-- **Subscriptions and reconnects**: in every run of simulations, gateways, losses and reconnects
    every gateway of a live simulation is subscribed in all states, as far as its client is connected
    and has nothing left to do, exactly if the shared client never reconnects under such a gateway. -/
theorem subscribed_throughout_iff {ls : List Label} {w : World} (hrun : exec step init ls = some w) :
    Throughout step Subscribed init ls ↔ Always step Undisturbed init ls :=
  throughout_iff_always (fun _ _ _ hw h => sound_step hw h)
    (fun _ _ _ hw hsub h => subscribed_step hw hsub h) sound_init
    (fun _ hg => absurd hg List.not_mem_nil) hrun

/-! ## Two gateways -/

/-- `eu868/gateway/<GatewayID>/command/<Command>`. -/
def eu868 (gatewayID : EUI64) (command : String) : String :=
  Downstream.topic gatewayID "command" command

/-- A simulation with a gateway on the shared client. -/
def oneGateway : List Label :=
  [.newSimulation, .newGateway 0 (Vector.replicate 8 1) eu868 .external, .subscribe 0 true]

/-- A second gateway has a client of its own that reconnects, the shared one reconnects after the
    simulation. -/
theorem subscribed_ownClient : Throughout step Subscribed init
    (oneGateway ++ [.newGateway 0 (Vector.replicate 8 2) eu868 (.options true), .resubscribe 1 true,
      .lose 1, .reconnect 1, .resubscribe 1 true, .endSimulation 0, .lose 0, .reconnect 0]) := by
  refine (subscribed_throughout_iff rfl).mpr ?_
  iterate 6
    refine ⟨trivial, fun w hw => ?_⟩
    obtain rfl := Option.some.inj hw
  refine ⟨fun c hc _ hnone => ?_, fun w hw => ?_⟩
  · obtain rfl := Option.some.inj hc
    cases hnone
  obtain rfl := Option.some.inj hw
  iterate 3
    refine ⟨trivial, fun w hw => ?_⟩
    obtain rfl := Option.some.inj hw
  refine ⟨fun c _ _ _ g hg _ hused => ?_, fun _ _ => trivial⟩
  -- the only simulation has ended
  rcases List.mem_cons.mp hg with rfl | hg
  · cases hused.2
  · obtain rfl := List.mem_singleton.mp hg
    cases hused.2

/-- The shared client loses its connection and is connected again: the gateway's topic is not
    subscribed any more. -/
theorem not_subscribed_reconnected : ¬ Throughout step Subscribed init
    (oneGateway ++ [.lose 0, .reconnect 0]) := by
  intro h
  have hserved := h.last rfl _ List.mem_cons_self ⟨rfl, rfl⟩ _ rfl rfl rfl
  cases hserved

end ChirpStackSimulator.Reconnect
