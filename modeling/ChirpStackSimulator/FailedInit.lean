/-
  What runs after a failed initialisation (`simulation.start`).

  `start` logs the error of `init` and goes on to `runSimulation` with whatever `init` has loaded until
  then.  Whether that is anything can be read off the answers `init` got: a gateway id comes from a
  listing of gateways or from the creation of one, a device from its keys.

  1. **The law** — `NothingRuns`: no gateway and no device comes into being, and the run's wait group
     is signalled once.
  2. **`init`** — it makes no gateway and no device itself (`keeps_init`); what it has loaded at its end
     tells whether it was given a gateway (`noGateways_iff`), and a device (`noDevices_iff`).
  3. **After `init`** — with nothing loaded nothing runs, and neither does anything if the first
     gateway cannot be built; in every other case something does.
  4. `nothingRuns_iff`, and an initialisation that fails at the second of two devices.
-/
import ChirpStackSimulator.Setup

namespace ChirpStackSimulator.Setup

open LoRaWAN

/-! ## The law -/

/-- A gateway or a device comes into being. -/
def Creates : Call → Prop
  | .newGateway _ | .newDevice _ => True
  | _ => False

instance : DecidablePred Creates := fun c => by
  cases c <;> unfold Creates <;> infer_instance

/-- The run's wait group is signalled. -/
def isWgDone : Call → Bool
  | .wgDone => true
  | _ => false

/-- **Nothing runs**: no gateway and no device is made, and the run is signalled exactly once. -/
structure NothingRuns (es : List (Prog.Event Call.Answer)) : Prop where
  creates : ∀ e ∈ es, ¬ Creates e.call
  signals : es.countP (fun e => isWgDone e.call) = 1

section
variable (lib : Parsers)

/-- The answer gives the simulation a gateway: a listing with an id that parses, or a gateway that
    was created. -/
def GivesGateway : (c : Call) → c.Answer → Prop
  | .rpc (.listGateways _ _), .ok gateways => parsedGateways lib gateways ≠ []
  | .rpc (.createGateway _), .ok _ => True
  | _, _ => False

/-- The answer gives it a device: the keys of an enabled device, old or new, with a usable one. -/
def GivesDevice : (c : Call) → c.Answer → Prop
  | .rpc (.getKeys _), .ok keys => ∃ appKey, lib.aes128Key (keyText keys) = .ok appKey
  | .rpc (.createKeys keys), none => ∃ appKey, lib.aes128Key keys.nwkKey = .ok appKey
  | _, _ => False

variable (sim : Simulation)

/-- Both topic templates of the gateways parse. -/
def TemplatesParse : Prop :=
  lib.template sim.eventTopicTemplate = .ok () ∧ lib.template sim.commandTopicTemplate = .ok ()

/-! ## `init` -/

/-- Neither a gateway or device is made, nor is the run signalled. -/
def Quiet (c : Call) : Prop := ¬ Creates c ∧ isWgDone c = false

/-- The call is quiet, and no answer to it gives the simulation anything. -/
def Neutral (c : Call) : Prop :=
  Quiet c ∧ (∀ x, ¬ GivesGateway lib c x) ∧ ∀ x, ¬ GivesDevice lib c x

/-- Gateways and devices are left as they are. -/
def SameLoaded (s : Loaded) (r : Loaded × Ending) : Prop :=
  r.1.gatewayIDs = s.gatewayIDs ∧ r.1.deviceAppKeys = s.deviceAppKeys

/-- The contract of the steps that have nothing to do with gateways and devices. -/
def Aside (s : Loaded) (p : SetupStep) : Prop :=
  p.Keeps (fun _ _ => True) (Neutral lib) (SameLoaded s)

/-- The contract of the gateway set-up: it has nothing to do with devices. -/
def AsideDevices (s : Loaded) (p : SetupStep) : Prop :=
  p.Keeps (fun _ _ => True) (fun c => Quiet c ∧ ∀ x, ¬ GivesDevice lib c x)
    fun r => r.1.deviceAppKeys = s.deviceAppKeys

/-- The contract of the device set-up: it has nothing to do with gateways. -/
def AsideGateways (s : Loaded) (p : SetupStep) : Prop :=
  p.Keeps (fun _ _ => True) (fun c => Quiet c ∧ ∀ x, ¬ GivesGateway lib c x)
    fun r => r.1.gatewayIDs = s.gatewayIDs

/-- A call that gives neither gateways nor devices by its kind. -/
theorem neutral_of_false {c : Call} (h : Quiet c) (hg : ∀ x, GivesGateway lib c x = False)
    (hd : ∀ x, GivesDevice lib c x = False) : Neutral lib c :=
  ⟨h, fun x hx => (hg x).mp hx, fun x hx => (hd x).mp hx⟩

/-- Four steps of `init` load neither gateways nor devices. -/
theorem aside_setupTenant (s : Loaded) : Aside lib s (setupTenant sim s) := by
  refine Prog.Keeps.ask_bind (neutral_of_false lib ⟨id, rfl⟩ (fun _ => rfl) fun _ => rfl) fun x _ => ?_
  cases x with
  | error e => exact ⟨rfl, rfl⟩
  | ok tenant => exact ⟨rfl, rfl⟩

theorem aside_setProfile (s : Loaded) (id : String) : Aside lib s (setProfile lib s id) := by
  unfold setProfile
  cases lib.uuid id with
  | error e => exact ⟨rfl, rfl⟩
  | ok uuid => exact ⟨rfl, rfl⟩

theorem aside_setupDeviceProfile (s : Loaded) : Aside lib s (setupDeviceProfile lib sim s) := by
  refine Prog.Keeps.ask_bind (neutral_of_false lib ⟨id, rfl⟩ (fun _ => rfl) fun _ => rfl) fun x _ => ?_
  cases x with
  | error e => exact ⟨rfl, rfl⟩
  | ok profiles =>
    dsimp only
    split
    · split
      · exact ⟨rfl, rfl⟩
      · split <;> exact aside_setProfile lib s _
    · split
      · exact aside_setProfile lib s _
      · refine Prog.Keeps.ask_bind (neutral_of_false lib ⟨id, rfl⟩ (fun _ => rfl) fun _ => rfl)
          fun x _ => ?_
        cases x with
        | error e => exact ⟨rfl, rfl⟩
        | ok id => exact aside_setProfile lib s id

theorem aside_setupApplication (s : Loaded) : Aside lib s (setupApplication sim s) := by
  refine Prog.Keeps.ask_bind (neutral_of_false lib ⟨id, rfl⟩ (fun _ => rfl) fun _ => rfl) fun x _ => ?_
  cases x with
  | error e => exact ⟨rfl, rfl⟩
  | ok apps =>
    dsimp only
    split
    · split
      · exact ⟨rfl, rfl⟩
      · refine Prog.Keeps.ask_bind (neutral_of_false lib ⟨id, rfl⟩ (fun _ => rfl) fun _ => rfl)
          fun x _ => ?_
        match x with
        | .error e => exact ⟨rfl, rfl⟩
        | .ok [] => exact ⟨rfl, rfl⟩
        | .ok (first :: _) => exact ⟨rfl, rfl⟩
    · split
      · exact ⟨rfl, rfl⟩
      · refine Prog.Keeps.ask_bind (neutral_of_false lib ⟨id, rfl⟩ (fun _ => rfl) fun _ => rfl)
          fun x _ => ?_
        cases x with
        | error e => exact ⟨rfl, rfl⟩
        | ok id => exact ⟨rfl, rfl⟩

theorem aside_setupApplicationIntegration (s : Loaded) :
    Aside lib s (setupApplicationIntegration s) := by
  refine Prog.Keeps.ask_bind (neutral_of_false lib ⟨id, rfl⟩ (fun _ => rfl) fun _ => rfl) fun x _ => ?_
  cases x with
  | none => exact ⟨rfl, rfl⟩
  | some e => exact ⟨rfl, rfl⟩

variable {lib}

/-- Such a step makes nothing. -/
theorem Aside.quiet {s : Loaded} {p : SetupStep} (h : Aside lib s p) :
    p.Keeps (fun _ _ => True) Quiet fun _ => True :=
  (Prog.Keeps.mono_calls (fun _ hc => hc.1) h).mono fun _ _ => trivial

/-- Such a step keeps the account of the gateways. -/
theorem Aside.records_gateways {s : Loaded} {p : SetupStep} (h : Aside lib s p) :
    p.Records (GivesGateway lib) (fun r => r.1.gatewayIDs = []) (s.gatewayIDs = []) := by
  refine Prog.Records.of_keeps ((Prog.Keeps.mono_calls (fun _ hc => hc.2.1) h).mono fun r hr => ?_)
  rw [hr.1]

/-- And it keeps the account of the devices. -/
theorem Aside.records_devices {s : Loaded} {p : SetupStep} (h : Aside lib s p) :
    p.Records (GivesDevice lib) (fun r => r.1.deviceAppKeys = []) (s.deviceAppKeys = []) := by
  refine Prog.Records.of_keeps ((Prog.Keeps.mono_calls (fun _ hc => hc.2.2) h).mono fun r hr => ?_)
  rw [hr.2]

/-! ### Gateways -/

variable (lib) in
theorem asideDevices_createGateways (n : Nat) (s : Loaded) :
    AsideDevices lib s (createGateways n s) := by
  induction n generalizing s with
  | zero => exact rfl
  | succ n ih =>
    refine Prog.Keeps.ask_bind ⟨⟨id, rfl⟩, fun _ h => h⟩ fun x _ => ?_
    cases x with
    | error e => exact rfl
    | ok gatewayID =>
      refine Prog.Keeps.ask_bind ⟨⟨id, rfl⟩, fun _ h => h⟩ fun x _ => ?_
      cases x with
      | error e => exact rfl
      | ok _ => exact ih { s with gatewayIDs := s.gatewayIDs ++ [gatewayID] }

variable (lib) in
/-- The gateway set-up gives no device, in either mode. -/
theorem asideDevices_setupGateways (s : Loaded) :
    AsideDevices lib s (setupGateways lib sim s) := by
  unfold setupGateways
  split
  · refine Prog.Keeps.ask_bind ⟨⟨id, rfl⟩, fun _ h => h⟩ fun x _ => ?_
    cases x with
    | error e => exact rfl
    | ok gateways =>
      dsimp only
      split
      · exact rfl
      · exact rfl
  · exact asideDevices_createGateways lib _ s

/-- A gateway that was created is loaded, whatever becomes of the next; by induction on how many are
    to be created. -/
theorem records_createGateways (n : Nat) (s : Loaded) :
    (createGateways n s).Records (GivesGateway lib) (fun r => r.1.gatewayIDs = [])
      (s.gatewayIDs = []) := by
  induction n generalizing s with
  | zero => exact Iff.rfl
  | succ n ih =>
    refine Prog.Records.ask_bind fun x => ?_
    cases x with
    | error e => simp [GivesGateway]
    | ok gatewayID =>
      refine Prog.Records.ask_bind fun x => ?_
      cases x with
      | error e => simp [GivesGateway]
      | ok _ =>
        -- from here on there is a gateway
        refine (ih { s with gatewayIDs := s.gatewayIDs ++ [gatewayID] }).congr ?_
        simp [GivesGateway]

/-- **Gateways are loaded exactly if an answer gave one.** -/
theorem records_setupGateways (s : Loaded) :
    (setupGateways lib sim s).Records (GivesGateway lib) (fun r => r.1.gatewayIDs = [])
      (s.gatewayIDs = []) := by
  unfold setupGateways
  split
  · refine Prog.Records.ask_bind fun x => ?_
    cases x with
    | error e => simp [GivesGateway]
    | ok gateways =>
      dsimp only
      split
      · simp [GivesGateway]
      · simp [GivesGateway]
  · exact records_createGateways _ s

/-! ### Devices -/

/-- A map that was written to is not empty. -/
theorem mapSet_ne_nil {κ ν : Type} [DecidableEq κ] (m : List (κ × ν)) (k : κ) (v : ν) :
    mapSet m k v ≠ [] := by
  simp [mapSet]

/-- The listing alone gives no device. -/
theorem neutral_listAllDevices (applicationID : String) (fuel : Nat) (offset : UInt32)
    (allDevices : List DeviceListItem) :
    (listAllDevices applicationID fuel offset allDevices).Keeps (fun _ _ => True) (Neutral lib)
      fun _ => True := by
  induction fuel generalizing offset allDevices with
  | zero => trivial
  | succ fuel ih =>
    refine Prog.Keeps.ask_bind (neutral_of_false lib ⟨id, rfl⟩ (fun _ => rfl) fun _ => rfl)
      fun x _ => ?_
    cases x with
    | error e => trivial
    | ok results =>
      dsimp only
      split
      · trivial
      · split
        · trivial
        · exact ih _ _

/-- The key of a device gives no gateway. -/
theorem quiet_deviceKey (item : DeviceListItem) :
    (deviceKey lib item).Keeps (fun _ _ => True) (fun c => Quiet c ∧ ∀ x, ¬ GivesGateway lib c x)
      fun _ => True := by
  refine Prog.Keeps.ask_bind ⟨⟨id, rfl⟩, fun _ h => h⟩ fun x _ => ?_
  cases x with
  | error e =>
    dsimp only
    split
    · refine Prog.Keeps.ask_bind ⟨⟨id, rfl⟩, fun _ h => h⟩ fun x _ => ?_
      cases x with
      | error e => trivial
      | ok bytes =>
        refine Prog.Keeps.ask_bind ⟨⟨id, rfl⟩, fun _ h => h⟩ fun x _ => ?_
        cases x with
        | none => trivial
        | some e => trivial
    · trivial
  | ok keys =>
    dsimp only
    split
    · exact Prog.Keeps.ask_bind ⟨⟨id, rfl⟩, fun _ h => h⟩ fun _ _ => trivial
    · trivial

theorem asideGateways_loadDevice (s : Loaded) (item : DeviceListItem) :
    AsideGateways lib s (loadDevice lib s item) := by
  unfold loadDevice
  split
  · exact rfl
  · refine Prog.Keeps.ask_bind ⟨⟨id, rfl⟩, fun _ h => h⟩ fun x _ => ?_
    cases x with
    | error e => exact rfl
    | ok device =>
      dsimp only
      split
      · exact rfl
      · refine Prog.Keeps.bind (quiet_deviceKey item) fun x _ => ?_
        cases x with
        | none => exact rfl
        | some appKey => exact rfl

/-- A device without a usable key is left out. -/
theorem records_deviceKey (item : DeviceListItem) :
    (deviceKey lib item).Records (GivesDevice lib) (fun appKey => appKey = none) True := by
  have htoOption : ∀ text, (lib.aes128Key text).toOption = none ↔
      ¬ ∃ appKey, lib.aes128Key text = .ok appKey := by
    intro text
    cases lib.aes128Key text <;> simp [Except.toOption]
  refine Prog.Records.ask_bind fun x => ?_
  cases x with
  | error e =>
    dsimp only
    split
    · refine Prog.Records.ask_bind fun x => ?_
      cases x with
      | error e => simp [GivesDevice]
      | ok bytes =>
        refine Prog.Records.ask_bind fun x => ?_
        cases x with
        | none => simp [GivesDevice, htoOption]
        | some e => simp [GivesDevice]
    · simp [GivesDevice]
  | ok keys =>
    dsimp only
    split
    · refine Prog.Records.ask_bind fun x => ?_
      simp [GivesDevice, htoOption]
    · simp [GivesDevice, htoOption]

/-- A device is loaded exactly if an answer gave its key. -/
theorem records_loadDevice (s : Loaded) (item : DeviceListItem) :
    (loadDevice lib s item).Records (GivesDevice lib) (fun r => r.1.deviceAppKeys = [])
      (s.deviceAppKeys = []) := by
  unfold loadDevice
  split
  · exact Iff.rfl
  · refine Prog.Records.ask_bind fun x => ?_
    cases x with
    | error e => simp [GivesDevice]
    | ok device =>
      dsimp only
      split
      · simp [GivesDevice]
      · refine Prog.Records.congr (Prog.Records.bind ((records_deviceKey item).and_const
          (s.deviceAppKeys = [])) fun appKey => ?_) (by simp [GivesDevice])
        cases appKey with
        | none => simp
        | some appKey => simp [mapSet_ne_nil]

/-! ### The steps together -/

section
variable {Q G : (c : Call) → c.Answer → Prop} {P : Call → Prop} {I J K : Loaded → Prop} {b : Prop}
  {R R' : Loaded × Ending → Prop} {p : SetupStep} {q : Loaded → SetupStep}

/-- A step after a step, for contracts: the second is taken after an `ok`, any other ending is the
    ending of both. -/
theorem keeps_andThen_ending (hp : p.Keeps Q P R) (hok : ∀ s, R (s, .ok) → (q s).Keeps Q P R')
    (hend : ∀ r, r.2 ≠ .ok → R r → R' r) : (andThen p q).Keeps Q P R' := by
  refine hp.bind fun r hr => ?_
  obtain ⟨s, e⟩ := r
  cases e with
  | ok => exact hok s hr
  | error text => exact hend (s, .error text) (by simp) hr
  | running => exact hend (s, .running) (by simp) hr
  | panic => exact hend (s, .panic) (by simp) hr

/-- Contracts that say nothing of the ending. -/
theorem keeps_andThen (hp : p.Keeps (fun _ _ => True) P fun r => I r.1)
    (hq : ∀ s, I s → (q s).Keeps (fun _ _ => True) P fun r => J r.1) (hIJ : ∀ s, I s → J s) :
    (andThen p q).Keeps (fun _ _ => True) P fun r => J r.1 :=
  keeps_andThen_ending hp hq fun r _ hr => hIJ r.1 hr

/-- A step after a step, for records. -/
theorem records_andThen (hI : p.Keeps (fun _ _ => True) (fun _ => True) fun r => I r.1)
    (hp : p.Records G (fun r => K r.1) b)
    (hq : ∀ s, I s → (q s).Records G (fun r => K r.1) (K s)) :
    (andThen p q).Records G (fun r => K r.1) b := by
  refine Prog.Records.bind_of_keeps hI hp fun r hr => ?_
  split
  · exact hq r.1 hr
  · exact Iff.rfl

end

theorem asideGateways_loadDevices (items : List DeviceListItem) (s : Loaded) :
    AsideGateways lib s (loadDevices lib items s) := by
  induction items generalizing s with
  | nil => exact rfl
  | cons item items ih =>
    refine keeps_andThen (I := fun t => t.gatewayIDs = s.gatewayIDs)
      (J := fun t => t.gatewayIDs = s.gatewayIDs) (asideGateways_loadDevice s item)
      (fun t ht => ?_) fun t ht => ht
    exact (ih t).mono fun r hr => hr.trans ht

/-- By induction on the devices listed; the first whose EUI does not parse ends it. -/
theorem records_loadDevices (items : List DeviceListItem) (s : Loaded) :
    (loadDevices lib items s).Records (GivesDevice lib) (fun r => r.1.deviceAppKeys = [])
      (s.deviceAppKeys = []) := by
  induction items generalizing s with
  | nil => exact Iff.rfl
  | cons item items ih =>
    exact records_andThen (I := fun _ => True) (K := fun t => t.deviceAppKeys = []) (Prog.keeps_true _)
      (records_loadDevice s item) fun t _ => ih t

theorem asideGateways_setupDevices (fuel : Nat) (s : Loaded) :
    AsideGateways lib s (setupDevices lib fuel s) := by
  refine Prog.Keeps.bind (Prog.Keeps.mono_calls (fun _ hc => ⟨hc.1, hc.2.1⟩)
    (neutral_listAllDevices s.applicationID fuel 0 [])) fun x _ => ?_
  match x with
  | none => exact rfl
  | some (.error e) => exact rfl
  | some (.ok allDevices) =>
    exact asideGateways_loadDevices allDevices
      { s with deviceAppKeys := [], deviceNames := [], deviceEUIs := [] }

/-- **Devices are loaded exactly if an answer gave one.** -/
theorem records_setupDevices (fuel : Nat) {s : Loaded} (hs : s.deviceAppKeys = []) :
    (setupDevices lib fuel s).Records (GivesDevice lib) (fun r => r.1.deviceAppKeys = [])
      (s.deviceAppKeys = []) := by
  have hlist : (listAllDevices s.applicationID fuel 0 []).Records (GivesDevice lib)
      (fun _ => True) (s.deviceAppKeys = []) := by
    refine Prog.Records.of_keeps ((Prog.Keeps.mono_calls (fun _ hc => hc.2.2)
      (neutral_listAllDevices s.applicationID fuel 0 [])).mono fun _ _ => ?_)
    simp [hs]
  refine Prog.Records.bind hlist fun x => ?_
  match x with
  | none => simp [hs]
  | some (.error e) => simp [hs]
  | some (.ok allDevices) =>
    exact (records_loadDevices allDevices _).congr (by simp)

/-- **`init` makes no gateway and no device, and does not signal the run.** -/
theorem keeps_init (fuel : Nat) (s : Loaded) :
    (init lib sim fuel s).Keeps (fun _ _ => True) Quiet fun _ => True := by
  have hgateways (t : Loaded) :
      (setupGateways lib sim t).Keeps (fun _ _ => True) Quiet fun _ => True :=
    (Prog.Keeps.mono_calls (fun _ hc => hc.1) (asideDevices_setupGateways lib sim t)).mono fun _ _ => trivial
  have hdevices (t : Loaded) :
      (setupDevices lib fuel t).Keeps (fun _ _ => True) Quiet fun _ => True :=
    (Prog.Keeps.mono_calls (fun _ hc => hc.1) (asideGateways_setupDevices fuel t)).mono
      fun _ _ => trivial
  have hnext {p : SetupStep} {q : Loaded → SetupStep}
      (hp : p.Keeps (fun _ _ => True) Quiet fun _ => True)
      (hq : ∀ t, (q t).Keeps (fun _ _ => True) Quiet fun _ => True) :
      (andThen p q).Keeps (fun _ _ => True) Quiet fun _ => True :=
    keeps_andThen (I := fun _ => True) (J := fun _ => True) hp (fun t _ => hq t) fun _ _ => trivial
  exact hnext (hnext (hnext (hnext (hnext (aside_setupTenant lib sim s).quiet hgateways)
    fun t => (aside_setupDeviceProfile lib sim t).quiet)
    fun t => (aside_setupApplication lib sim t).quiet) hdevices)
    fun t => (aside_setupApplicationIntegration lib t).quiet

variable (lib) in
/-- The account of the gateways, through the six steps of `init`. -/
theorem records_gateways_init (fuel : Nat) (s : Loaded) :
    (init lib sim fuel s).Records (GivesGateway lib) (fun r => r.1.gatewayIDs = [])
      (s.gatewayIDs = []) := by
  have hdevices (t : Loaded) : (setupDevices lib fuel t).Records (GivesGateway lib)
      (fun r => r.1.gatewayIDs = []) (t.gatewayIDs = []) := by
    refine Prog.Records.of_keeps ((Prog.Keeps.mono_calls (fun _ hc => hc.2)
      (asideGateways_setupDevices fuel t)).mono fun r hr => ?_)
    rw [hr]
  have hnext {p : SetupStep} {q : Loaded → SetupStep} {b : Prop}
      (hp : p.Records (GivesGateway lib) (fun r => r.1.gatewayIDs = []) b)
      (hq : ∀ t, (q t).Records (GivesGateway lib) (fun r => r.1.gatewayIDs = [])
        (t.gatewayIDs = [])) :
      (andThen p q).Records (GivesGateway lib) (fun r => r.1.gatewayIDs = []) b :=
    records_andThen (I := fun _ => True) (K := fun t => t.gatewayIDs = []) (Prog.keeps_true _)
      hp fun t _ => hq t
  exact hnext (hnext (hnext (hnext (hnext (aside_setupTenant lib sim s).records_gateways
    (records_setupGateways sim)) fun t => (aside_setupDeviceProfile lib sim t).records_gateways)
    fun t => (aside_setupApplication lib sim t).records_gateways) hdevices)
    fun t => (aside_setupApplicationIntegration lib t).records_gateways

variable (lib) in
/-- The account of the devices, through the six steps of `init`. -/
theorem records_devices_init (fuel : Nat) {s : Loaded} (hs : s.deviceAppKeys = []) :
    (init lib sim fuel s).Records (GivesDevice lib) (fun r => r.1.deviceAppKeys = [])
      (s.deviceAppKeys = []) := by
  have haside {t : Loaded} {p : SetupStep} (h : Aside lib t p) (ht : t.deviceAppKeys = []) :
      p.Keeps (fun _ _ => True) (fun _ => True) fun r => r.1.deviceAppKeys = [] :=
    (Prog.Keeps.mono_calls (fun _ _ => trivial) h).mono fun r hr => hr.2.trans ht
  have hgatewaysAside (t : Loaded) (ht : t.deviceAppKeys = []) : (setupGateways lib sim t).Keeps
      (fun _ _ => True) (fun _ => True) fun r => r.1.deviceAppKeys = [] :=
    (Prog.Keeps.mono_calls (fun _ _ => trivial) (asideDevices_setupGateways lib sim t)).mono
      fun r hr => Eq.trans hr ht
  have hgateways (t : Loaded) : (setupGateways lib sim t).Records (GivesDevice lib)
      (fun r => r.1.deviceAppKeys = []) (t.deviceAppKeys = []) := by
    refine Prog.Records.of_keeps ((Prog.Keeps.mono_calls (fun _ hc => hc.2)
      (asideDevices_setupGateways lib sim t)).mono fun r hr => ?_)
    rw [hr]
  -- the device maps are empty when `setupDevices` makes them anew
  have hkeeps {p : SetupStep} {q : Loaded → SetupStep}
      (hp : p.Keeps (fun _ _ => True) (fun _ => True) fun r => r.1.deviceAppKeys = [])
      (hq : ∀ t : Loaded, t.deviceAppKeys = [] →
        (q t).Keeps (fun _ _ => True) (fun _ => True) fun r => r.1.deviceAppKeys = []) :
      (andThen p q).Keeps (fun _ _ => True) (fun _ => True) fun r => r.1.deviceAppKeys = [] :=
    keeps_andThen (I := fun t => t.deviceAppKeys = []) (J := fun t => t.deviceAppKeys = []) hp hq
      fun _ ht => ht
  have hempty := hkeeps (hkeeps (hkeeps (haside (aside_setupTenant lib sim s) hs)
    hgatewaysAside) fun t ht => haside (aside_setupDeviceProfile lib sim t) ht)
    fun t ht => haside (aside_setupApplication lib sim t) ht
  have hnext {p : SetupStep} {q : Loaded → SetupStep} {b : Prop}
      (hp : p.Records (GivesDevice lib) (fun r => r.1.deviceAppKeys = []) b)
      (hq : ∀ t, (q t).Records (GivesDevice lib) (fun r => r.1.deviceAppKeys = [])
        (t.deviceAppKeys = [])) :
      (andThen p q).Records (GivesDevice lib) (fun r => r.1.deviceAppKeys = []) b :=
    records_andThen (I := fun _ => True) (K := fun t => t.deviceAppKeys = []) (Prog.keeps_true _)
      hp fun t _ => hq t
  have hfront := hnext (hnext (hnext (aside_setupTenant lib sim s).records_devices hgateways)
    fun t => (aside_setupDeviceProfile lib sim t).records_devices)
    fun t => (aside_setupApplication lib sim t).records_devices
  exact hnext (records_andThen (K := fun t => t.deviceAppKeys = []) hempty hfront
    fun t ht => records_setupDevices fuel ht)
    fun t => (aside_setupApplicationIntegration lib t).records_devices

/-! ## After `init` -/

variable {σ : Type} {env : Prog.Env σ Call.Answer} {w : σ}

theorem quiet_events {α : Type} {p : Action α}
    (h : p.Keeps (fun _ _ => True) Quiet fun _ => True) : ∀ e ∈ p.events env w, Quiet e.call :=
  (h.of_run fun _ _ => trivial).1

/-- Quiet calls make no difference. -/
theorem nothingRuns_append_iff {es es' : List (Prog.Event Call.Answer)}
    (hes : ∀ e ∈ es, Quiet e.call) : NothingRuns (es ++ es') ↔ NothingRuns es' := by
  have hcount : es.countP (fun e => isWgDone e.call) = 0 := by
    rw [List.countP_eq_zero]
    intro e he
    simp [(hes e he).2]
  constructor
  · rintro ⟨hcreates, hsignals⟩
    refine ⟨fun e he => hcreates e (List.mem_append_right _ he), ?_⟩
    rw [List.countP_append, hcount] at hsignals
    omega
  · rintro ⟨hcreates, hsignals⟩
    refine ⟨fun e he => ?_, ?_⟩
    · rcases List.mem_append.mp he with he | he
      · exact (hes e he).1
      · exact hcreates e he
    · rw [List.countP_append, hcount]
      omega

/-- Tearing down makes nothing and signals nothing. -/
theorem quiet_tearDown (s : Loaded) :
    (tearDown sim s).Keeps (fun _ _ => True) Quiet fun _ => True := by
  have hgateways (ids : List EUI64) :
      (tearDownGateways ids).Keeps (fun _ _ => True) Quiet fun _ => True := by
    induction ids with
    | nil => trivial
    | cons id ids ih =>
      refine Prog.Keeps.ask_bind ⟨fun h => h, rfl⟩ fun x _ => ?_
      cases x with
      | none => exact ih
      | some e => trivial
  refine Prog.Keeps.ask_bind ⟨id, rfl⟩ fun x _ => ?_
  cases x with
  | some e => trivial
  | none =>
    dsimp only
    split
    · trivial
    · exact hgateways _

variable (env) in
/-- The tear-down and the signal at the end. -/
theorem nothingRuns_tearDown (s : Loaded) (w : σ) :
    NothingRuns ((tearDown sim s).events env w ++ [⟨.wgDone, (env ((tearDown sim s).final env w)
      .wgDone).1⟩]) := by
  rw [nothingRuns_append_iff (quiet_events (quiet_tearDown sim s))]
  exact ⟨by simp [Creates], rfl⟩

/-- A run that makes an object is none in which nothing runs. -/
theorem not_nothingRuns_of_mem {es : List (Prog.Event Call.Answer)} {e : Prog.Event Call.Answer}
    (he : e ∈ es) (h : Creates e.call) : ¬ NothingRuns es := fun hes => hes.creates e he h

/-- The first gateway is built, or it is not. -/
theorem nothingRuns_gateways_iff (fuel : Nat) {s : Loaded} (hs : s.gatewayIDs ≠ []) :
    NothingRuns ((afterInit lib sim fuel s).events env w) ↔ ¬ TemplatesParse lib sim := by
  obtain ⟨id, ids, hids⟩ := List.exists_cons_of_ne_nil hs
  have hunit : ∀ x : Except String Unit, x ≠ .ok () → ∃ e, x = .error e := by
    intro x hx
    cases x with
    | error e => exact ⟨e, rfl⟩
    | ok _ => exact absurd rfl hx
  by_cases hparse : TemplatesParse lib sim
  · refine iff_of_false ?_ (not_not_intro hparse)
    refine not_nothingRuns_of_mem (e := ⟨.newGateway ⟨id, sim.eventTopicTemplate,
      sim.commandTopicTemplate, sim.tenantID⟩, (env w _).1⟩) ?_ trivial
    simp [afterInit, runSimulation, hids, newGateways, newGateway, hparse.1, hparse.2]
  · refine iff_of_true ?_ hparse
    -- the options of the first gateway are refused, and nothing is made of the rest
    have hrefused : ∃ e, newGateway lib ⟨id, sim.eventTopicTemplate, sim.commandTopicTemplate,
        sim.tenantID⟩ = pure (.error e) := by
      unfold newGateway
      by_cases hevent : lib.template sim.eventTopicTemplate = .ok ()
      · obtain ⟨e, he⟩ := hunit _ fun hcommand => hparse ⟨hevent, hcommand⟩
        exact ⟨_, by rw [hevent, he]⟩
      · obtain ⟨e, he⟩ := hunit _ hevent
        exact ⟨_, by rw [he]⟩
    obtain ⟨e, he⟩ := hrefused
    simpa [afterInit, runSimulation, hids, newGateways, he] using nothingRuns_tearDown sim env s w

/-- A device without any gateway runs, or the process ends. -/
theorem not_nothingRuns_devices (fuel : Nat) {s : Loaded} (hs : s.gatewayIDs = [])
    (hdevices : s.deviceAppKeys ≠ []) :
    ¬ NothingRuns ((afterInit lib sim fuel s).events env w) := by
  obtain ⟨⟨devEUI, appKey⟩, rest, hcons⟩ := List.exists_cons_of_ne_nil hdevices
  have hzero : ¬ NothingRuns [] := fun h => absurd h.signals (by simp)
  by_cases hbound : sim.gatewayMaxCount - sim.gatewayMinCount + 1 ≤ 0
  · simpa [afterInit, runSimulation, hs, hcons, newGateways, newDevices, hbound] using hzero
  · by_cases hpick : (0 : Int) < sim.gatewayMinCount +
        ((env w (.intn (sim.gatewayMaxCount - sim.gatewayMinCount).toNat)).1 : Fin _).val
    · -- `mrand.Intn(0)`
      have hquiet : ∀ e : Prog.Event Call.Answer,
          e.call = .intn (sim.gatewayMaxCount - sim.gatewayMinCount).toNat → ¬ NothingRuns [e] := by
        intro e he h
        have := h.signals
        simp [isWgDone, he] at this
      cases fuel with
      | zero =>
        simpa [afterInit, runSimulation, hs, hcons, newGateways, newDevices, hbound, pickGateways,
          hpick] using hquiet _ rfl
      | succ fuel =>
        simpa [afterInit, runSimulation, hs, hcons, newGateways, newDevices, hbound, pickGateways,
          hpick] using hquiet _ rfl
    · refine not_nothingRuns_of_mem (e := ⟨.newDevice (deviceOptions sim s 0 devEUI appKey []),
        (env (env w (.intn (sim.gatewayMaxCount - sim.gatewayMinCount).toNat)).2 _).1⟩) ?_ trivial
      cases fuel <;> simp [afterInit, runSimulation, hs, hcons, newGateways, newDevices, hbound,
        pickGateways, hpick]

/-- After `init`, nothing runs exactly if nothing is loaded, or gateways that cannot be built. -/
theorem nothingRuns_afterInit_iff (fuel : Nat) (s : Loaded) :
    NothingRuns ((afterInit lib sim fuel s).events env w) ↔
      (s.gatewayIDs = [] ∧ s.deviceAppKeys = []) ∨
        (s.gatewayIDs ≠ [] ∧ ¬ TemplatesParse lib sim) := by
  by_cases hs : s.gatewayIDs = []
  · by_cases hdevices : s.deviceAppKeys = []
    · refine iff_of_true ?_ (Or.inl ⟨hs, hdevices⟩)
      have htear := nothingRuns_tearDown sim env s (env w .wait).2
      have hwait : ∀ e ∈ [(⟨.wait, (env w .wait).1⟩ : Prog.Event Call.Answer)], Quiet e.call := by
        simp [Quiet, Creates, isWgDone]
      simpa [afterInit, runSimulation, hs, hdevices, newGateways, newDevices] using
        (nothingRuns_append_iff hwait).mpr htear
    · simp [hs, hdevices, not_nothingRuns_devices sim fuel hs hdevices]
  · rw [nothingRuns_gateways_iff sim fuel hs]
    simp [hs]

/-! ## A failed initialisation -/

/-- No answer has given the simulation a gateway, or a device. -/
def NothingGiven (lib : Parsers) (es : List (Prog.Event Call.Answer)) : Prop :=
  ∀ e ∈ es, ¬ GivesGateway lib e.call e.answer ∧ ¬ GivesDevice lib e.call e.answer

/-- An answer has given it a gateway. -/
def GatewayGiven (lib : Parsers) (es : List (Prog.Event Call.Answer)) : Prop :=
  ∃ e ∈ es, GivesGateway lib e.call e.answer

variable (env) in
/-- What is loaded at the end of `init`, by the answers it got. -/
theorem noGateways_iff (fuel : Nat) (w : σ) :
    ((init lib sim fuel .empty).result env w).1.gatewayIDs = [] ↔
      ∀ e ∈ (init lib sim fuel .empty).events env w, ¬ GivesGateway lib e.call e.answer := by
  have h := (records_gateways_init lib sim fuel .empty).of_run env w
  simpa [Loaded.empty] using h

variable (env) in
theorem noDevices_iff (fuel : Nat) (w : σ) :
    ((init lib sim fuel .empty).result env w).1.deviceAppKeys = [] ↔
      ∀ e ∈ (init lib sim fuel .empty).events env w, ¬ GivesDevice lib e.call e.answer := by
  have h := (records_devices_init lib sim fuel (s := .empty) rfl).of_run env w
  simpa [Loaded.empty] using h

/-- A failed `init` is followed by what `afterInit` makes of the state it leaves. -/
theorem events_start {fuel : Nat} {text : String}
    (h : ((init lib sim fuel .empty).result env w).2 = .error text) :
    (start lib sim fuel).events env w = (init lib sim fuel .empty).events env w ++
      (afterInit lib sim fuel ((init lib sim fuel .empty).result env w).1).events env
        ((init lib sim fuel .empty).final env w) := by
  rw [start, Prog.events_bind]
  generalize (init lib sim fuel .empty).result env w = r at h ⊢
  obtain ⟨s, e⟩ := r
  obtain rfl : e = .error text := h
  rfl

/-- **After a failed initialisation nothing runs exactly if** no answer `init` got gave it a gateway or
    a device, or one gave it a gateway but the topic templates do not parse. -/
theorem nothingRuns_iff (env : Prog.Env σ Call.Answer) (w : σ) (fuel : Nat)
    (hfails : ∃ text, ((init lib sim fuel .empty).result env w).2 = .error text) :
    NothingRuns ((start lib sim fuel).events env w) ↔
      NothingGiven lib ((init lib sim fuel .empty).events env w) ∨
        (GatewayGiven lib ((init lib sim fuel .empty).events env w) ∧
          ¬ TemplatesParse lib sim) := by
  obtain ⟨text, htext⟩ := hfails
  rw [events_start sim htext, nothingRuns_append_iff (quiet_events (keeps_init sim fuel .empty)),
    nothingRuns_afterInit_iff, ne_eq, noGateways_iff, noDevices_iff]
  unfold NothingGiven GatewayGiven
  simp only [forall₂_and, not_forall, not_not, exists_prop]

end

/-- A simulation of one application, as the discovery configures it for a tenant with one gateway. -/
def sensors : Simulation where
  tenantID := "tenant"
  deviceCount := 2
  activationTime := 30000000000
  uplinkInterval := 120000000000
  fPort := 10
  payload := [0, 25, 3, 245, 33]
  frequency := 868100000
  bandwidth := 125000
  spreadingFactor := 7
  duration := 0
  gatewayMinCount := 1
  gatewayMaxCount := 1
  appName := "sensors"
  deviceNamePrefix := "device"
  deviceIntervals := []
  payloadScript := ""
  packetLoss := 0
  latencyMs := 0
  anomalyProbability := 0
  anomalyTypes := ""
  anomalyDuration := 5
  passiveMode := true
  eventTopicTemplate := defaultEventTopicTemplate
  commandTopicTemplate := defaultCommandTopicTemplate

/-- ChirpStack cannot be reached: `init` fails at the tenant. -/
theorem nothingRuns_unavailable :
    NothingRuns ((start .plain sensors 0).events (steady (Call.answer RPC.unavailable)) ()) :=
  (nothingRuns_iff sensors (steady (Call.answer RPC.unavailable)) () 0 ⟨_, rfl⟩).mpr
    (Or.inl (by unfold NothingGiven; simp [init, andThen, setupTenant, steady, Call.answer,
      RPC.unavailable, GivesGateway, GivesDevice]))

/-- A tenant with a gateway and an application of two devices, the second with an EUI that does not
    parse. -/
def brokenSecond : (r : RPC) → r.Answer
  | .getTenant id => .ok ⟨id, "tenant", "", true⟩
  | .listGateways _ _ => .ok [⟨"0102030405060708", "gateway"⟩]
  | .listDeviceProfiles _ _ => .ok [⟨"00000000000000000000000000000001", "sensors-profile"⟩]
  | .listApplications _ _ => .ok [⟨"application", "sensors"⟩]
  | .listDevices _ _ _ _ => .ok [⟨"0000000000000001", "first"⟩, ⟨"second", "second"⟩]
  | .getDevice devEUI => .ok ⟨devEUI, "first", "", "application", "profile", false⟩
  | .getKeys devEUI => .ok ⟨devEUI, "00000000000000000000000000000011", "00000000000000000000000000000011"⟩
  | r => r.unavailable

/-- What is loaded when it fails: the gateway, the application and the first device. -/
def firstLoaded : Loaded where
  tenant := ⟨"tenant", "tenant", "", true⟩
  deviceProfileID := #v[0, 0, 0, 0, 0, 0, 0, 0, 0, 0, 0, 0, 0, 0, 0, 1]
  applicationID := "application"
  gatewayIDs := [#v[1, 2, 3, 4, 5, 6, 7, 8]]
  deviceEUIs := [#v[0, 0, 0, 0, 0, 0, 0, 1]]
  deviceAppKeys := [(#v[0, 0, 0, 0, 0, 0, 0, 1],
    #v[0, 0, 0, 0, 0, 0, 0, 0, 0, 0, 0, 0, 0, 0, 0, 0x11])]
  deviceNames := [(#v[0, 0, 0, 0, 0, 0, 0, 1], "first")]

/-- The initialisation fails, and its first device runs. -/
theorem brokenSecond_runs :
    ((init .plain sensors 1 .empty).result (steady (Call.answer brokenSecond)) ()).2 =
        .error "parse dev EUI for second: encoding/hex: invalid byte" ∧
      devicesMade ((start .plain sensors 1).events (steady (Call.answer brokenSecond)) ()) =
        [(#v[0, 0, 0, 0, 0, 0, 0, 1], "application")] ∧
      ¬ NothingRuns ((start .plain sensors 1).events (steady (Call.answer brokenSecond)) ()) := by
  have hfails : (init .plain sensors 1 .empty).result (steady (Call.answer brokenSecond)) () =
      (firstLoaded, .error "parse dev EUI for second: encoding/hex: invalid byte") := rfl
  have hgateway : ∃ e ∈ (afterInit .plain sensors 1 firstLoaded).events
      (steady (Call.answer brokenSecond)) (), Creates e.call := ⟨_, List.mem_cons_self, trivial⟩
  obtain ⟨e, he, hcreates⟩ := hgateway
  rw [events_start sensors (congrArg Prod.snd hfails), hfails, devicesMade_append]
  exact ⟨rfl, rfl, not_nothingRuns_of_mem (List.mem_append_right _ he) hcreates⟩

end ChirpStackSimulator.Setup
