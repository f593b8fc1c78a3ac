/-
  How many gateways a device gets, and out of how many (`discoverAndBuildConfig`, `setupGateways`,
  `runSimulation`).

  A start lists the gateways of a tenant twice.  The discovery counts the entries of the first listing
  and makes the count the lower and upper bound of each device's number of gateways.  The set-up of the
  simulation lists them again later, and builds those whose ids parse.  The loop that picks gateways
  for a device draws random ones until it has as many different ones as the bound says.

  1. **The bound** — a simulation that is launched has both bounds from a listing of its tenant's
     gateways in the same start (`counted_launched`).
  2. **The candidates** — what a second listing leaves of the gateways, if there is a device at all
     (`gatewayIDs_init`).
  3. **The loop** — it picks different gateways (`picks`), can end exactly if there are enough
     (`canEnd_iff`), and else runs for ever (`running_pickGateways`).
  4. **The law** — `Selects`, and when it holds (`selection_iff`).  With too few gateways a simulation
     never gets past the loop (`running_afterInit`), as when one has been deleted (`oneLeft_stuck`).
-/
import ChirpStackSimulator.Intervals

namespace ChirpStackSimulator.GatewaySelection

open LoRaWAN Discovery Setup Intervals
open Lifecycle (Status)

/-! ## The bound -/

/-- Listings of gateways are answered within `L`. -/
def ListsWithin (L : String → List ListItem → Prop) : (c : Call) → c.Answer → Prop
  | .rpc (.listGateways tenantID limit), x =>
    limit = 1000 → ∀ gateways, x = .ok gateways → L tenantID gateways
  | _, _ => True

/-- An entry that has counted a listing in `L`. -/
structure CountedEntry (L : String → List ListItem → Prop) (c : SimulatorConfig) : Prop where
  passiveMode : c.passiveMode = true
  eventTopicTemplate : c.gateway.eventTopicTemplate = defaultEventTopicTemplate
  commandTopicTemplate : c.gateway.commandTopicTemplate = defaultCommandTopicTemplate
  listed : ∃ gateways, L c.tenantID gateways ∧ gateways ≠ [] ∧
    c.gateway.minCount = gateways.length ∧ c.gateway.maxCount = gateways.length

/-- A simulation that has counted one. -/
structure Counted (L : String → List ListItem → Prop) (sim : Simulation) : Prop where
  passiveMode : sim.passiveMode = true
  eventTopicTemplate : sim.eventTopicTemplate = defaultEventTopicTemplate
  commandTopicTemplate : sim.commandTopicTemplate = defaultCommandTopicTemplate
  listed : ∃ gateways, L sim.tenantID gateways ∧ gateways ≠ [] ∧
    sim.gatewayMinCount = gateways.length ∧ sim.gatewayMaxCount = gateways.length

/-- What is launched has counted a listing in `L`. -/
def LaunchesCounted (L : String → List ListItem → Prop) (c : Call) : Prop :=
  ∀ sim, c = .launch sim → Counted L sim

section
variable {L : String → List ListItem → Prop} (parseDuration : String → Except String Int)

/-- Looking launches nothing. -/
theorem launchesCounted_of_looks {c : Call} (h : Looks c) : LaunchesCounted L c := by
  rintro sim rfl
  exact absurd h not_false

/-- Every entry of a tenant counts the gateways that were listed for it. -/
theorem counted_discoverApps {tenantID : String} {gateways : List ListItem}
    (hL : L tenantID gateways) (hsome : gateways ≠ []) (orgCfg : Option StartRequest)
    (devIntervals : List (String × String)) (apps : List ListItem) :
    (discoverApps parseDuration tenantID gateways.length orgCfg devIntervals apps).Keeps
      (ListsWithin L) Looks fun cfg => ∀ c ∈ cfg, CountedEntry L c := by
  induction apps with
  | nil => exact fun _ h => absurd h List.not_mem_nil
  | cons app apps ih =>
    refine Prog.Keeps.ask_bind not_false fun x _ => ?_
    cases x with
    | error e => exact ih
    | ok devices =>
      dsimp only
      split
      · exact ih
      · refine ih.bind fun rest hrest => ?_
        exact List.forall_mem_cons.mpr ⟨⟨rfl, rfl, rfl, gateways, hL, hsome, rfl, rfl⟩, hrest⟩

/-- By induction on the tenants. -/
theorem counted_discoverTenants (devIntervals : List (String × String)) (tenants : List ListItem) :
    (discoverTenants parseDuration devIntervals tenants).Keeps (ListsWithin L) Looks
      fun cfg => ∀ c ∈ cfg, CountedEntry L c := by
  have hnone : ∀ c ∈ ([] : List SimulatorConfig), CountedEntry L c :=
    fun _ h => absurd h List.not_mem_nil
  have htenant (tenant : ListItem) :
      (discoverTenant parseDuration devIntervals tenant).Keeps (ListsWithin L) Looks
        fun cfg => ∀ c ∈ cfg, CountedEntry L c := by
    refine Prog.Keeps.ask_bind trivial fun saved _ => Prog.Keeps.ask_bind not_false fun x hx => ?_
    cases x with
    | error e => exact hnone
    | ok gateways =>
      dsimp only
      split
      · exact hnone
      · rename_i hsome
        refine Prog.Keeps.ask_bind not_false fun x _ => ?_
        cases x with
        | error e => exact hnone
        | ok apps => exact counted_discoverApps parseDuration (hx rfl gateways rfl) hsome _ _ apps
  induction tenants with
  | nil => exact hnone
  | cons tenant tenants ih =>
    exact (htenant tenant).bind fun front hfront => ih.bind fun rest hrest =>
      List.forall_mem_append.mpr ⟨hfront, hrest⟩

theorem counted_prepareStart :
    (prepareStart parseDuration).Keeps (ListsWithin L) Looks
      fun r => ∀ cfg, r = .ok cfg → ∀ c ∈ cfg, CountedEntry L c := by
  have hsync : syncMissingOrgConfigs.Keeps (ListsWithin L) Looks fun _ => True :=
    Prog.Keeps.mono_answers (fun _ _ _ => trivial) looks_syncMissingOrgConfigs
  refine hsync.bind fun _ _ => Prog.Keeps.ask_bind trivial fun x _ => ?_
  cases x with
  | false =>
    intro cfg h
    cases h
  | true =>
    refine Prog.Keeps.ask_bind trivial fun intervals _ => Prog.Keeps.ask_bind not_false fun x _ => ?_
    cases x with
    | error e =>
      intro cfg h
      cases h
    | ok tenants =>
      refine (counted_discoverTenants parseDuration _ tenants).bind fun entries hentries => ?_
      intro cfg h
      cases h
      exact hentries

/-- The loop launches what it is given. -/
theorem counted_startLoop (cfg : List SimulatorConfig) (hcfg : ∀ c ∈ cfg, CountedEntry L c) (i : Nat) :
    (startLoop i cfg).Keeps (ListsWithin L) (LaunchesCounted L) fun _ => True := by
  induction cfg generalizing i with
  | nil => trivial
  | cons c cs ih =>
    obtain ⟨hc, hcs⟩ := List.forall_mem_cons.mp hcfg
    unfold startLoop
    cases h : newSimulation i c with
    | error e => trivial
    | ok sim =>
      refine Prog.Keeps.ask_bind ?_ fun _ _ => ih hcs (i + 1)
      intro sim' heq
      cases heq
      unfold newSimulation at h
      cases hpayload : Hex.decode c.device.payload with
      | none => simp [hpayload] at h
      | some pl =>
        rw [hpayload] at h
        cases h
        exact ⟨hc.passiveMode, hc.eventTopicTemplate, hc.commandTopicTemplate, hc.listed⟩

/-- **A start launches only counted simulations.** -/
theorem counted_handleStart (post : Bool) (body : Except String StartRequest) (status : Status) :
    (handleStart parseDuration post body status).Keeps (ListsWithin L) (LaunchesCounted L)
      fun _ => True := by
  unfold handleStart
  split
  · trivial
  · split
    · trivial
    · split
      · trivial
      · have hprepare := Prog.Keeps.mono_calls (fun _ => launchesCounted_of_looks (L := L))
          (counted_prepareStart (L := L) parseDuration)
        refine hprepare.bind fun x hx => ?_
        cases x with
        | error e => trivial
        | ok cfg =>
          dsimp only
          split
          · trivial
          · exact (counted_startLoop cfg (hx cfg rfl) 0).bind fun _ _ => trivial

/-- The start has listed these gateways of the tenant. -/
def Listed (es : List (Prog.Event Call.Answer)) (tenantID : String) (gateways : List ListItem) :
    Prop :=
  (⟨.rpc (.listGateways tenantID 1000), .ok gateways⟩ : Prog.Event Call.Answer) ∈ es

/-- A listing of a run is one of those that were listed. -/
theorem listsWithin_listed {es : List (Prog.Event Call.Answer)} {e : Prog.Event Call.Answer}
    (he : e ∈ es) : ListsWithin (Listed es) e.call e.answer := by
  obtain ⟨c, x⟩ := e
  cases c with
  | rpc r =>
    cases r with
    | listGateways tenantID limit =>
      intro hlimit gateways hx
      subst hlimit hx
      exact he
    | _ => trivial
  | _ => trivial

/-- **Both bounds of a simulation that is launched** are the length of a listing of its tenant's
    gateways in the same start. -/
theorem counted_launched {σ : Type} (env : Prog.Env σ Call.Answer) (w : σ) {post : Bool}
    {body : Except String StartRequest} {status : Status} {sim : Simulation}
    (h : sim ∈ launched ((handleStart parseDuration post body status).events env w)) :
    Counted (Listed ((handleStart parseDuration post body status).events env w)) sim := by
  have hcalls : ∀ e ∈ (handleStart parseDuration post body status).events env w,
      LaunchesCounted (Listed ((handleStart parseDuration post body status).events env w)) e.call :=
    ((counted_handleStart parseDuration post body status).of_run
      fun e he => listsWithin_listed he).1
  obtain ⟨e, he, hsim⟩ := List.mem_filterMap.mp h
  refine hcalls e he sim ?_
  split at hsim
  · rename_i sim' hcall
    rw [hcall, Option.some.inj hsim]
  · cases hsim

end

/-! ## The candidates -/

section
variable {σ : Type} {lib : Parsers} {sim : Simulation}

/-- The environment in which gateways are listed as `second` says. -/
def relist (env : Prog.Env σ Call.Answer) (second : Except RPCError (List ListItem)) :
    Prog.Env σ Call.Answer := fun w c =>
  match c with
  | .rpc (.listGateways tenantID limit) => (second, (env w (.rpc (.listGateways tenantID limit))).2)
  | c => env w c

/-- Gateways are listed as `second` says. -/
def ListedAs (second : Except RPCError (List ListItem)) : (c : Call) → c.Answer → Prop
  | .rpc (.listGateways _ _), x => x = second
  | _, _ => True

theorem listedAs_relist (env : Prog.Env σ Call.Answer) (second : Except RPCError (List ListItem))
    (w : σ) (c : Call) : ListedAs second c (relist env second w c).1 := by
  cases c with
  | rpc r =>
    cases r with
    | listGateways tenantID limit => exact rfl
    | _ => trivial
  | _ => trivial

/-- How many ids of a listing parse; a listing that fails has none. -/
def parsedCount (lib : Parsers) : Except RPCError (List ListItem) → Nat
  | .error _ => 0
  | .ok gateways => (parsedGateways lib gateways).length

/-- The gateways are those that `second` lists. -/
def ListedGateways (lib : Parsers) (second : Except RPCError (List ListItem)) (s : Loaded) : Prop :=
  ∃ gateways, second = .ok gateways ∧ s.gatewayIDs = parsedGateways lib gateways

/-- Before the devices are set up there are none, and no error so far means the gateways are there. -/
def BeforeDevices (lib : Parsers) (second : Except RPCError (List ListItem))
    (r : Loaded × Ending) : Prop :=
  r.1.deviceAppKeys = [] ∧ (r.2 = .ok → ListedGateways lib second r.1)

/-- Afterwards, devices mean the gateways are there. -/
def AfterDevices (lib : Parsers) (second : Except RPCError (List ListItem))
    (r : Loaded × Ending) : Prop :=
  r.1.deviceAppKeys ≠ [] → ListedGateways lib second r.1

variable {second : Except RPCError (List ListItem)}

/-- A step that loads no gateways keeps those that are there. -/
theorem listedGateways_of_same {s : Loaded} {r : Loaded × Ending} (h : SameLoaded s r)
    (hs : ListedGateways lib second s) : ListedGateways lib second r.1 := by
  obtain ⟨gateways, hsecond, hids⟩ := hs
  exact ⟨gateways, hsecond, h.1.trans hids⟩

/-- A step that has nothing to do with gateways and devices leaves them as they are. -/
theorem keeps_of_aside {s : Loaded} {p : SetupStep} (h : Aside lib s p) :
    p.Keeps (ListedAs second) (fun _ => True) (SameLoaded s) :=
  Prog.Keeps.mono_answers (fun _ _ _ => trivial) (Prog.Keeps.mono_calls (fun _ _ => trivial) h)

/-- Passive mode loads the gateways of the listing, or fails. -/
theorem beforeDevices_setupGateways (hpassive : sim.passiveMode = true) {s : Loaded}
    (hids : s.gatewayIDs = []) (hdevices : s.deviceAppKeys = []) :
    (setupGateways lib sim s).Keeps (ListedAs second) (fun _ => True)
      (BeforeDevices lib second) := by
  unfold setupGateways
  rw [if_pos hpassive]
  refine Prog.Keeps.ask_bind trivial fun x hx => ?_
  obtain rfl : x = second := hx
  cases x with
  | error e =>
    refine ⟨hdevices, fun h => ?_⟩
    cases h
  | ok gateways =>
    dsimp only
    split
    · refine ⟨hdevices, fun h => ?_⟩
      cases h
    · refine ⟨hdevices, fun _ => ⟨gateways, rfl, ?_⟩⟩
      show s.gatewayIDs ++ parsedGateways lib gateways = parsedGateways lib gateways
      rw [hids, List.nil_append]

/-- What is loaded has its gateways from the second listing, if it has devices. -/
theorem afterDevices_init (hpassive : sim.passiveMode = true) (fuel : Nat) :
    (init lib sim fuel .empty).Keeps (ListedAs second) (fun _ => True)
      (AfterDevices lib second) := by
  have htenant : (setupTenant sim .empty).Keeps (ListedAs second) (fun _ => True)
      (SameLoaded .empty) := keeps_of_aside (aside_setupTenant lib sim .empty)
  have hgateways : (andThen (setupTenant sim .empty) (setupGateways lib sim)).Keeps
      (ListedAs second) (fun _ => True) (BeforeDevices lib second) := by
    refine keeps_andThen_ending htenant (fun s hs => ?_) fun r hne hr => ?_
    · exact beforeDevices_setupGateways hpassive hs.1 hs.2
    · exact ⟨hr.2, fun h => absurd h hne⟩
  have haside {p : SetupStep} {q : Loaded → SetupStep} (hp : p.Keeps (ListedAs second)
      (fun _ => True) (BeforeDevices lib second)) (hq : ∀ s, Aside lib s (q s)) :
      (andThen p q).Keeps (ListedAs second) (fun _ => True) (BeforeDevices lib second) := by
    refine keeps_andThen_ending hp (fun s hs => (keeps_of_aside (hq s)).mono fun r hr => ?_) fun r _ hr => hr
    exact ⟨hr.2.trans hs.1, fun _ => listedGateways_of_same hr (hs.2 rfl)⟩
  have happlication := haside (haside hgateways fun s => aside_setupDeviceProfile lib sim s)
    fun s => aside_setupApplication lib sim s
  have hdevices : (andThen (andThen (andThen (andThen (setupTenant sim .empty)
      (setupGateways lib sim)) (setupDeviceProfile lib sim)) (setupApplication sim))
      (setupDevices lib fuel)).Keeps (ListedAs second) (fun _ => True)
        (AfterDevices lib second) := by
    refine keeps_andThen_ending happlication (fun s hs => ?_) fun r _ hr h => absurd hr.1 h
    obtain ⟨gateways, hsecond, hids⟩ := hs.2 rfl
    have hsame : (setupDevices lib fuel s).Keeps (ListedAs second) (fun _ => True)
        fun r => r.1.gatewayIDs = s.gatewayIDs :=
      Prog.Keeps.mono_answers (fun _ _ _ => trivial)
        (Prog.Keeps.mono_calls (fun _ _ => trivial) (asideGateways_setupDevices fuel s))
    exact hsame.mono fun r hr _ => ⟨gateways, hsecond, hr.trans hids⟩
  refine keeps_andThen_ending hdevices (fun s hs => ?_) fun r _ hr => hr
  refine (keeps_of_aside (aside_setupApplicationIntegration lib s)).mono fun r hr hsome => ?_
  exact listedGateways_of_same hr (hs (hr.2 ▸ hsome))

/-- **The gateways of a simulation with devices** are as many as ids of the second listing parse. -/
theorem gatewayIDs_init (hpassive : sim.passiveMode = true) (env : Prog.Env σ Call.Answer)
    (second : Except RPCError (List ListItem)) (w : σ) (fuel : Nat)
    (hdevices : ((init lib sim fuel .empty).result (relist env second) w).1.deviceAppKeys ≠ []) :
    ((init lib sim fuel .empty).result (relist env second) w).1.gatewayIDs.length =
      parsedCount lib second := by
  obtain ⟨gateways, rfl, hids⟩ := (afterDevices_init hpassive fuel).of_env
    (listedAs_relist env second) w hdevices
  rw [hids]
  rfl

end

/-! ## The loop -/

/-- What the loop has picked out of so many gateways for a device that gets `devNumGateways`. -/
structure Picks (gateways : Nat) (devNumGateways : Int) (r : Ending × List Nat) : Prop where
  nodup : r.2.Nodup
  lt : ∀ n ∈ r.2, n < gateways
  length_le : (r.2.length : Int) ≤ devNumGateways
  ending : r.1 = .ok ∧ (r.2.length : Int) = devNumGateways ∨ r.1 = .running ∨
    r.1 = .panic ∧ gateways = 0

/-- The loop picks distinct gateways, and one more each time it draws a new one; by induction on the
    fuel. -/
theorem picks_pickGateways (gateways : Nat) (devNumGateways : Int) (fuel : Nat) {picked : List Nat}
    (hnodup : picked.Nodup) (hlt : ∀ n ∈ picked, n < gateways)
    (hlength : (picked.length : Int) ≤ devNumGateways) :
    (pickGateways gateways devNumGateways fuel picked).Keeps (fun _ _ => True) MakesNone
      (Picks gateways devNumGateways) := by
  induction fuel generalizing picked with
  | zero =>
    unfold pickGateways
    split
    · exact ⟨hnodup, hlt, hlength, Or.inr (Or.inl rfl)⟩
    · rename_i henough
      exact ⟨hnodup, hlt, hlength, Or.inl ⟨rfl, le_antisymm hlength (not_lt.mp henough)⟩⟩
  | succ fuel ih =>
    unfold pickGateways
    split
    · rename_i hfew
      cases gateways with
      | zero => exact ⟨hnodup, hlt, hlength, Or.inr (Or.inr ⟨rfl, rfl⟩)⟩
      | succ bound =>
        refine Prog.Keeps.ask_bind trivial fun n _ => ?_
        split
        · exact ih hnodup hlt hlength
        · -- a gateway that has not been picked yet
          rename_i hnew
          refine ih ?_ ?_ ?_
          · exact List.nodup_append.mpr ⟨hnodup, List.nodup_singleton _, fun a ha b hb heq =>
              hnew (List.mem_singleton.mp hb ▸ heq ▸ ha)⟩
          · refine List.forall_mem_append.mpr ⟨hlt, fun k hk => ?_⟩
            rw [List.mem_singleton.mp hk]
            exact Fin.isLt n
          · rw [List.length_append, List.length_singleton]
            omega
    · rename_i henough
      exact ⟨hnodup, hlt, hlength, Or.inl ⟨rfl, le_antisymm hlength (not_lt.mp henough)⟩⟩

section
variable {σ : Type} (env : Prog.Env σ Call.Answer) (w : σ) {gateways : Nat} {devNumGateways : Int}

/-- What the loop has picked when it is left, or when it is out of rounds. -/
theorem picks (hn : 0 ≤ devNumGateways) (fuel : Nat) :
    Picks gateways devNumGateways ((pickGateways gateways devNumGateways fuel []).result env w) :=
  (picks_pickGateways gateways devNumGateways fuel List.nodup_nil
    (fun _ h => absurd h List.not_mem_nil) hn).of_env (fun _ _ => trivial) w

/-- There are never more picked than there are. -/
theorem Picks.length_le_gateways {r : Ending × List Nat} (h : Picks gateways devNumGateways r) :
    r.2.length ≤ gateways := by
  have hsubset : r.2 ⊆ List.range gateways := fun n hn => List.mem_range.mpr (h.lt n hn)
  have hlength := (List.subperm_of_subset h.nodup hsubset).length_le
  rwa [List.length_range] at hlength

/-- **With too few gateways the loop never ends**, whatever the random source gives. -/
theorem running_pickGateways (hsome : gateways ≠ 0) (hfew : (gateways : Int) < devNumGateways)
    (fuel : Nat) : ((pickGateways gateways devNumGateways fuel []).result env w).1 = .running := by
  have hn : 0 ≤ devNumGateways := by omega
  have h : Picks gateways devNumGateways _ := picks env w hn fuel
  have hle := h.length_le_gateways
  rcases h.ending with ⟨-, hlength⟩ | hrunning | ⟨-, hzero⟩
  · omega
  · exact hrunning
  · exact absurd hzero hsome

end

/-- Some random source leads to the end of the loop. -/
def CanEnd (gateways : Nat) (devNumGateways : Int) : Prop :=
  ∃ (env : Prog.Env Nat Call.Answer) (fuel : Nat),
    ((pickGateways gateways devNumGateways fuel []).result env 0).1 = .ok

/-- A random source that counts. -/
def counting : Prog.Env Nat Call.Answer := fun n c =>
  (match c with
    | .intn bound => ⟨n % (bound + 1), Nat.mod_lt n (Nat.succ_pos bound)⟩
    | c => Call.answer RPC.unavailable c, n + 1)

/-- A counting source comes to every value in time. -/
theorem mem_draws_counting {bound : Nat} (v : Fin (bound + 1)) {n w : Nat} (hle : w ≤ v.val)
    (hlt : v.val < w + n) : v ∈ draws counting bound n w := by
  induction n generalizing w with
  | zero => omega
  | succ n ih =>
    rcases Nat.eq_or_lt_of_le hle with heq | hlt'
    · refine List.mem_cons.mpr (Or.inl ?_)
      refine Fin.ext ?_
      show v.val = w % (bound + 1)
      rw [heq, Nat.mod_eq_of_lt v.isLt]
    · have hnext : (counting w (.intn bound)).2 = w + 1 := rfl
      refine List.mem_cons_of_mem _ (ih ?_ ?_)
      · rw [hnext]
        exact hlt'
      · omega

/-- **The loop can end exactly if there are enough gateways.** -/
theorem canEnd_iff {gateways : Nat} {devNumGateways : Int} (hn : 0 ≤ devNumGateways) :
    CanEnd gateways devNumGateways ↔ devNumGateways ≤ gateways := by
  constructor
  · rintro ⟨env, fuel, hok⟩
    have h : Picks gateways devNumGateways _ := picks env 0 hn fuel
    have hle := h.length_le_gateways
    rcases h.ending with ⟨-, hlength⟩ | hrunning | ⟨hpanic, -⟩
    · omega
    · rw [hok] at hrunning
      cases hrunning
    · rw [hok] at hpanic
      cases hpanic
  · intro henough
    cases gateways with
    | zero =>
      refine ⟨counting, 0, ?_⟩
      have hnone : ¬ (([] : List Nat).length : Int) < devNumGateways := by
        simp only [List.length_nil]
        omega
      unfold pickGateways
      rw [if_neg hnone]
      rfl
    | succ bound =>
      refine ⟨counting, bound + 1, pickGateways_ok (by omega) fun v => Or.inr ?_⟩
      exact mem_draws_counting v (Nat.zero_le _) (by omega)

/-! ## The law -/

/-- How many gateway objects a run has made. -/
def gatewaysMade (es : List (Prog.Event Call.Answer)) : Nat :=
  es.countP fun e => match e.call with
    | .newGateway _ => true
    | _ => false

/-- The number of gateways drawn for a device is one of these. -/
abbrev Extra (sim : Simulation) : Type := Fin ((sim.gatewayMaxCount - sim.gatewayMinCount).toNat + 1)

/-- How many gateways a device gets, for a number drawn. -/
def devNumGateways (sim : Simulation) (extra : Extra sim) : Int := sim.gatewayMinCount + extra.val

/-- These are so many different gateways of those that are loaded. -/
structure Selected (sim : Simulation) (s : Loaded) (gateways : List Nat) : Prop where
  nodup : gateways.Nodup
  lt : ∀ n ∈ gateways, n < s.gatewayIDs.length
  min : sim.gatewayMinCount ≤ gateways.length
  max : (gateways.length : Int) ≤ sim.gatewayMaxCount

/-- **The selection of gateways can finish** with what is loaded.  All gateways loaded are built; for
    every device and every number drawn there are enough of them and the loop can end; when it ends it
    has picked exactly so many different ones, and those are what a device is made with. -/
structure Selects (lib : Parsers) (sim : Simulation) (s : Loaded) : Prop where
  built : ∀ {σ : Type} (env : Prog.Env σ Call.Answer) (w : σ),
    gatewaysMade ((newGateways lib sim s.gatewayIDs).events env w) = s.gatewayIDs.length
  enough : ∀ key ∈ s.deviceAppKeys, ∀ extra, devNumGateways sim extra ≤ s.gatewayIDs.length
  ends : ∀ key ∈ s.deviceAppKeys, ∀ extra, CanEnd s.gatewayIDs.length (devNumGateways sim extra)
  exact : ∀ {σ : Type} (env : Prog.Env σ Call.Answer) (w : σ) (fuel : Nat) (extra : Extra sim)
    (gateways : List Nat), (pickGateways s.gatewayIDs.length (devNumGateways sim extra) fuel
      []).result env w = (.ok, gateways) →
    (gateways.length : Int) = devNumGateways sim extra ∧ Selected sim s gateways
  made : ∀ {σ : Type} (env : Prog.Env σ Call.Answer) (w : σ) (fuel : Nat),
    ∀ e ∈ (runSimulation lib sim fuel s).events env w, ∀ opts, e.call = .newDevice opts →
      Selected sim s opts.gateways

section
variable {lib : Parsers} {sim : Simulation} {s : Loaded}

/-- Where the templates parse, every gateway is built. -/
theorem gatewaysMade_newGateways {σ : Type} (hparse : TemplatesParse lib sim)
    (env : Prog.Env σ Call.Answer) (ids : List EUI64) (w : σ) :
    gatewaysMade ((newGateways lib sim ids).events env w) = ids.length := by
  induction ids generalizing w with
  | nil => rfl
  | cons id ids ih =>
    have hcount (e : Prog.Event Call.Answer) (es : List (Prog.Event Call.Answer))
        (he : ∃ opts, e.call = .newGateway opts) :
        gatewaysMade (e :: es) = gatewaysMade es + 1 := by
      obtain ⟨opts, hcall⟩ := he
      unfold gatewaysMade
      rw [List.countP_cons_of_pos]
      rw [hcall]
    unfold newGateways newGateway
    rw [hparse.1, hparse.2]
    exact (hcount _ _ ⟨_, rfl⟩).trans (congrArg (· + 1) (ih _))

/-- The numbers drawn are within the bounds. -/
theorem devNumGateways_bounds (hbounds : sim.gatewayMinCount ≤ sim.gatewayMaxCount)
    (extra : Extra sim) : sim.gatewayMinCount ≤ devNumGateways sim extra ∧
      devNumGateways sim extra ≤ sim.gatewayMaxCount := by
  have hextra : extra.val < (sim.gatewayMaxCount - sim.gatewayMinCount).toNat + 1 := extra.isLt
  unfold devNumGateways
  omega

/-- A loop that ends well has picked what it should. -/
theorem selected_of_picks (hbounds : sim.gatewayMinCount ≤ sim.gatewayMaxCount) {extra : Extra sim}
    {gateways : List Nat}
    (h : Picks s.gatewayIDs.length (devNumGateways sim extra) (.ok, gateways)) :
    (gateways.length : Int) = devNumGateways sim extra ∧ Selected sim s gateways := by
  have hlength : (gateways.length : Int) = devNumGateways sim extra := by
    rcases h.ending with ⟨-, hlength⟩ | hrunning | ⟨hpanic, -⟩
    · exact hlength
    · cases hrunning
    · cases hpanic
  obtain ⟨hmin, hmax⟩ := devNumGateways_bounds hbounds extra
  exact ⟨hlength, h.nodup, h.lt, by omega, by omega⟩

/-- The call makes no device but one with a selection of gateways. -/
def MakesSelected (sim : Simulation) (s : Loaded) (c : Call) : Prop :=
  ∀ opts, c = .newDevice opts → Selected sim s opts.gateways

variable (sim s)

theorem makesSelected_of_none (c : Call) (h : MakesNone c) : MakesSelected sim s c := by
  rintro opts rfl
  exact absurd h not_false

/-- By induction on the devices: each is made with its own draw. -/
theorem selected_newDevices (hpos : 0 ≤ sim.gatewayMinCount)
    (hbounds : sim.gatewayMinCount ≤ sim.gatewayMaxCount) (fuel : Nat)
    (keys : List (EUI64 × AES128Key)) (deviceIdx : Nat) :
    (newDevices sim fuel s deviceIdx keys).Keeps (fun _ _ => True) (MakesSelected sim s)
      fun _ => True := by
  induction keys generalizing deviceIdx with
  | nil => trivial
  | cons key keys ih =>
    obtain ⟨devEUI, appKey⟩ := key
    unfold newDevices
    split
    · trivial
    · refine Prog.Keeps.ask_bind (makesSelected_of_none sim s _ trivial) fun (extra : Extra sim) _ => ?_
      have hdrawn : 0 ≤ devNumGateways sim extra :=
        hpos.trans (devNumGateways_bounds hbounds extra).1
      have hpicks := Prog.Keeps.mono_calls (makesSelected_of_none sim s)
        (picks_pickGateways s.gatewayIDs.length (devNumGateways sim extra) fuel List.nodup_nil
          (fun _ h => absurd h List.not_mem_nil) hdrawn)
      refine hpicks.bind fun r hr => ?_
      obtain ⟨e, gateways⟩ := r
      cases e with
      | ok =>
        refine Prog.Keeps.ask_bind ?_ fun _ _ => ih (deviceIdx + 1)
        intro opts heq
        cases heq
        exact (selected_of_picks hbounds hr).2
      | error text => trivial
      | running => trivial
      | panic => trivial

theorem selected_runSimulation (hparse : TemplatesParse lib sim) (hpos : 0 ≤ sim.gatewayMinCount)
    (hbounds : sim.gatewayMinCount ≤ sim.gatewayMaxCount) (fuel : Nat) :
    (runSimulation lib sim fuel s).Keeps (fun _ _ => True) (MakesSelected sim s)
      fun _ => True := by
  have hnone := Prog.Keeps.mono_calls (makesSelected_of_none sim s)
    (keeps_newGateways hparse s.gatewayIDs)
  refine hnone.bind fun e he => ?_
  obtain rfl := he
  refine (selected_newDevices sim s hpos hbounds fuel s.deviceAppKeys 0).bind fun e _ => ?_
  cases e with
  | ok => exact Prog.Keeps.ask_bind (makesSelected_of_none sim s _ trivial) fun _ _ => trivial
  | error text => trivial
  | running => trivial
  | panic => trivial

variable {sim s}

/-- With what is loaded the selection can finish exactly if there is no device, or there are enough
    gateways. -/
theorem selects_loaded_iff (hparse : TemplatesParse lib sim) (hpos : 0 ≤ sim.gatewayMinCount)
    (hsame : sim.gatewayMaxCount = sim.gatewayMinCount) :
    Selects lib sim s ↔ s.deviceAppKeys = [] ∨ sim.gatewayMinCount ≤ s.gatewayIDs.length := by
  have hbounds : sim.gatewayMinCount ≤ sim.gatewayMaxCount := hsame.ge
  constructor
  · intro h
    cases hkeys : s.deviceAppKeys with
    | nil => exact Or.inl rfl
    | cons key keys =>
      refine Or.inr ?_
      calc sim.gatewayMinCount ≤ devNumGateways sim 0 := (devNumGateways_bounds hbounds 0).1
        _ ≤ s.gatewayIDs.length := h.enough key (hkeys ▸ List.mem_cons_self) 0
  · intro h
    have henough : ∀ key ∈ s.deviceAppKeys, ∀ extra,
        devNumGateways sim extra ≤ s.gatewayIDs.length := by
      intro key hkey extra
      rcases h with hnone | hle
      · rw [hnone] at hkey
        exact absurd hkey List.not_mem_nil
      · have hmax := (devNumGateways_bounds hbounds extra).2
        omega
    have hdrawn (extra : Extra sim) : 0 ≤ devNumGateways sim extra :=
      hpos.trans (devNumGateways_bounds hbounds extra).1
    refine ⟨fun env w => gatewaysMade_newGateways hparse env _ w, henough, ?_, ?_, ?_⟩
    · exact fun key hkey extra => (canEnd_iff (hdrawn extra)).mpr (henough key hkey extra)
    · intro σ env w fuel extra gateways hresult
      exact selected_of_picks hbounds (hresult ▸ picks env w (hdrawn extra) fuel)
    · intro σ env w fuel e he opts hcall
      have hcalls : ∀ e ∈ (runSimulation lib sim fuel s).events env w, MakesSelected sim s e.call :=
        ((selected_runSimulation sim s hparse hpos hbounds fuel).of_run fun _ _ => trivial).1
      exact hcalls e he opts hcall

/-- With too few gateways, but one, a simulation with a device never ends. -/
theorem running_afterInit {σ : Type} (hparse : TemplatesParse lib sim)
    (hsame : sim.gatewayMaxCount = sim.gatewayMinCount) (hsome : s.gatewayIDs ≠ [])
    (hfew : (s.gatewayIDs.length : Int) < sim.gatewayMinCount) (hdevices : s.deviceAppKeys ≠ [])
    (fuel : Nat) (env : Prog.Env σ Call.Answer) (w : σ) :
    (afterInit lib sim fuel s).result env w = .running := by
  obtain ⟨⟨devEUI, appKey⟩, keys, hkeys⟩ := List.exists_cons_of_ne_nil hdevices
  have hpositive : ¬ sim.gatewayMaxCount - sim.gatewayMinCount + 1 ≤ 0 := by omega
  have hbuilt : (newGateways lib sim s.gatewayIDs).result env w = .ok :=
    (keeps_newGateways hparse s.gatewayIDs).of_env (fun _ _ => trivial) w
  have hpick (extra : Nat) (w : σ) : ((pickGateways s.gatewayIDs.length
      (sim.gatewayMinCount + extra) fuel []).result env w).1 = .running := by
    have hlength : s.gatewayIDs.length ≠ 0 := fun h => hsome (List.length_eq_zero_iff.mp h)
    exact running_pickGateways env w hlength (by omega) fuel
  have hdevice (w : σ) :
      (newDevices sim fuel s 0 ((devEUI, appKey) :: keys)).result env w = .running := by
    unfold newDevices
    rw [if_neg hpositive]
    simp only [Prog.result_bind, result_callAsk, final_callAsk]
    generalize (env w (.intn (sim.gatewayMaxCount - sim.gatewayMinCount).toNat)).2 = w'
    generalize (env w (.intn (sim.gatewayMaxCount - sim.gatewayMinCount).toNat)).1 = extra
    have hrunning := hpick extra.val w'
    generalize pickGateways s.gatewayIDs.length (sim.gatewayMinCount + extra.val) fuel [] = p at *
    generalize p.result env w' = r at *
    obtain ⟨e, gateways⟩ := r
    obtain rfl : e = .running := hrunning
    rfl
  simp only [afterInit, runSimulation, Prog.result_bind, hbuilt, hkeys, hdevice, Prog.result_pure]

end

/-- **The selection of gateways can finish exactly if** no answer of the set-up gives the simulation a
    device, or the second listing has at least as many ids that parse as the first one had entries. -/
theorem selection_iff {σ τ : Type} {lib : Parsers} (hlib : Parsers.Lawful lib)
    (parseDuration : String → Except String Int) (env₁ : Prog.Env σ Call.Answer) (w₁ : σ)
    {post : Bool} {body : Except String StartRequest} {status : Status} {sim : Simulation}
    (hsim : sim ∈ launched ((handleStart parseDuration post body status).events env₁ w₁))
    (env₂ : Prog.Env τ Call.Answer) (second : Except RPCError (List ListItem)) (w₂ : τ) (fuel : Nat) :
    ∃ first : List ListItem,
      Listed ((handleStart parseDuration post body status).events env₁ w₁) sim.tenantID first ∧
      sim.gatewayMinCount = first.length ∧ sim.gatewayMaxCount = first.length ∧
      (Selects lib sim ((init lib sim fuel .empty).result (relist env₂ second) w₂).1 ↔
        (∀ e ∈ (init lib sim fuel .empty).events (relist env₂ second) w₂,
          ¬ GivesDevice lib e.call e.answer) ∨ first.length ≤ parsedCount lib second) := by
  have hcounted := counted_launched parseDuration env₁ w₁ hsim
  obtain ⟨first, hlisted, -, hmin, hmax⟩ := hcounted.listed
  have hparse : TemplatesParse lib sim := by
    refine ⟨?_, ?_⟩
    · rw [hcounted.eventTopicTemplate]
      exact hlib.event
    · rw [hcounted.commandTopicTemplate]
      exact hlib.command
  refine ⟨first, hlisted, hmin, hmax, ?_⟩
  rw [selects_loaded_iff hparse (by omega) (hmax.trans hmin.symm), ← noDevices_iff, hmin]
  by_cases hnone : ((init lib sim fuel .empty).result (relist env₂ second) w₂).1.deviceAppKeys = []
  · exact iff_of_true (Or.inl hnone) (Or.inl hnone)
  · have hids := gatewayIDs_init hcounted.passiveMode env₂ second w₂ fuel hnone
    rw [or_iff_right hnone, or_iff_right hnone, hids, Int.ofNat_le]

/-! ### A gateway that is deleted between the two listings -/

/-- A tenant with two gateways, and an application of one device. -/
def twoGateways : (r : RPC) → r.Answer
  | .listGateways _ _ => .ok [⟨"0102030405060708", "first"⟩, ⟨"0102030405060709", "second"⟩]
  | r => letterDevice r

/-- The simulation a start launches. -/
def pairSimulation : Simulation :=
  { letterSimulation [] with gatewayMinCount := 2, gatewayMaxCount := 2 }

/-- What a start asks for and is answered. -/
def pairStart : List (Prog.Event Call.Answer) :=
  (handleStart someDurations true (.ok .empty) .idle).events (database (Call.answer twoGateways))
    fun _ => none

theorem pairSimulation_launched : pairSimulation ∈ launched pairStart := by
  have hpayload : Hex.decode "001903F521" = some [0, 25, 3, 245, 33] := by decide
  have hlaunched : launchedFrom 0 [simulatorConfig someDurations "acme" "sensors" 2 1
      (some (missingConfig "acme" 1 "sensors" "sim-dev")) []] = [pairSimulation] := by
    unfold launchedFrom newSimulation
    have hdefault : (simulatorConfig someDurations "acme" "sensors" 2 1
        (some (missingConfig "acme" 1 "sensors" "sim-dev")) []).device.payload = "001903F521" := rfl
    rw [hdefault, hpayload]
    rfl
  unfold pairStart
  rw [launched_handleStart someDurations _ _ rfl (Or.inl rfl)]
  show _ ∈ launchedFrom 0 [simulatorConfig someDurations "acme" "sensors" 2 1
    (some (missingConfig "acme" 1 "sensors" "sim-dev")) []]
  rw [hlaunched]
  exact List.mem_singleton.mpr rfl

/-- The set-up, in which the second of the gateways is not listed any more. -/
def oneLeft : Prog.Env Unit Call.Answer :=
  relist (steady (Call.answer twoGateways)) (.ok [⟨"0102030405060708", "first"⟩])

theorem init_oneLeft :
    (init .plain pairSimulation 1 .empty).result oneLeft () = (letterLoaded, .ok) := rfl

/-- The rule at that simulation. -/
theorem selection_iff_pair : ∃ first : List ListItem,
    Listed pairStart pairSimulation.tenantID first ∧
    pairSimulation.gatewayMinCount = first.length ∧ pairSimulation.gatewayMaxCount = first.length ∧
    (Selects .plain pairSimulation ((init .plain pairSimulation 1 .empty).result oneLeft ()).1 ↔
      (∀ e ∈ (init .plain pairSimulation 1 .empty).events oneLeft (),
        ¬ GivesDevice .plain e.call e.answer) ∨
      first.length ≤ parsedCount .plain (.ok [⟨"0102030405060708", "first"⟩])) :=
  selection_iff Resolution.lawful_plain someDurations (database (Call.answer twoGateways))
    (fun _ => none) pairSimulation_launched (steady (Call.answer twoGateways))
    (.ok [⟨"0102030405060708", "first"⟩]) () 1

/-- Its device is to get two gateways, there is one, and the loop never ends. -/
theorem oneLeft_stuck : pairSimulation ∈ launched pairStart ∧
    (init .plain pairSimulation 1 .empty).result oneLeft () = (letterLoaded, .ok) ∧
    ¬ Selects .plain pairSimulation letterLoaded ∧
    ∀ {σ : Type} (env : Prog.Env σ Call.Answer) (w : σ) (fuel : Nat),
      (afterInit .plain pairSimulation fuel letterLoaded).result env w = .running := by
  have hparse : TemplatesParse .plain pairSimulation := ⟨rfl, rfl⟩
  have hgateways : letterLoaded.gatewayIDs.length = 1 := rfl
  have hdevices : letterLoaded.deviceAppKeys ≠ [] := List.cons_ne_nil _ _
  have hmin : pairSimulation.gatewayMinCount = 2 := rfl
  refine ⟨pairSimulation_launched, init_oneLeft, ?_, ?_⟩
  · rw [selects_loaded_iff hparse (by decide) rfl, hmin, hgateways]
    rintro (hnone | hle)
    · exact hdevices hnone
    · omega
  · intro σ env w fuel
    refine running_afterInit hparse rfl (List.cons_ne_nil _ _) ?_ hdevices fuel env w
    rw [hmin, hgateways]
    omega

end ChirpStackSimulator.GatewaySelection
