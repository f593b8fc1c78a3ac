/-
  What is written to ChirpStack in passive mode (`requireWriteMode`, `handleBootstrap`,
  `simulation.setupDevices`).

  While `IsPassiveModeEnabled` answers true, the guarded routes let only reading requests through.  Two
  paths have no guard: `/api/bootstrap`, and the keys of the devices a passive simulation sets up.  Each
  writes as soon as an answer makes it, and no other task ever does.

  1. **The law** — `IsWrite`; `Harmless` says which answers lead a task to no write.
  2. **Reading requests** — the handlers behind `requireWriteMode` that a GET request reaches.
  3. **`handleBootstrap`** — it writes unless everything is there and the random source fails.
  4. **`handleStart`** — it launches passive simulations only.
  5. **Simulations** — a passive one writes for a device without keys, and for one with a blank AppKey.
  6. `writesNothing_iff`: a run writes nothing exactly if all its answers are harmless.
-/
import ChirpStackSimulator.Routes
import ChirpStackSimulator.FailedInit

namespace ChirpStackSimulator.Routes

open Handlers Bootstrap Discovery
open Lifecycle (Status)

/-! ## The law -/

/-- The call creates, updates or deletes something in ChirpStack. -/
def IsWrite : Call → Prop
  | .rpc r => r.Writes
  | _ => False

/-- The call does not write, and what it launches is passive. -/
def Allowed : Call → Prop
  | .rpc r => ¬ r.Writes
  | .launch sim => sim.passiveMode = true
  | _ => True

/-- Passive mode is stored as enabled. -/
def PassiveOn : (c : Call) → c.Answer → Prop
  | .getSystemState key, x => key = "passive_mode" → x = .ok "true"
  | _, _ => True

/-- The answer leads an accepted bootstrap request to no write: its organisation is there, or its
    profiles, or its first application, or the random source fails. -/
def BootstrapHarmless (req : BootstrapRequest) : (c : Call) → c.Answer → Prop
  | .rpc (.listTenants _), tenants => findID (listed tenants) req.orgName ≠ ""
  | .rpc (.listDeviceProfiles _ _), profiles =>
    ∀ i ∈ List.range' 1 req.dpCount.toNat, findID (listed profiles) (dpName req i) ≠ ""
  | .rpc (.listApplications _ _), apps => findID (listed apps) (appName req 1) ≠ ""
  | .randRead 16, .ok _ => False
  | _, _ => True

/-- The answer leads a passive simulation to no write: the keys of the device are there, with an
    AppKey that is not blank, or the random source fails. -/
def SimulationHarmless : (c : Call) → c.Answer → Prop
  | .rpc (.getKeys _), .ok keys => ¬ Setup.BlankKey keys.appKey
  | .randRead _, .ok _ => False
  | _, _ => True

section
variable (secretToken : String)

/-- The bootstrap request that is accepted. -/
def bootstraps (r : HTTPRequest) : Option BootstrapRequest :=
  if r.cookie = some secretToken ∧ route r.path = .bootstrap ∧ r.method = .post then
    match r.body.bootstrap with
    | .error _ => none
    | .ok req => if refusal req = none then some req else none
  else none

/-- The answer leads the task to no write. -/
def Harmless : Task → (c : Call) → c.Answer → Prop
  | .request r _, c, x => ∀ req, bootstraps secretToken r = some req → BootstrapHarmless req c x
  | .simulation _, c, x => SimulationHarmless c x
  | .sync, _, _ => True

end

/-- A simulation that is started is passive. -/
def PassiveTask : Task → Prop
  | .simulation sim => sim.passiveMode = true
  | _ => True

/-- The contract of passive mode. -/
def Guarded {α : Type} (Q : (c : Call) → c.Answer → Prop) (p : Action α) (R : α → Prop) : Prop :=
  p.Sharp PassiveOn Q Allowed IsWrite R

/-- The program only looks. -/
def Peeks {α : Type} (p : Action α) : Prop := p.Keeps (fun _ _ => True) Looks fun _ => True

/-- A call that looks launches nothing, so passive mode allows it. -/
theorem allowed_of_looks {c : Call} (h : Looks c) : Allowed c := by
  cases c with
  | launch sim => exact absurd h not_false
  | rpc r => exact h
  | _ => trivial

/-- A program of looks keeps the contract if every answer is harmless to it. -/
theorem guarded_of_looks {α : Type} {Q : (c : Call) → c.Answer → Prop} {R : α → Prop} {p : Action α}
    (h : p.Keeps (fun _ _ => True) Looks R) (hQ : ∀ c x, Q c x) : Guarded Q p R := by
  refine Prog.Sharp.of_keeps (Prog.Keeps.mono_answers (fun _ _ _ => trivial) ?_)
  exact Prog.Keeps.mono_calls (fun c hc => ⟨allowed_of_looks hc, fun x _ => hQ c x⟩) h

/-! ## Reading requests -/

section
variable {α β : Type}

theorem peeks_pure (a : α) : Peeks (pure a : Action α) := trivial

/-- Reading requests are put together from reading parts. -/
theorem Peeks.bind {p : Action α} {f : α → Action β} (hp : Peeks p) (hf : ∀ a, Peeks (f a)) :
    Peeks (p >>= f) :=
  Prog.Keeps.bind hp fun a _ => hf a

theorem Peeks.map {p : Action α} (f : α → β) (hp : Peeks p) : Peeks (f <$> p) :=
  hp.bind fun a => peeks_pure (f a)

/-- A call that looks, and a reading program whatever the answer. -/
theorem Peeks.ask_bind {c : Call} {f : c.Answer → Action β} (h : Looks c)
    (hf : ∀ x, Peeks (f x)) : Peeks (c.ask >>= f) :=
  Prog.Keeps.ask_bind h fun x _ => hf x

theorem Peeks.rpc_bind {r : RPC} {f : r.Answer → Action β} (h : ¬ r.Writes)
    (hf : ∀ x, Peeks (f x)) : Peeks (rpc r >>= f) :=
  Peeks.ask_bind (c := .rpc r) h hf

/-- So is a loop over a reading body, by induction on what it goes over. -/
theorem peeks_forEach {f : α → Action Unit} (hf : ∀ a, Peeks (f a)) (as : List α) :
    Peeks (forEach f as) := by
  induction as with
  | nil => exact peeks_pure ()
  | cons a as ih => exact (hf a).bind fun _ => ih

end

/-- The checks before a handler's own work change nothing: its method here, the connection next. -/
theorem peeks_only {expected m : Method} {k : Action Response} (h : Peeks k) :
    Peeks (only expected m k) := by
  unfold only
  split
  · exact peeks_pure _
  · exact h

theorem peeks_connected (error : String) {k : Action Response} (h : Peeks k) :
    Peeks (connected error k) := by
  refine Peeks.ask_bind trivial fun x => ?_
  match x with
  | false => exact peeks_pure _
  | true => exact h

/-- The shape of the listings: once for a given tenant, or once for each there is. -/
theorem peeks_listForTenants (m : Method) (query : Query) (unconnected failed : String)
    {list : String → Action Unit} (h : ∀ id, Peeks (list id)) :
    Peeks (listForTenants m query unconnected failed list) := by
  refine peeks_only (peeks_connected unconnected ?_)
  split
  · exact (peeks_forEach h _).bind fun _ => peeks_pure _
  · refine Peeks.rpc_bind not_false fun x => ?_
    cases x with
    | error e => exact peeks_pure _
    | ok tenants => exact (peeks_forEach h _).bind fun _ => peeks_pure _

/-- The listing of the organisations stores the missing configurations, which is not in ChirpStack.
    -/
theorem peeks_handleListOrganizations (m : Method) : Peeks (handleListOrganizations m) := by
  refine peeks_only (peeks_connected _ ?_)
  refine Peeks.bind looks_syncMissingOrgConfigs fun _ => Peeks.rpc_bind not_false fun x => ?_
  cases x with
  | error e => exact peeks_pure _
  | ok tenants => exact peeks_pure _

theorem peeks_handleListApplications (m : Method) (query : Query) :
    Peeks (handleListApplications m query) :=
  peeks_listForTenants m query _ _ fun _ => Peeks.rpc_bind not_false fun _ => peeks_pure ()

theorem peeks_handleListGateways (m : Method) (query : Query) :
    Peeks (handleListGateways m query) :=
  peeks_listForTenants m query _ _ fun _ => Peeks.rpc_bind not_false fun _ => peeks_pure ()

theorem peeks_handleListDeviceProfiles (m : Method) (query : Query) :
    Peeks (handleListDeviceProfiles m query) := by
  refine peeks_listForTenants m query _ _ fun id => Peeks.rpc_bind not_false fun x => ?_
  cases x with
  | error e => exact peeks_pure ()
  | ok profiles =>
    refine peeks_forEach (fun dp => ?_) _
    exact Peeks.rpc_bind not_false fun _ => peeks_pure ()

theorem peeks_handleGetDeviceProfile (m : Method) (id : String) :
    Peeks (handleGetDeviceProfile m id) := by
  refine peeks_only (peeks_connected _ (Peeks.rpc_bind not_false fun x => ?_))
  cases x with
  | error e => exact peeks_pure _
  | ok profile => exact peeks_pure _

theorem peeks_applicationsOf (tenantID : String) : Peeks (applicationsOf tenantID) := by
  refine Peeks.rpc_bind not_false fun x => ?_
  cases x with
  | error e => exact peeks_pure _
  | ok apps => exact peeks_pure _

/-- A tenant whose applications cannot be listed is left out, so the loop goes on. -/
theorem peeks_applicationsOfAll (tenants : List ListItem) : Peeks (applicationsOfAll tenants) := by
  induction tenants with
  | nil => exact peeks_pure _
  | cons tenant tenants ih =>
    exact (peeks_applicationsOf tenant.id).bind fun _ => ih.bind fun _ => peeks_pure _

/-- The three ways a request names the applications whose devices it lists. -/
theorem peeks_askedApplications (query : Query) : Peeks (askedApplications query) := by
  unfold askedApplications
  split
  · exact Peeks.rpc_bind not_false fun _ => peeks_pure _
  · split
    · exact (peeks_applicationsOf _).bind fun _ => peeks_pure _
    · refine Peeks.rpc_bind not_false fun x => ?_
      cases x with
      | error e => exact peeks_pure _
      | ok tenants => exact (peeks_applicationsOfAll tenants).bind fun _ => peeks_pure _

theorem peeks_handleListDevices (m : Method) (query : Query) :
    Peeks (handleListDevices m query) := by
  refine peeks_only (peeks_connected _ ((peeks_askedApplications query).bind fun x => ?_))
  split
  · exact peeks_pure _
  · exact Peeks.rpc_bind not_false fun _ => peeks_pure _
  · refine (peeks_forEach (fun appID => ?_) _).bind fun _ => peeks_pure _
    exact Peeks.rpc_bind not_false fun _ => peeks_pure ()

/-- Of the methods of one device, `GET` only looks. -/
theorem peeks_getDevice (devEUI : String) (body : Except String CreateDeviceRequest) :
    Peeks (handleDeviceByID .get devEUI body) := by
  refine peeks_connected _ (Peeks.rpc_bind not_false fun x => ?_)
  cases x with
  | error e => exact peeks_pure _
  | ok device => exact peeks_pure _

theorem peeks_decoded {α : Type} (error : String) (body : Except String α)
    {k : α → Action Response} (h : ∀ req, Peeks (k req)) : Peeks (decoded error body k) := by
  unfold decoded
  split
  · exact peeks_pure _
  · exact h _

/-- A dispatch by method reads if each of its handlers does, by induction on their list. -/
theorem peeks_byMethod (m : Method) {handlers : List (Method × Action Response)}
    (h : ∀ e ∈ handlers, Peeks e.2) : Peeks (byMethod m handlers) := by
  unfold byMethod
  induction handlers with
  | nil => exact peeks_pure _
  | cons e handlers ih =>
    obtain ⟨he, hrest⟩ := List.forall_mem_cons.mp h
    rw [List.lookup_cons]
    split
    · rename_i k hk
      split at hk
      · obtain rfl := Option.some.inj hk
        exact he
      · have := ih hrest
        rwa [hk] at this
    · exact peeks_pure _

theorem peeks_handleGetOrgConfig (orgID : String) : Peeks (handleGetOrgConfig orgID) := by
  refine Peeks.ask_bind trivial fun x => ?_
  cases x with
  | error e => exact peeks_pure _
  | ok cfg => exact peeks_pure _

/-- Saves go to the simulator's own store, so they are no writes to ChirpStack. -/
theorem peeks_handleSaveOrgConfig (parseDuration : String → Except String Int) (orgID : String)
    (body : Except String StartRequest) :
    Peeks (handleSaveOrgConfig parseDuration orgID body) := by
  refine peeks_decoded _ body fun req => ?_
  split
  · exact peeks_pure _
  · refine Peeks.ask_bind trivial fun x => ?_
    cases x with
    | some e => exact peeks_pure _
    | none => exact peeks_pure _

theorem peeks_handleGetDeviceIntervals : Peeks handleGetDeviceIntervals := by
  refine Peeks.ask_bind trivial fun x => ?_
  cases x with
  | error e => exact peeks_pure _
  | ok intervals => exact peeks_pure _

theorem peeks_handleSaveDeviceInterval (body : Except String (String × String)) :
    Peeks (handleSaveDeviceInterval body) := by
  refine peeks_decoded _ body fun req => ?_
  split
  · exact peeks_pure _
  · refine Peeks.ask_bind trivial fun x => ?_
    cases x with
    | some e => exact peeks_pure _
    | none => exact peeks_pure _

theorem peeks_isPassiveModeEnabled : Peeks isPassiveModeEnabled := by
  refine Peeks.ask_bind trivial fun x => ?_
  cases x with
  | error e => exact peeks_pure _
  | ok val => exact peeks_pure _

theorem peeks_handleGetPassiveMode : Peeks handleGetPassiveMode :=
  peeks_isPassiveModeEnabled.bind fun _ => Peeks.ask_bind trivial fun _ => peeks_pure _

theorem peeks_handleSavePassiveMode (m : Method) (body : Except String (Bool × Int)) :
    Peeks (handleSavePassiveMode m body) := by
  refine peeks_only (peeks_decoded _ body fun req => Peeks.ask_bind trivial fun x => ?_)
  cases x with
  | some e => exact peeks_pure _
  | none =>
    refine Peeks.ask_bind trivial fun x => ?_
    cases x with
    | some e => exact peeks_pure _
    | none => exact peeks_pure _

/-- The sync it launches looks as well (`peeks_syncCalls`). -/
theorem peeks_handleTriggerSync (m : Method) : Peeks (handleTriggerSync m) := by
  refine peeks_only (peeks_isPassiveModeEnabled.bind fun passive => ?_)
  split
  · exact peeks_pure _
  · exact peeks_pure _

/-! ## `handleBootstrap` -/

section
variable {α β : Type} {Q : (c : Call) → c.Answer → Prop}

/-- The program comes to a write at once. -/
def AtWrite (p : Action α) : Prop := ∃ d, p.next = some d ∧ IsWrite d

theorem AtWrite.of_eq {p q : Action α} (hpq : p = q) (h : AtWrite q) : AtWrite p := hpq ▸ h

/-- What would come after the write does not matter. -/
theorem AtWrite.bind {p : Action α} (h : AtWrite p) (f : α → Action β) : AtWrite (p >>= f) := by
  obtain ⟨d, hd, hwrite⟩ := h
  exact ⟨d, Prog.next_bind hd, hwrite⟩

theorem guarded_pure {R : α → Prop} {a : α} (h : R a) : Guarded Q (pure a) R := h

/-- The contract of a part that returns, followed by that of what makes use of its result. -/
theorem Guarded.bind {R : α → Prop} {S : β → Prop} {p : Action α} {f : α → Action β}
    (hp : Guarded Q p R) (hf : ∀ a, R a → Guarded Q (f a) S) : Guarded Q (p >>= f) S :=
  Prog.Sharp.bind hp hf

/-- A call all of whose answers are harmless. -/
theorem Guarded.ask_bind {S : β → Prop} {c : Call} {f : c.Answer → Action β} (h : Allowed c)
    (hQ : ∀ x, Q c x) (hf : ∀ x, Guarded Q (f x) S) : Guarded Q (c.ask >>= f) S :=
  Prog.Sharp.ask_bind h (fun x _ _ => hf x) fun x _ hx => absurd (hQ x) hx

/-- A ChirpStack call that reads, none of whose answers opens a way to a write. -/
theorem Guarded.rpc_bind {S : β → Prop} {r : RPC} {f : r.Answer → Action β} (h : ¬ r.Writes)
    (hQ : ∀ x, Q (.rpc r) x) (hf : ∀ x, Guarded Q (f x) S) : Guarded Q (rpc r >>= f) S :=
  Guarded.ask_bind (c := .rpc r) h hQ hf

/-- A call whose answers are not all harmless. -/
theorem Guarded.split_bind {S : β → Prop} {c : Call} {f : c.Answer → Action β} (h : Allowed c)
    (hin : ∀ x, Q c x → Guarded Q (f x) S) (hout : ∀ x, ¬ Q c x → AtWrite (f x)) :
    Guarded Q (c.ask >>= f) S :=
  Prog.Sharp.ask_bind h (fun x _ => hin x) fun x _ => hout x

end

section
variable (req : BootstrapRequest)

section
variable {β : Type} {Q : (c : Call) → c.Answer → Prop} {id : String}

/-- With the id there, nothing is created. -/
theorem orCreate_bind {create : Action (Except RPCError String)} (h : id ≠ "")
    (f : Except RPCError String → Action β) : orCreate id create >>= f = f (.ok id) := by
  unfold orCreate
  rw [if_pos h]
  rfl

/-- What was found is not created again. -/
theorem guarded_orCreate {create : Action (Except RPCError String)} (h : id ≠ "") :
    Guarded Q (orCreate id create) fun r => r = .ok id := by
  unfold orCreate
  rw [if_pos h]
  exact guarded_pure rfl

/-- What was not found is created, and that is the write. -/
theorem atWrite_orCreate {create : Action (Except RPCError String)} (h : ¬ id ≠ "")
    (hcreate : AtWrite create) : AtWrite (orCreate id create) := by
  unfold orCreate
  rwa [if_neg h]

end

/-- The organisation is there, or the next call creates it. -/
theorem guarded_findOrCreateTenant :
    Guarded (BootstrapHarmless req) (findOrCreateTenant req) fun r => ∃ id, r = .ok id := by
  refine Guarded.split_bind (c := .rpc (.listTenants 100)) not_false (fun x hx => ?_) fun x hx => ?_
  · exact Prog.Sharp.mono (fun r hr => ⟨_, hr⟩) (guarded_orCreate hx)
  · exact atWrite_orCreate hx ⟨_, rfl, trivial⟩

/-- With all profiles there nothing is called. -/
theorem findOrCreateProfiles_found (tenantID : String) (existing : List ListItem) {is : List Nat}
    (h : ∀ i ∈ is, findID existing (dpName req i) ≠ "") :
    ∃ ids, findOrCreateProfiles req tenantID existing is = pure (.ok ids) := by
  induction is with
  | nil => exact ⟨[], rfl⟩
  | cons i is ih =>
    obtain ⟨hi, his⟩ := List.forall_mem_cons.mp h
    obtain ⟨ids, hids⟩ := ih his
    refine ⟨findID existing (dpName req i) :: ids, (orCreate_bind hi _).trans ?_⟩
    dsimp only
    rw [hids]
    rfl

/-- Without one of them the first that is missing is created. -/
theorem findOrCreateProfiles_missing (tenantID : String) (existing : List ListItem) {is : List Nat}
    (h : ¬ ∀ i ∈ is, findID existing (dpName req i) ≠ "") :
    AtWrite (findOrCreateProfiles req tenantID existing is) := by
  induction is with
  | nil => exact absurd (fun _ hi => absurd hi List.not_mem_nil) h
  | cons i is ih =>
    by_cases hi : findID existing (dpName req i) ≠ ""
    · have hrest := ih fun his => h (List.forall_mem_cons.mpr ⟨hi, his⟩)
      refine AtWrite.of_eq (orCreate_bind hi _) ?_
      exact hrest.bind _
    · refine AtWrite.bind (atWrite_orCreate hi ?_) _
      exact ⟨_, rfl, trivial⟩

theorem atWrite_replaceKeys (name devEUI appKey interval : String) :
    AtWrite (replaceKeys name devEUI appKey interval) := ⟨_, rfl, trivial⟩

/-- The first device ends the request or writes. -/
theorem guarded_bootstrapDevice (app appID : String) (dpIDs : List String)
    (existing : List DeviceListItem) (j : Nat) :
    Guarded (BootstrapHarmless req) (bootstrapDevice req app appID dpIDs existing j)
      fun r => r ≠ none := by
  have hEUI : Guarded (BootstrapHarmless req) (devEUIOf existing (devName req app j))
      fun _ => True := by
    unfold devEUIOf
    split
    · exact guarded_pure trivial
    · refine Guarded.ask_bind trivial (fun _ => trivial) fun x => ?_
      cases x with
      | error e => exact guarded_pure trivial
      | ok bytes => exact guarded_pure trivial
  refine hEUI.bind fun x _ => ?_
  cases x with
  | error e => exact guarded_pure (Option.some_ne_none _)
  | ok devEUI =>
    refine Guarded.split_bind trivial (fun x hx => ?_) fun x hx => ?_
    · cases x with
      | error e => exact guarded_pure (Option.some_ne_none _)
      | ok bytes => exact absurd hx not_false
    · cases x with
      | error e => exact absurd trivial hx
      | ok bytes =>
        dsimp only
        split
        · exact atWrite_replaceKeys _ _ _ _
        · exact ⟨_, rfl, trivial⟩

/-- With its first application there the loop comes to the devices, and then it is the random source
    that must fail. -/
theorem guarded_bootstrapApps (tenantID : String) (dpIDs : List String) (existing : List ListItem)
    (hdev : 1 ≤ req.devCount) (is : List Nat) (h : findID existing (appName req 1) ≠ "") :
    Guarded (BootstrapHarmless req) (bootstrapApps req tenantID dpIDs existing (1 :: is))
      fun _ => True := by
  obtain ⟨n, hn⟩ : ∃ n, req.devCount.toNat = n + 1 := ⟨req.devCount.toNat - 1, by omega⟩
  have happ : Guarded (BootstrapHarmless req) (bootstrapApp req tenantID dpIDs existing 1)
      fun r => r ≠ none := by
    refine (guarded_orCreate h).bind fun r hr => ?_
    subst hr
    dsimp only
    rw [hn, List.range'_succ]
    refine Guarded.rpc_bind not_false (fun _ => trivial) fun devices => ?_
    refine (guarded_bootstrapDevice req _ _ _ _ _).bind fun x hx => ?_
    cases x with
    | none => exact absurd rfl hx
    | some e => exact guarded_pure (Option.some_ne_none _)
  refine happ.bind fun x hx => ?_
  cases x with
  | none => exact absurd rfl hx
  | some e => exact guarded_pure trivial

/-- Without it the loop creates the application first. -/
theorem bootstrapApps_missing (tenantID : String) (dpIDs : List String) (existing : List ListItem)
    (is : List Nat) (h : ¬ findID existing (appName req 1) ≠ "") :
    AtWrite (bootstrapApps req tenantID dpIDs existing (1 :: is)) := by
  refine AtWrite.bind (AtWrite.bind (atWrite_orCreate h ?_) _) _
  exact ⟨_, rfl, trivial⟩

/-- An accepted request writes as soon as an answer makes it. -/
theorem guarded_bootstrap (h : refusal req = none) :
    Guarded (BootstrapHarmless req) (bootstrap req) fun _ => True := by
  obtain ⟨happ, hdev⟩ : 1 ≤ req.appCount ∧ 1 ≤ req.devCount := by
    unfold refusal at h
    split_ifs at h
    omega
  obtain ⟨n, hn⟩ : ∃ n, req.appCount.toNat = n + 1 := ⟨req.appCount.toNat - 1, by omega⟩
  refine (guarded_findOrCreateTenant req).bind fun x hx => ?_
  obtain ⟨tenantID, rfl⟩ := hx
  refine Guarded.ask_bind trivial (fun _ => trivial) fun _ => ?_
  refine Guarded.split_bind (c := .rpc (.listDeviceProfiles tenantID 100)) not_false
    (fun profiles hprofiles => ?_) fun profiles hprofiles => ?_
  · obtain ⟨dpIDs, hdpIDs⟩ :=
      findOrCreateProfiles_found req tenantID (listed profiles) hprofiles
    rw [hdpIDs, hn, List.range'_succ]
    exact Guarded.split_bind (c := .rpc (.listApplications tenantID 100)) not_false
      (fun apps happs => guarded_bootstrapApps req tenantID dpIDs (listed apps) hdev _ happs)
      fun apps happs => bootstrapApps_missing req tenantID dpIDs (listed apps) _ happs
  · exact (findOrCreateProfiles_missing req tenantID (listed profiles) hprofiles).bind _

end

/-! ## `handleStart` -/

/-- A simulation has the mode of its configuration. -/
theorem passiveMode_newSimulation {i : Nat} {c : SimulatorConfig} {sim : Simulation}
    (h : newSimulation i c = .ok sim) : sim.passiveMode = c.passiveMode := by
  unfold newSimulation at h
  split at h
  · exact absurd h (by simp)
  · obtain rfl := Except.ok.inj h
    rfl

section
variable {Q : (c : Call) → c.Answer → Prop} (hQ : ∀ c x, Q c x)
include hQ

/-- The simulations launched from a passive configuration are passive, by induction on its entries.
    -/
theorem guarded_startLoop (i : Nat) {cfg : List SimulatorConfig} (h : AllPassive cfg) :
    Guarded Q (startLoop i cfg) fun _ => True := by
  induction cfg generalizing i with
  | nil => exact guarded_pure trivial
  | cons c cs ih =>
    obtain ⟨hc, hcs⟩ := List.forall_mem_cons.mp h
    unfold startLoop
    split
    · exact guarded_pure trivial
    · rename_i sim hsim
      refine Guarded.ask_bind ?_ (hQ _) fun _ => ih (i + 1) hcs
      exact (passiveMode_newSimulation hsim).trans hc

/-- A start launches passive simulations and writes nothing itself. -/
theorem guarded_handleStart (parseDuration : String → Except String Int) (post : Bool)
    (body : Except String StartRequest) (status : Status) :
    Guarded Q (handleStart parseDuration post body status) fun _ => True := by
  unfold handleStart
  split
  · exact guarded_pure trivial
  · split
    · exact guarded_pure trivial
    · split
      · exact guarded_pure trivial
      · refine (guarded_of_looks (looks_prepareStart parseDuration) hQ).bind fun x hx => ?_
        cases x with
        | error e => exact guarded_pure trivial
        | ok cfg =>
          dsimp only
          split
          · exact guarded_pure trivial
          · exact (guarded_startLoop hQ 0 (hx cfg rfl)).bind fun _ _ => guarded_pure trivial

end

/-! ## Requests -/

section
variable {Q : (c : Call) → c.Answer → Prop} {R : Option Response → Prop} (secretToken : String)
  (r : HTTPRequest)

/-- A request without the cookie is turned away before any call. -/
theorem guarded_requireAuth (hR : R (some .unauthorized)) {next : Action (Option Response)}
    (h : r.cookie = some secretToken → Guarded Q next R) :
    Guarded Q (requireAuth secretToken r next) R := by
  unfold requireAuth
  split
  · rename_i hcookie
    exact h hcookie
  · exact guarded_pure hR

/-- While passive mode is stored as enabled, it is read as enabled. -/
theorem guarded_isPassiveModeEnabled (hQ : ∀ c x, Q c x) :
    Guarded Q isPassiveModeEnabled fun passive => passive = true := by
  refine Prog.Sharp.ask_bind trivial (fun x hx _ => ?_) fun x _ hx => absurd (hQ _ x) hx
  obtain rfl : x = .ok "true" := hx rfl
  exact guarded_pure rfl

/-- **The guard**: only GET requests get through, and those that do must only look. -/
theorem guarded_requireWriteMode (hQ : ∀ c x, Q c x) {next : Action (Option Response)}
    (h : r.method = .get → Peeks next) :
    Guarded Q (requireWriteMode r next) fun _ => True := by
  unfold requireWriteMode
  split
  · rename_i hget
    exact guarded_of_looks (h hget) hQ
  · refine (guarded_isPassiveModeEnabled hQ).bind fun passive hpassive => ?_
    subst hpassive
    exact guarded_pure trivial

/-- A route behind both guards. -/
theorem guarded_behindGuards (hR : ∀ a, R a) (hQ : ∀ c x, Q c x) {next : Action (Option Response)}
    (h : r.method = .get → Peeks next) :
    Guarded Q (requireAuth secretToken r (requireWriteMode r next)) R :=
  guarded_requireAuth secretToken r (hR _) fun _ =>
    Prog.Sharp.mono (fun a _ => hR a) (guarded_requireWriteMode r hQ h)

/-- A route that only looks. -/
theorem guarded_looking (hR : ∀ a, R a) (hQ : ∀ c x, Q c x) {next : Action (Option Response)}
    (h : Peeks next) : Guarded Q (requireAuth secretToken r next) R :=
  guarded_requireAuth secretToken r (hR _) fun _ =>
    Prog.Sharp.mono (fun a _ => hR a) (guarded_of_looks h hQ)

theorem peeks_withID (id error : String) {k : Action Response} (h : Peeks k) :
    Peeks (withID id error k) := by
  unfold withID
  split
  · exact peeks_pure _
  · exact h

end

section
variable (secretToken : String) (enums : Enums) (parseDuration : String → Except String Int)

/-- No answer leads a request to a write if it does not start a bootstrap. -/
theorem harmless_request {r : HTTPRequest} (status : Status) (h : bootstraps secretToken r = none)
    (c : Call) (x : c.Answer) : Harmless secretToken (.request r status) c x := by
  intro req hreq
  rw [h] at hreq
  exact absurd hreq (by simp)

/-- The bootstrap is the one writing route that passive mode does not bar. -/
theorem guarded_handleBootstrap (r : HTTPRequest) (status : Status)
    (hcookie : r.cookie = some secretToken) (hroute : route r.path = .bootstrap) :
    Guarded (Harmless secretToken (.request r status)) (handleBootstrap r.method r.body.bootstrap)
      fun _ => True := by
  unfold handleBootstrap only
  split
  · exact guarded_pure trivial
  · rename_i hpost
    refine Guarded.ask_bind trivial (fun _ _ _ => trivial) fun x => ?_
    match x with
    | false => exact guarded_pure trivial
    | true =>
      dsimp only [decoded]
      split
      · exact guarded_pure trivial
      · rename_i req hreq
        split
        · exact guarded_pure trivial
        · rename_i hrefusal
          have hboot : bootstraps secretToken r = some req := by
            unfold bootstraps
            rw [if_pos ⟨hcookie, hroute, not_not.mp hpost⟩, hreq]
            exact if_pos hrefusal
          have hharmless : Harmless secretToken (.request r status) = BootstrapHarmless req := by
            funext c x
            simp [Harmless, hboot]
          rw [hharmless]
          exact guarded_bootstrap req hrefusal

/-- Every route keeps the contract. -/
theorem guarded_serve (r : HTTPRequest) (status : Status) :
    Guarded (Harmless secretToken (.request r status))
      (serve secretToken enums parseDuration r status) fun _ => True := by
  unfold serve
  by_cases hboot : route r.path = .bootstrap
  · rw [hboot]
    refine guarded_requireAuth secretToken r trivial fun hcookie => ?_
    exact (guarded_handleBootstrap secretToken r status hcookie hboot).bind fun _ _ => trivial
  have hQ := harmless_request secretToken (r := r) status (by simp [bootstraps, hboot])
  generalize route r.path = rt at hboot
  cases rt with
  | login | logout | authStatus | health | ui => exact guarded_pure trivial
  | logStream | config | status | stop | metrics | activeDevices | activeGateways | smtpConfig
  | testEmail | syncStatus | syncEvents | syncDismiss =>
    exact guarded_requireAuth secretToken r trivial fun _ => guarded_pure trivial
  | bootstrap => exact absurd rfl hboot
  | start =>
    refine guarded_requireAuth secretToken r trivial fun _ => ?_
    exact (guarded_handleStart hQ parseDuration _ _ status).bind fun _ _ => guarded_pure trivial
  | organizations =>
    refine guarded_behindGuards secretToken r (fun _ => trivial) hQ fun hget => ?_
    rw [hget]
    exact (peeks_handleListOrganizations .get).map _
  | organization id =>
    refine guarded_behindGuards secretToken r (fun _ => trivial) hQ fun hget => ?_
    rw [hget]
    exact (peeks_withID id _ (peeks_pure .methodNotAllowed)).map _
  | orgConfig orgID =>
    refine guarded_looking secretToken r (fun _ => trivial) hQ ?_
    exact (peeks_withID orgID _ (peeks_byMethod _ (by
      simp [peeks_handleGetOrgConfig, peeks_handleSaveOrgConfig]))).map _
  | deviceProfiles =>
    refine guarded_behindGuards secretToken r (fun _ => trivial) hQ fun hget => ?_
    rw [hget]
    exact (peeks_handleListDeviceProfiles .get r.query).map _
  | deviceProfile id =>
    refine guarded_behindGuards secretToken r (fun _ => trivial) hQ fun hget => ?_
    rw [hget]
    exact (peeks_withID id _ (peeks_handleGetDeviceProfile .get id)).map _
  | applications =>
    refine guarded_behindGuards secretToken r (fun _ => trivial) hQ fun hget => ?_
    rw [hget]
    exact (peeks_handleListApplications .get r.query).map _
  | application id =>
    refine guarded_behindGuards secretToken r (fun _ => trivial) hQ fun hget => ?_
    rw [hget]
    exact (peeks_withID id _ (peeks_pure .methodNotAllowed)).map _
  | gateways =>
    refine guarded_behindGuards secretToken r (fun _ => trivial) hQ fun hget => ?_
    rw [hget]
    exact (peeks_handleListGateways .get r.query).map _
  | gateway id =>
    refine guarded_behindGuards secretToken r (fun _ => trivial) hQ fun hget => ?_
    rw [hget]
    exact (peeks_withID id _ (peeks_pure .methodNotAllowed)).map _
  | devices =>
    refine guarded_behindGuards secretToken r (fun _ => trivial) hQ fun hget => ?_
    rw [hget]
    exact (peeks_handleListDevices .get r.query).map _
  | device path =>
    refine guarded_behindGuards secretToken r (fun _ => trivial) hQ fun hget => ?_
    rw [hget]
    split
    · exact peeks_pure _
    · split
      · exact peeks_pure _
      · exact (peeks_getDevice path r.body.device).map _
  | deviceIntervals =>
    refine guarded_looking secretToken r (fun _ => trivial) hQ ?_
    exact (peeks_byMethod _ (by
      simp [peeks_handleGetDeviceIntervals, peeks_handleSaveDeviceInterval])).map _
  | passiveMode =>
    refine guarded_looking secretToken r (fun _ => trivial) hQ ?_
    exact (peeks_byMethod _ (by
      simp [peeks_handleGetPassiveMode, peeks_handleSavePassiveMode])).map _
  | syncTrigger =>
    exact guarded_looking secretToken r (fun _ => trivial) hQ
      ((peeks_handleTriggerSync r.method).map _)

end

/-! ## Syncs -/

/-- The listings below some parents, whatever level they are of. -/
theorem peeks_idsBelow {list : String → Action (Except RPCError (List String))}
    (h : ∀ id, Peeks (list id)) (parents : List String) : Peeks (idsBelow list parents) := by
  induction parents with
  | nil => exact peeks_pure _
  | cons parent parents ih =>
    refine (h parent).bind fun listing => ih.bind fun rest => ?_
    split
    · exact peeks_pure _
    · exact peeks_pure _

/-- **The sync** lists the topology from the tenants down and changes nothing. -/
theorem peeks_syncCalls : Peeks syncCalls := by
  refine Peeks.ask_bind trivial fun x => ?_
  match x with
  | false => exact peeks_pure ()
  | true =>
    refine Peeks.rpc_bind not_false fun x => ?_
    cases x with
    | error e => exact peeks_pure ()
    | ok tenants =>
      refine (peeks_idsBelow (fun _ => ?_) _).bind fun _ => ?_
      · exact Peeks.rpc_bind not_false fun _ => peeks_pure _
      refine (peeks_idsBelow (fun _ => ?_) _).bind fun _ => ?_
      · exact Peeks.rpc_bind not_false fun _ => peeks_pure _
      refine (peeks_idsBelow (fun _ => ?_) _).bind fun _ => ?_
      · exact Peeks.rpc_bind not_false fun _ => peeks_pure _
      refine peeks_forEach (fun _ => ?_) _
      exact Peeks.rpc_bind not_false fun _ => peeks_pure ()

/-! ## Simulations -/

section
variable (lib : Parsers) {sim : Simulation}

/-- The contract of a step of a passive simulation. -/
def GuardedStep {α : Type} (p : Action α) : Prop := Guarded SimulationHarmless p fun _ => True

theorem guardedStep_pure {α : Type} (a : α) : GuardedStep (pure a : Action α) := trivial

/-- Steps of a simulation are put together from guarded parts. -/
theorem GuardedStep.bind {α β : Type} {p : Action α} {f : α → Action β} (hp : GuardedStep p)
    (hf : ∀ a, GuardedStep (f a)) : GuardedStep (p >>= f) :=
  Guarded.bind hp fun a _ => hf a

theorem GuardedStep.ask_bind {β : Type} {c : Call} {f : c.Answer → Action β} (h : Allowed c)
    (hQ : ∀ x, SimulationHarmless c x) (hf : ∀ x, GuardedStep (f x)) : GuardedStep (c.ask >>= f) :=
  Guarded.ask_bind h hQ hf

theorem GuardedStep.rpc_bind {β : Type} {r : RPC} {f : r.Answer → Action β} (h : ¬ r.Writes)
    (hQ : ∀ x, SimulationHarmless (.rpc r) x) (hf : ∀ x, GuardedStep (f x)) :
    GuardedStep (rpc r >>= f) :=
  Guarded.rpc_bind h hQ hf

/-- The second step runs only if the first went well. -/
theorem guardedStep_andThen {p : Setup.SetupStep} {q : Setup.Loaded → Setup.SetupStep}
    (hp : GuardedStep p) (hq : ∀ s, GuardedStep (q s)) : GuardedStep (Setup.andThen p q) := by
  refine hp.bind fun r => ?_
  split
  · exact hq _
  · exact guardedStep_pure _

theorem guardedStep_setupTenant (s : Setup.Loaded) : GuardedStep (Setup.setupTenant sim s) := by
  refine GuardedStep.rpc_bind not_false (fun _ => trivial) fun x => ?_
  cases x with
  | error e => exact guardedStep_pure _
  | ok tenant => exact guardedStep_pure _

/-- Passive mode takes the gateways that ChirpStack has. -/
theorem guardedStep_setupGateways (hpassive : sim.passiveMode = true) (s : Setup.Loaded) :
    GuardedStep (Setup.setupGateways lib sim s) := by
  unfold Setup.setupGateways
  rw [if_pos hpassive]
  refine GuardedStep.rpc_bind not_false (fun _ => trivial) fun x => ?_
  cases x with
  | error e => exact guardedStep_pure _
  | ok gateways =>
    dsimp only
    split
    · exact guardedStep_pure _
    · exact guardedStep_pure _

theorem guardedStep_setProfile (s : Setup.Loaded) (id : String) :
    GuardedStep (Setup.setProfile lib s id) := by
  unfold Setup.setProfile
  split
  · exact guardedStep_pure _
  · exact guardedStep_pure _

/-- Passive mode takes the profile of the application, or the first there is. -/
theorem guardedStep_setupDeviceProfile (hpassive : sim.passiveMode = true) (s : Setup.Loaded) :
    GuardedStep (Setup.setupDeviceProfile lib sim s) := by
  refine GuardedStep.rpc_bind not_false (fun _ => trivial) fun x => ?_
  cases x with
  | error e => exact guardedStep_pure _
  | ok profiles =>
    dsimp only
    rw [if_pos hpassive]
    split
    · exact guardedStep_pure _
    · split
      · exact guardedStep_setProfile lib s _
      · exact guardedStep_setProfile lib s _

/-- Passive mode takes the application of its name, or the first there is. -/
theorem guardedStep_setupApplication (hpassive : sim.passiveMode = true) (s : Setup.Loaded) :
    GuardedStep (Setup.setupApplication sim s) := by
  refine GuardedStep.rpc_bind not_false (fun _ => trivial) fun x => ?_
  cases x with
  | error e => exact guardedStep_pure _
  | ok apps =>
    dsimp only
    rw [if_pos hpassive]
    split
    · exact guardedStep_pure _
    · refine GuardedStep.rpc_bind not_false (fun _ => trivial) fun x => ?_
      match x with
      | .error e => exact guardedStep_pure _
      | .ok [] => exact guardedStep_pure _
      | .ok (first :: _) => exact guardedStep_pure _

/-- Page after page, by induction on the fuel. -/
theorem guardedStep_listAllDevices (applicationID : String) (fuel : Nat) (offset : UInt32)
    (allDevices : List DeviceListItem) :
    GuardedStep (Setup.listAllDevices applicationID fuel offset allDevices) := by
  induction fuel generalizing offset allDevices with
  | zero => exact guardedStep_pure _
  | succ fuel ih =>
    refine GuardedStep.rpc_bind not_false (fun _ => trivial) fun x => ?_
    cases x with
    | error e => exact guardedStep_pure _
    | ok results =>
      dsimp only
      split
      · exact guardedStep_pure _
      · split
        · exact guardedStep_pure _
        · exact ih _ _

/-- The keys of a device: a write follows the random bytes of a new one and an AppKey that is blank. -/
theorem guardedStep_deviceKey (item : DeviceListItem) :
    GuardedStep (Setup.deviceKey lib item) := by
  refine Guarded.split_bind (c := .rpc (.getKeys item.devEUI)) not_false (fun x hx => ?_)
    fun x hx => ?_
  · cases x with
    | error e =>
      dsimp only
      split
      · refine Guarded.split_bind trivial (fun x hx => ?_) fun x hx => ?_
        · cases x with
          | error e => exact guardedStep_pure _
          | ok bytes => exact absurd hx not_false
        · cases x with
          | error e => exact absurd trivial hx
          | ok bytes => exact ⟨_, rfl, trivial⟩
      · exact guardedStep_pure _
    | ok keys =>
      dsimp only
      rw [if_neg hx]
      exact guardedStep_pure _
  · cases x with
    | error e => exact absurd trivial hx
    | ok keys =>
      dsimp only
      rw [if_pos (not_not.mp hx)]
      exact ⟨_, rfl, trivial⟩

/-- The round that may write: whether it does is up to the keys of the device. -/
theorem guardedStep_loadDevice (s : Setup.Loaded) (item : DeviceListItem) :
    GuardedStep (Setup.loadDevice lib s item) := by
  unfold Setup.loadDevice
  split
  · exact guardedStep_pure _
  · refine GuardedStep.rpc_bind not_false (fun _ => trivial) fun x => ?_
    cases x with
    | error e => exact guardedStep_pure _
    | ok device =>
      dsimp only
      split
      · exact guardedStep_pure _
      · refine (guardedStep_deviceKey lib item).bind fun x => ?_
        cases x with
        | none => exact guardedStep_pure _
        | some appKey => exact guardedStep_pure _

/-- By induction on the devices found. -/
theorem guardedStep_loadDevices (items : List DeviceListItem) (s : Setup.Loaded) :
    GuardedStep (Setup.loadDevices lib items s) := by
  induction items generalizing s with
  | nil => exact guardedStep_pure _
  | cons item items ih => exact guardedStep_andThen (guardedStep_loadDevice lib s item) ih

theorem guardedStep_setupDevices (fuel : Nat) (s : Setup.Loaded) :
    GuardedStep (Setup.setupDevices lib fuel s) := by
  refine (guardedStep_listAllDevices _ _ _ _).bind fun x => ?_
  match x with
  | none => exact guardedStep_pure _
  | some (.error e) => exact guardedStep_pure _
  | some (.ok allDevices) => exact guardedStep_loadDevices lib allDevices _

theorem guardedStep_setupApplicationIntegration (s : Setup.Loaded) :
    GuardedStep (Setup.setupApplicationIntegration s) := by
  refine GuardedStep.ask_bind trivial (fun _ => trivial) fun x => ?_
  cases x with
  | none => exact guardedStep_pure _
  | some e => exact guardedStep_pure _

/-- **The set-up** of a passive simulation, its six parts in order. -/
theorem guardedStep_init (hpassive : sim.passiveMode = true) (fuel : Nat) (s : Setup.Loaded) :
    GuardedStep (Setup.init lib sim fuel s) := by
  refine guardedStep_andThen (guardedStep_andThen (guardedStep_andThen (guardedStep_andThen
    (guardedStep_andThen (guardedStep_setupTenant s) ?_) ?_) ?_) ?_) ?_
  · exact guardedStep_setupGateways lib hpassive
  · exact guardedStep_setupDeviceProfile lib hpassive
  · exact guardedStep_setupApplication hpassive
  · exact guardedStep_setupDevices lib fuel
  · exact guardedStep_setupApplicationIntegration

theorem guardedStep_newGateways (gatewayIDs : List LoRaWAN.EUI64) :
    GuardedStep (Setup.newGateways lib sim gatewayIDs) := by
  have hgateway : ∀ opts, GuardedStep (Setup.newGateway lib opts) := by
    intro opts
    unfold Setup.newGateway
    split
    · exact guardedStep_pure _
    · split
      · exact guardedStep_pure _
      · exact GuardedStep.ask_bind trivial (fun _ => trivial) fun _ => guardedStep_pure _
  induction gatewayIDs with
  | nil => exact guardedStep_pure _
  | cons gatewayID rest ih =>
    refine (hgateway _).bind fun x => ?_
    cases x with
    | error e => exact guardedStep_pure _
    | ok _ => exact ih

theorem guardedStep_pickGateways (gateways : Nat) (devNumGateways : Int) (fuel : Nat)
    (picked : List Nat) : GuardedStep (Setup.pickGateways gateways devNumGateways fuel picked) := by
  induction fuel generalizing picked with
  | zero =>
    unfold Setup.pickGateways
    split <;> exact guardedStep_pure _
  | succ fuel ih =>
    unfold Setup.pickGateways
    split
    · cases gateways with
      | zero => exact guardedStep_pure _
      | succ bound => exact GuardedStep.ask_bind trivial (fun _ => trivial) fun _ => ih _
    · exact guardedStep_pure _

/-- Making the devices draws their gateways and asks ChirpStack nothing. -/
theorem guardedStep_newDevices (fuel : Nat) (s : Setup.Loaded) (deviceIdx : Nat)
    (devices : List (LoRaWAN.EUI64 × LoRaWAN.AES128Key)) :
    GuardedStep (Setup.newDevices sim fuel s deviceIdx devices) := by
  induction devices generalizing deviceIdx with
  | nil => exact guardedStep_pure _
  | cons device rest ih =>
    obtain ⟨devEUI, appKey⟩ := device
    unfold Setup.newDevices
    split
    · exact guardedStep_pure _
    · refine GuardedStep.ask_bind trivial (fun _ => trivial) fun extra => ?_
      refine (guardedStep_pickGateways _ _ _ _).bind fun r => ?_
      split
      · exact GuardedStep.ask_bind trivial (fun _ => trivial) fun _ => ih _
      · exact guardedStep_pure _

/-- What runs after the set-up makes objects and waits for them. -/
theorem guardedStep_runSimulation (fuel : Nat) (s : Setup.Loaded) :
    GuardedStep (Setup.runSimulation lib sim fuel s) := by
  refine (guardedStep_newGateways lib s.gatewayIDs).bind fun e => ?_
  split
  · refine (guardedStep_newDevices fuel s 0 s.deviceAppKeys).bind fun e => ?_
    split
    · exact GuardedStep.ask_bind trivial (fun _ => trivial) fun _ => guardedStep_pure _
    · exact guardedStep_pure _
  · exact guardedStep_pure _

/-- A passive simulation leaves the gateways in place. -/
theorem guardedStep_tearDown (hpassive : sim.passiveMode = true) (s : Setup.Loaded) :
    GuardedStep (Setup.tearDown sim s) := by
  refine GuardedStep.ask_bind trivial (fun _ => trivial) fun x => ?_
  cases x with
  | some e => exact guardedStep_pure _
  | none =>
    dsimp only
    rw [if_pos hpassive]
    exact guardedStep_pure _

theorem guardedStep_afterInit (hpassive : sim.passiveMode = true) (fuel : Nat)
    (s : Setup.Loaded) : GuardedStep (Setup.afterInit lib sim fuel s) := by
  refine (guardedStep_runSimulation lib fuel s).bind fun e => ?_
  have hend : GuardedStep (do
      let _ ← Setup.tearDown sim s
      let _ ← Call.ask .wgDone
      pure Setup.Ending.ok) :=
    (guardedStep_tearDown hpassive s).bind fun _ =>
      GuardedStep.ask_bind trivial (fun _ => trivial) fun _ => guardedStep_pure _
  cases e with
  | running => exact guardedStep_pure _
  | panic => exact guardedStep_pure _
  | ok => exact hend
  | error e => exact hend

/-- **A passive simulation** from its set-up to its end. -/
theorem guardedStep_start (hpassive : sim.passiveMode = true) (fuel : Nat) :
    GuardedStep (Setup.start lib sim fuel) := by
  refine (guardedStep_init lib hpassive fuel .empty).bind fun r => ?_
  obtain ⟨s, e⟩ := r
  cases e with
  | running => exact guardedStep_pure _
  | panic => exact guardedStep_pure _
  | ok => exact guardedStep_afterInit lib hpassive fuel s
  | error e => exact guardedStep_afterInit lib hpassive fuel s

end

/-! ## Passive mode -/

section
variable (lib : Parsers) (secretToken : String) (enums : Enums)
  (parseDuration : String → Except String Int) (fuel : Nat)

/-- Every task keeps the contract. -/
theorem guarded_program {task : Task} (h : PassiveTask task) :
    Guarded (Harmless secretToken task)
      (task.program lib secretToken enums parseDuration fuel) fun _ => True := by
  cases task with
  | request r status =>
    exact (guarded_serve secretToken enums parseDuration r status).bind fun _ _ => trivial
  | simulation sim => exact Guarded.bind (guardedStep_start lib h fuel) fun _ _ => trivial
  | sync => exact guarded_of_looks peeks_syncCalls fun _ _ => trivial

/-- What an allowed call launches is a passive task. -/
theorem spawned_passive {c : Call} (h : Allowed c) : ∀ task ∈ spawned c, PassiveTask task := by
  intro task htask
  cases c with
  | launch sim =>
    obtain rfl : Task.simulation sim = task := by simpa [spawned] using htask
    exact h
  | _ => exact absurd htask (by simp [spawned])

/-- The contract allows no write. -/
theorem not_isWrite_of_allowed {c : Call} (h : Allowed c) : ¬ IsWrite c := by
  cases c with
  | rpc r => exact h
  | _ => exact not_false

/-- **A run in passive mode writes nothing to ChirpStack exactly if all its answers are harmless.** -/
theorem writesNothing_iff {labels : List (Prog.PoolLabel Task Call Call.Answer)} {w : World}
    (hrun : Transition.exec (step lib secretToken enums parseDuration fuel) .empty labels = some w)
    (hsims : ∀ l ∈ labels, Prog.StartsMeet PassiveTask l)
    (hpassive : Transition.Always (step lib secretToken enums parseDuration fuel)
      (Prog.AnswersMeet fun _ => PassiveOn) .empty labels) :
    w.Without IsWrite ↔
      Transition.Always (step lib secretToken enums parseDuration fuel)
        (Prog.AnswersMeet (Harmless secretToken)) .empty labels :=
  Prog.pool_without_iff (fun _ => not_isWrite_of_allowed)
    (fun _ h => guarded_program lib secretToken enums parseDuration fuel h)
    (fun _ => spawned_passive) hrun hsims hpassive

end

/-! ## Three runs -/

/-- The answers while passive mode is on. -/
def passively (chirpStack : (r : RPC) → r.Answer) : (c : Call) → c.Answer
  | .getSystemState _ => .ok "true"
  | c => Call.answer chirpStack c

/-- One task and its first answers. -/
def alone (chirpStack : (r : RPC) → r.Answer) (task : Task) (answers : Nat) :
    List (Prog.PoolLabel Task Call Call.Answer) :=
  .start task :: List.replicate answers (.answer 0 (passively chirpStack))

/-- A run of one task starts nothing but what that task is allowed to. -/
theorem starts_alone (chirpStack : (r : RPC) → r.Answer) (task : Task) (answers : Nat)
    (h : PassiveTask task) :
    ∀ l ∈ alone chirpStack task answers, Prog.StartsMeet PassiveTask l := by
  refine List.forall_mem_cons.mpr ⟨h, fun l hl => ?_⟩
  rw [List.eq_of_mem_replicate hl]
  trivial

/-- In such a run every answer is the one the oracle gives. -/
theorem always_alone {B : Task → (c : Call) → c.Answer → Prop} {st : World →
    Prog.PoolLabel Task Call Call.Answer → Option World} (chirpStack : (r : RPC) → r.Answer)
    (task : Task) (answers : Nat) (h : ∀ t c, B t c (passively chirpStack c)) :
    Transition.Always st (Prog.AnswersMeet B) .empty (alone chirpStack task answers) := by
  refine Transition.Always.mono (fun w l hl => hl w) (Transition.always_of_forall_mem
    (P := fun l => ∀ w, Prog.AnswersMeet B w l) ?_)
  refine List.forall_mem_cons.mpr ⟨fun _ => trivial, fun l hl => ?_⟩
  rw [List.eq_of_mem_replicate hl]
  exact fun _ t _ _ c _ => h t c

theorem passiveOn_passively (chirpStack : (r : RPC) → r.Answer) (c : Call) :
    PassiveOn c (passively chirpStack c) := by
  cases c with
  | getSystemState key => exact fun _ => rfl
  | _ => trivial

/-- A request without a body. -/
def Body.none : Body where
  start := .error "EOF"
  bootstrap := .error "EOF"
  organization := .error "EOF"
  createApplication := .error "EOF"
  updateApplication := .error "EOF"
  gateway := .error "EOF"
  deviceProfile := .error "EOF"
  device := .error "EOF"
  deviceInterval := .error "EOF"
  passiveMode := .error "EOF"

def deletion : HTTPRequest :=
  ⟨.delete, "/api/gateways/0102030405060708", some "secret", ⟨"", "", "", "", ""⟩, .none⟩

/-- What the runs have in common: no enumeration is known, and no duration is parsed. -/
def sampleStep : World → Prog.PoolLabel Task Call Call.Answer → Option World :=
  step .plain "secret" ⟨fun _ => false, fun _ => false, fun _ => false⟩
    (fun _ => .error "time: invalid duration") 1

/-- The deletion of a gateway is answered before it reaches ChirpStack. -/
theorem deletion_writesNothing :
    ∃ w : World, Transition.exec sampleStep .empty
        (alone RPC.unavailable (.request deletion .idle) 1) = some w ∧ w.Without IsWrite := by
  refine ⟨_, rfl, (writesNothing_iff .plain "secret" ⟨fun _ => false, fun _ => false,
    fun _ => false⟩ (fun _ => .error "time: invalid duration") 1 rfl (starts_alone RPC.unavailable
      (.request deletion .idle) 1 trivial) (always_alone _ _ 1 fun _ =>
        passiveOn_passively _)).mpr ⟨trivial, fun w hw => ⟨?_, fun _ _ => trivial⟩⟩⟩
  intro t p hp c _
  obtain rfl := Option.some.inj hw
  obtain ⟨rfl, rfl⟩ := Prod.mk.inj (Option.some.inj hp)
  exact harmless_request "secret" .idle rfl c _

/-- A tenant with a gateway and an application of one device without keys. -/
def keyless : (r : RPC) → r.Answer
  | .getTenant id => .ok ⟨id, "tenant", "", true⟩
  | .listGateways _ _ => .ok [⟨"0102030405060708", "gateway"⟩]
  | .listDeviceProfiles _ _ => .ok [⟨"00000000000000000000000000000001", "sensors-profile"⟩]
  | .listApplications _ _ => .ok [⟨"application", "sensors"⟩]
  | .listDevices _ _ _ _ => .ok [⟨"0000000000000001", "first"⟩]
  | .getDevice devEUI => .ok ⟨devEUI, "first", "", "application", "profile", false⟩
  | .getKeys _ => .error ⟨true, "object does not exist"⟩
  | r => r.unavailable

/-- No tenants. -/
def blank : (r : RPC) → r.Answer
  | .listTenants _ => .ok []
  | r => r.unavailable

/-- A bootstrap request; what other handlers would decode its body to plays no part. -/
def wizard : HTTPRequest :=
  ⟨.post, "/api/bootstrap", some "secret", ⟨"", "", "", "", ""⟩,
    { Body.none with bootstrap := .ok ⟨"acme", "app", 1, "profile", 1, "device", 1, [], ""⟩ }⟩

/-- In passive mode a passive simulation creates the keys of a device, and a bootstrap request a
    tenant. -/
theorem passive_writes :
    (∃ w : World,
      Transition.exec sampleStep .empty (alone keyless (.simulation Setup.sensors) 8) = some w ∧
      PassiveTask (.simulation Setup.sensors) ∧
      Transition.Always sampleStep (Prog.AnswersMeet fun _ => PassiveOn) .empty
        (alone keyless (.simulation Setup.sensors) 8) ∧
      .rpc (.createKeys ⟨"0000000000000001", "00000000000000000000000000000000",
        "00000000000000000000000000000000"⟩) ∈ w.issued ∧ ¬ w.Without IsWrite) ∧
    ∃ w : World,
      Transition.exec sampleStep .empty (alone blank (.request wizard .idle) 2) = some w ∧
      Transition.Always sampleStep (Prog.AnswersMeet fun _ => PassiveOn) .empty
        (alone blank (.request wizard .idle) 2) ∧
      .rpc (.createTenant ⟨"", "acme", "Hızlı Kurulum Sihirbazı ile oluşturuldu", true⟩) ∈
        w.issued ∧ ¬ w.Without IsWrite := by
  have hpassive : ∀ chirpStack task answers,
      Transition.Always sampleStep (Prog.AnswersMeet fun _ => PassiveOn) .empty
        (alone chirpStack task answers) := fun _ _ _ =>
    always_alone _ _ _ fun _ => passiveOn_passively _
  refine ⟨⟨_, rfl, rfl, hpassive _ _ _, List.mem_of_getElem? (i := 8) rfl, fun h => ?_⟩,
    ⟨_, rfl, hpassive _ _ _, List.mem_of_getElem? (i := 2) rfl, fun h => ?_⟩⟩
  · exact h _ (List.mem_of_getElem? (i := 8) rfl) trivial
  · exact h _ (List.mem_of_getElem? (i := 2) rfl) trivial

end ChirpStackSimulator.Routes
