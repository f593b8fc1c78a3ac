/-
  Bootstrap requests against ChirpStack.

  The goroutines of a request (`BootstrapWorkers.lean`) run against a store of tenants, profiles,
  applications and devices (`BootstrapStore.lean`), each call answered in one of the ways that ChirpStack
  may answer it.

  1. **The system** - a label names the goroutine that goes on and says how its call is answered
     (`step`).  The answers are by the law (`Served`); they may miss nothing (`Finding`), and there may be
     no failure among them (`Succeeding`).
  2. **Workers** - what a worker knows, and has done in a clean run (`went_worker`).
  3. **The invariant** (`Inv`) - only missing names of the request are created; and in a clean run what
     the request has passed is there (`inv_step`).
  4. **Convergence** (`bootstrap_converges`) - from a store where the shelves of the request fit on a
     page, and after an earlier run that may have failed anywhere, a clean run ends with each name there
     exactly once and with keys; and another run creates nothing.
  5. **More than a page** - a name beyond it is created again (`overlooked_not_converged`).
-/
import ChirpStackSimulator.BootstrapFind
import ChirpStackSimulator.Lib.Objects
import ChirpStackSimulator.Lib.Run

namespace ChirpStackSimulator.BootstrapConverge

open Bootstrap BootstrapFind BootstrapStore BootstrapWorkers Shelves Transition

/-! ## The system -/

/-- The call that a worker waits for. -/
def workerCall (req : BootstrapRequest) (app : App) (v : Worker) : Option Call :=
  let name := devName req app.appName v.j
  let (dpID, interval) := devSettings req app.dpIDs v.j
  match v.pc with
  | .randEUI => some (.randRead 8)
  | .randKey => some (.randRead 16)
  | .creating =>
    some (.rpc (.createDevice ⟨v.devEUI, name, name ++ " cihazı", app.appID, dpID, false⟩))
  | .deletingKeys => some (.rpc (.deleteKeys v.devEUI))
  | .creatingKeys => some (.rpc (.createKeys ⟨v.devEUI, v.appKey, ""⟩))
  | .saving => some (.saveDeviceInterval v.devEUI interval)
  | _ => none

/-- The call that the handler waits for. -/
def mainCall : Main → Option Call
  | .preparing p => p.next
  | .opening _ _ _ p => p.next
  | _ => none

inductive Party
  | main
  | worker (k : Nat)
  deriving DecidableEq

/-- Who goes on, and the ChirpStack that answers. -/
structure Label where
  party : Party
  env : Prog.Env Store Call.Answer

structure World where
  handler : BootstrapWorkers.State
  store : Store

def callOf (req : BootstrapRequest) (s : BootstrapWorkers.State) : Party → Option Call
  | .main => mainCall s.main
  | .worker k => (s.workers[k]?).bind (workerCall req s.app)

def Party.label (x : (c : Call) → c.Answer) : Party → BootstrapWorkers.Label
  | .main => .main x
  | .worker k => .worker k x

/-- What the call of the party leaves of the store. -/
def storeAfter (req : BootstrapRequest) (w : World) (l : Label) : Store :=
  match callOf req w.handler l.party with
  | none => w.store
  | some c => (l.env w.store c).2

def step (req : BootstrapRequest) (w : World) (l : Label) : Option World :=
  let x := fun c => (l.env w.store c).1
  (BootstrapWorkers.step req w.handler (l.party.label x)).map fun handler =>
    ⟨handler, storeAfter req w l⟩

/-- A request comes in. -/
def start (req : BootstrapRequest) (s : Store) : World := ⟨init req, s⟩

/-- The call of the step is answered by the law. -/
def Served (req : BootstrapRequest) (w : World) (l : Label) : Prop :=
  ∀ c ∈ callOf req w.handler l.party, Serves w.store c (l.env w.store c).1 (l.env w.store c).2

/-- It is no listing that fails and misses a wanted name. -/
def Finding (req : BootstrapRequest) (w : World) (l : Label) : Prop :=
  ∀ c ∈ callOf req w.handler l.party, Finds req w.store c (l.env w.store c).1

/-- It succeeds. -/
def Succeeding (req : BootstrapRequest) (w : World) (l : Label) : Prop :=
  ∀ c ∈ callOf req w.handler l.party, Succeeds c (l.env w.store c).1

/-- It misses nothing, and in a clean run it is none of an error. -/
def Answered (req : BootstrapRequest) (clean : Prop) (w : World) (l : Label) : Prop :=
  ∀ c ∈ callOf req w.handler l.party,
    Lawful req clean w.store c (l.env w.store c).1 (l.env w.store c).2

theorem answered_of_finding {req : BootstrapRequest} {w : World} {l : Label} (hserved : Served req w l)
    (hfinding : Finding req w l) : Answered req False w l :=
  fun c hc => ⟨hserved c hc, hfinding c hc, fun hfalse => hfalse.elim⟩

theorem answered_of_succeeding {req : BootstrapRequest} {w : World} {l : Label}
    (hserved : Served req w l) (hsucceeding : Succeeding req w l) : Answered req True w l := by
  refine fun c hc => ⟨hserved c hc, fun hfail => ?_, fun _ => hsucceeding c hc⟩
  rw [hsucceeding c hc] at hfail
  cases hfail
/-! ## Workers -/

section
variable {req : BootstrapRequest} {clean : Prop} {B : Entities} {prepared : Prepared}

/-- The device of the worker is there. -/
def Present (req : BootstrapRequest) (app : App) (s : Store) (v : Worker) : Prop :=
  ⟨.devices app.appID, v.devEUI, devName req app.appName v.j⟩ ∈ s.entities

/-- What a worker knows, and has done in a clean run. -/
def WorkerInv (req : BootstrapRequest) (clean : Prop) (app : App) (s : Store) (v : Worker) : Prop :=
  match v.pc with
  | .queued | .entered => KnowsDev app s.entities (devName req app.appName v.j)
  | .randEUI => KnowsDev app s.entities (devName req app.appName v.j) ∧
      findEUI app.existingDevices (devName req app.appName v.j) = ""
  | .randKey => KnowsDev app s.entities (devName req app.appName v.j) ∧
      (findEUI app.existingDevices (devName req app.appName v.j) ≠ "" →
        v.devEUI = findEUI app.existingDevices (devName req app.appName v.j))
  | .creating => ¬ Has s.entities (.devices app.appID) (devName req app.appName v.j)
  | .created | .deletingKeys | .creatingKeys => clean → Present req app s v
  | .keysCreated | .saving | .counting | .counted =>
    clean → Present req app s v ∧ v.devEUI ∈ s.keys
  | .reportCreate | .reportKeys | .returned => ¬ clean

/-- What the step of a worker leaves of the store: its device is created, its keys are changed. -/
inductive WorkerStore (req : BootstrapRequest) (clean : Prop) (app : App) (v : Worker) (s : Store) :
    Store → Prop
  | same : WorkerStore req clean app v s s
  | creates {s' : Store}
    (hnone : ¬ Has s.entities (.devices app.appID) (devName req app.appName v.j))
    (hcreates : Creates s (.devices app.appID) v.devEUI (devName req app.appName v.j) s') :
    WorkerStore req clean app v s s'
  | keys {s' : Store} (hkeys : ChangesKeys s v.devEUI s') (hpresent : clean → Present req app s v) :
    WorkerStore req clean app v s s'

/-- What a step of a worker does. -/
structure WorkerWent (req : BootstrapRequest) (clean : Prop) (app : App) (v v' : Worker)
    (shared' : Shared) (s s' : Store) : Prop where
  j : v'.j = v.j
  inv : WorkerInv req clean app s' v'
  quiet : clean → shared'.err = none ∧ shared'.bootstrapErr = none
  store : WorkerStore req clean app v s s'

/-- **One step of a worker.** -/
theorem went_worker {app : App} {x : (c : Call) → c.Answer} {shared shared' : Shared}
    {v v' : Worker} {s s' : Store} (hinv : WorkerInv req clean app s v)
    (hquiet : clean → shared.err = none ∧ shared.bootstrapErr = none)
    (hnone : workerCall req app v = none → s' = s)
    (hsome : ∀ c, workerCall req app v = some c → Lawful req clean s c (x c) s')
    (hstep : v.step req app x shared = some (shared', v')) :
    WorkerWent req clean app v v' shared' s s' := by
  have herror : ∀ {α : Type} {r : Except String α} {e : String}, (clean → isOk r) → r = .error e →
      ¬ clean := by
    rintro α r e hsucceeds rfl hc
    obtain ⟨a, ha⟩ := exists_of_isOk (hsucceeds hc)
    cases ha
  have herr : shared.err.isSome → ¬ clean := by
    intro h hc
    rw [(hquiet hc).1] at h
    cases h
  have hbootstrapErr : shared.bootstrapErr.isSome → ¬ clean := by
    intro h hc
    rw [(hquiet hc).2] at h
    cases h
  cases workerStep_cases hstep with
  | enters v =>
    obtain rfl := hnone rfl
    exact ⟨rfl, hinv, hquiet, .same⟩
  | stops v hstop =>
    obtain rfl := hnone rfl
    exact ⟨rfl, hbootstrapErr hstop, hquiet, .same⟩
  | begins v hfound =>
    obtain rfl := hnone rfl
    exact ⟨rfl, ⟨hinv, hfound⟩, hquiet, .same⟩
  | finds v =>
    obtain rfl := hnone rfl
    exact ⟨rfl, ⟨hinv, fun _ => rfl⟩, hquiet, .same⟩
  | noEUI v message he =>
    obtain ⟨hserves, -, hsucceeds⟩ := hsome _ rfl
    obtain rfl : s' = s := hserves
    have hnot : ¬ clean := herror hsucceeds he
    exact ⟨rfl, hnot, fun hc => absurd hc hnot, .same⟩
  | drawsEUI v hbytes =>
    obtain ⟨hserves, -, -⟩ := hsome _ rfl
    obtain rfl : s' = s := hserves
    obtain ⟨hknows, hfound⟩ := hinv
    exact ⟨rfl, ⟨hknows, fun h => absurd hfound h⟩, hquiet, .same⟩
  | noKey v message he =>
    obtain ⟨hserves, -, hsucceeds⟩ := hsome _ rfl
    obtain rfl : s' = s := hserves
    have hnot : ¬ clean := herror hsucceeds he
    exact ⟨rfl, hnot, fun hc => absurd hc hnot, .same⟩
  | drawsKey v hbytes hany =>
    obtain ⟨hserves, -, -⟩ := hsome _ rfl
    obtain rfl : s' = s := hserves
    obtain ⟨hknows, hfound⟩ := hinv
    have hne := hknows.twice.mp hany
    refine ⟨rfl, fun _ => ?_, hquiet, .same⟩
    show ⟨.devices app.appID, v.devEUI, _⟩ ∈ s'.entities
    rw [show v.devEUI = _ from hfound hne]
    exact hknows.knows.found hne
  | drawsKeyOfNew v hbytes hany =>
    obtain ⟨hserves, -, -⟩ := hsome _ rfl
    obtain rfl : s' = s := hserves
    obtain ⟨hknows, -⟩ := hinv
    refine ⟨rfl, hknows.knows.absent ?_, hquiet, .same⟩
    by_contra hne
    exact hany (hknows.twice.mpr hne)
  | creates v heq =>
    subst heq
    obtain ⟨hserves, -, hsucceeds⟩ := hsome _ rfl
    refine ⟨rfl, fun hc => ?_, fun hc =>
      ⟨Option.isNone_iff_eq_none.mp (hsucceeds hc), (hquiet hc).2⟩, ?_⟩
    · have hcreates := hserves.1 (Option.isNone_iff_eq_none.mp (hsucceeds hc))
      show _ ∈ s'.entities
      rw [hcreates.2]
      exact List.mem_append_right _ (List.mem_singleton.mpr rfl)
    · rcases hserves.2 with rfl | hcreates
      · exact .same
      · exact .creates hinv hcreates
  | createFailed v hfailed =>
    obtain rfl := hnone rfl
    exact ⟨rfl, herr hfailed, hquiet, .same⟩
  | createPassed v =>
    obtain rfl := hnone rfl
    exact ⟨rfl, hinv, hquiet, .same⟩
  | createReported v =>
    obtain rfl := hnone rfl
    exact ⟨rfl, hinv, fun hc => absurd hc hinv, .same⟩
  | deletesKeys v =>
    obtain ⟨hserves, -, -⟩ := hsome _ rfl
    refine ⟨rfl, fun hc => ?_, hquiet, .keys hserves hinv⟩
    show _ ∈ s'.entities
    rw [hserves.1]
    exact hinv hc
  | createsKeys v heq =>
    subst heq
    obtain ⟨hserves, -, hsucceeds⟩ := hsome _ rfl
    refine ⟨rfl, fun hc => ⟨?_, hserves.2 (Option.isNone_iff_eq_none.mp (hsucceeds hc))⟩, fun hc =>
      ⟨Option.isNone_iff_eq_none.mp (hsucceeds hc), (hquiet hc).2⟩, .keys hserves.1 hinv⟩
    show _ ∈ s'.entities
    rw [hserves.1.1]
    exact hinv hc
  | keysFailed v hfailed =>
    obtain rfl := hnone rfl
    exact ⟨rfl, herr hfailed, hquiet, .same⟩
  | keysPassed v =>
    obtain rfl := hnone rfl
    exact ⟨rfl, hinv, hquiet, .same⟩
  | keysReported v =>
    obtain rfl := hnone rfl
    exact ⟨rfl, hinv, fun hc => absurd hc hinv, .same⟩
  | saves v =>
    obtain ⟨hserves, -, -⟩ := hsome _ rfl
    obtain rfl : s' = s := hserves
    exact ⟨rfl, hinv, hquiet, .same⟩
  | counts v =>
    obtain rfl := hnone rfl
    exact ⟨rfl, hinv, hquiet, .same⟩

/-- What a worker knows, and has done, goes on in a store that does not take it away. -/
theorem WorkerInv.mono {app : App} {s s' : Store} {v : Worker} (h : WorkerInv req clean app s v)
    (hknows : KnowsDev app s.entities (devName req app.appName v.j) →
      KnowsDev app s'.entities (devName req app.appName v.j))
    (habsent : ¬ Has s.entities (.devices app.appID) (devName req app.appName v.j) →
      ¬ Has s'.entities (.devices app.appID) (devName req app.appName v.j))
    (hpresent : Present req app s v → Present req app s' v)
    (hkeys : clean → Present req app s v → v.devEUI ∈ s.keys → v.devEUI ∈ s'.keys) :
    WorkerInv req clean app s' v := by
  have hboth : (clean → Present req app s v ∧ v.devEUI ∈ s.keys) →
      clean → Present req app s' v ∧ v.devEUI ∈ s'.keys := fun h hc =>
    ⟨hpresent (h hc).1, hkeys hc (h hc).1 (h hc).2⟩
  obtain ⟨j, pc, devEUI, appKey, create, keys, lost⟩ := v
  cases pc with
  | queued => exact hknows h
  | entered => exact hknows h
  | randEUI => exact ⟨hknows h.1, h.2⟩
  | randKey => exact ⟨hknows h.1, h.2⟩
  | creating => exact habsent h
  | created => exact fun hc => hpresent (h hc)
  | deletingKeys => exact fun hc => hpresent (h hc)
  | creatingKeys => exact fun hc => hpresent (h hc)
  | keysCreated => exact hboth h
  | saving => exact hboth h
  | counting => exact hboth h
  | counted => exact hboth h
  | reportCreate => exact h
  | reportKeys => exact h
  | returned => exact h

/-- What another worker creates does not matter. -/
theorem WorkerInv.append {app : App} {s : Store} {v : Worker} (h : WorkerInv req clean app s v)
    {e : Entity Shelf String String}
    (hne : ¬ (e.shelf = .devices app.appID ∧ e.name = devName req app.appName v.j)) :
    WorkerInv req clean app { s with entities := s.entities ++ [e] } v := by
  refine h.mono (fun hknows => hknows.append hne) ?_ (List.mem_append_left _) (fun _ _ hkey => hkey)
  rw [has_append_iff hne]
  exact id

/-- Nor do the keys of another device. -/
theorem WorkerInv.keys {app : App} {s s' : Store} {v : Worker} {devEUI : String}
    (h : WorkerInv req clean app s v) (hkeys : ChangesKeys s devEUI s')
    (hne : clean → Present req app s v → v.devEUI ≠ devEUI) : WorkerInv req clean app s' v := by
  obtain ⟨hentities, hother⟩ := hkeys
  refine h.mono ?_ ?_ ?_ fun hc hpresent => (hother _ (hne hc hpresent)).mpr
  · rw [hentities]
    exact id
  · rw [hentities]
    exact id
  · unfold Present
    rw [hentities]
    exact id

/-! ## The invariant -/

/-- The `i`-th application is open. -/
structure Opened (req : BootstrapRequest) (clean : Prop) (prepared : Prepared) (app : App) (i : Nat)
    (s : Store) : Prop where
  first : 1 ≤ i
  last : (i : Int) ≤ req.appCount
  progress : Progress req clean prepared i (i + 1) s
  name : app.appName = appName req i
  app : ⟨.applications prepared.tenantID, app.appID, appName req i⟩ ∈ s.entities

/-- Everything is there. -/
def AllDone (req : BootstrapRequest) (s : Store) : Prop :=
  ∃ tenantID, Base req tenantID s.entities ∧
    ∀ i : Nat, 1 ≤ i → (i : Int) ≤ req.appCount → Done req tenantID s i

/-- What the handler knows, and has done in a clean run. -/
def MainInv (req : BootstrapRequest) (clean : Prop) (B : Entities) (s : Store) (app : App) :
    Main → Prop
  | .preparing p => p.Spec (Lawful req clean) (Kept req B) (Prepares req clean) s
  | .opening prepared _ i p => 1 ≤ i ∧ (i : Int) ≤ req.appCount ∧
      p.Spec (Lawful req clean) (Opening req clean B prepared i) (Opens req clean prepared i) s
  | .launching prepared _ i j => Opened req clean prepared app i s ∧
      ∀ j', j ≤ j' → j' ≤ devices req → KnowsDev app s.entities (devName req app.appName j')
  | .waiting prepared _ i => Opened req clean prepared app i s
  | .answered (.created _) => clean → AllDone req s
  | .answered (.badGateway _) => ¬ clean
  | .answered (.badRequest _) => refusal req ≠ none

structure Inv (req : BootstrapRequest) (clean : Prop) (B : Entities) (w : World) : Prop where
  sound : Sound req w.handler
  kept : Kept req B w.store
  main : MainInv req clean B w.store w.handler.app w.handler.main
  /-- The workers are for the devices of an application of the request. -/
  target : w.handler.workers ≠ [] →
    Target req w.store.entities (.devices w.handler.app.appID) (devNames req w.handler.app.appName)
  numbered : ∀ (k : Nat) (v : Worker), w.handler.workers[k]? = some v →
    v.j = k + 1 ∧ k + 1 ≤ devices req
  workers : ∀ v ∈ w.handler.workers, WorkerInv req clean w.handler.app w.store v
  quiet : clean → w.handler.shared.err = none ∧ w.handler.shared.bootstrapErr = none

theorem inv_start {s : Store} (hs : OnePage req s.entities) :
    Inv req clean s.entities (start req s) where
  sound := sound_init req
  kept := ⟨hs, .refl⟩
  main := by
    show MainInv req clean s.entities s _ (init req).main
    unfold init
    split
    · next e he =>
      show refusal req ≠ none
      rw [he]
      exact Option.some_ne_none e
    · exact spec_prepare ⟨hs, .refl⟩
  target := fun h => absurd rfl h
  numbered := fun k v h => by cases h
  workers := fun v h => by cases h
  quiet := fun _ => ⟨rfl, rfl⟩

theorem mem_devNames {app : String} {j : Nat} (h1 : 1 ≤ j) (hj : j ≤ devices req) :
    devName req app j ∈ devNames req app :=
  List.mem_map_of_mem (List.mem_range'_1.mpr (by unfold devices at hj; omega))

/-- A device is created on the shelf of the application that is open. -/
theorem Opened.append {app : App} {i : Nat} {s : Store} (h : Opened req clean prepared app i s)
    {e : Entity Shelf String String} (he : e.shelf = .devices app.appID) :
    Opened req clean prepared app i { s with entities := s.entities ++ [e] } := by
  refine ⟨h.first, h.last, h.progress.append fun _ _ hsame => ?_, h.name,
    List.mem_append_left _ h.app⟩
  rw [he] at hsame
  cases hsame.1

/-- The keys of a device of this application are none of those that are done. -/
theorem Opened.keys {app : App} {i : Nat} {s s' : Store} {devEUI name : String} (hwf : Wf s.entities)
    (h : Opened req clean prepared app i s) (hkeys : ChangesKeys s devEUI s')
    (hpresent : clean → ⟨.devices app.appID, devEUI, name⟩ ∈ s.entities) :
    Opened req clean prepared app i s' := by
  obtain ⟨hentities, hother⟩ := hkeys
  refine ⟨h.first, h.last, ⟨?_, ?_, fun hc i' h1 hlt => ?_⟩, h.name, ?_⟩
  · rw [hentities]
    exact h.progress.base
  · rw [hentities]
    exact h.progress.ahead
  · obtain ⟨appID, happ, hdevices⟩ := h.progress.done hc i' h1 hlt
    refine ⟨appID, by rw [hentities]; exact happ, fun n hn => ?_⟩
    obtain ⟨eui, hdevice, hin⟩ := hdevices n hn
    refine ⟨eui, by rw [hentities]; exact hdevice, (hother eui ?_).mpr hin⟩
    rintro rfl
    -- the two devices would be one, and so would be their applications
    have hsame := hwf.eq hdevice (hpresent hc) rfl rfl
    cases hsame
    have happs := hwf.eq happ h.app rfl rfl
    have hnames : appName req i' = appName req i := congrArg Entity.name happs
    have := appName_injective req hnames
    omega
  · rw [hentities]
    exact h.app

/-- Where there are workers, the handler is not before them. -/
theorem MainInv.of_workers {s s' : Store} {app : App} {main : Main} {past workers : Nat}
    {shared : Shared} (h : MainInv req clean B s app main)
    (hmain : MainOk req shared past workers main) (hworkers : workers ≠ 0)
    (hopened : ∀ prepared i, Opened req clean prepared app i s → Opened req clean prepared app i s')
    (hknows : ∀ j, workers < j → KnowsDev app s.entities (devName req app.appName j) →
      KnowsDev app s'.entities (devName req app.appName j)) : MainInv req clean B s' app main := by
  cases main with
  | preparing p => exact absurd hmain.1 hworkers
  | opening prepared apps i p => exact absurd hmain.1 hworkers
  | launching prepared apps i j =>
    refine ⟨hopened prepared i h.1, fun j' hj' hle => hknows j' ?_ (h.2 j' hj' hle)⟩
    have hj := hmain.2.2.1
    omega
  | waiting prepared apps i => exact hopened prepared i h
  | answered reply =>
    cases reply with
    | badRequest e => exact h
    | badGateway e => exact h
    | created body => exact absurd hmain.2.1 hworkers

/-- A worker takes a step. -/
theorem inv_worker {w : World} {k : Nat} {v v' : Worker} {shared' : Shared} {s' : Store}
    {handler' : BootstrapWorkers.State} (h : Inv req clean B w) (hk : w.handler.workers[k]? = some v)
    (hwent : WorkerWent req clean w.handler.app v v' shared' w.store s')
    (hhandler : handler' = { w.handler with
      shared := shared', workers := w.handler.workers.set k v' })
    (hsound : Sound req handler') : Inv req clean B ⟨handler', s'⟩ := by
  subst hhandler
  have hlt : k < w.handler.workers.length := (List.getElem?_eq_some_iff.mp hk).1
  have hne : w.handler.workers ≠ [] := by
    intro hnil
    rw [hnil] at hlt
    exact absurd hlt (Nat.not_lt_zero _)
  have htarget := h.target hne
  obtain ⟨hj, hdevices⟩ := h.numbered k v hk
  have hname : devName req w.handler.app.appName v.j ∈ devNames req w.handler.app.appName :=
    mem_devNames (by omega) (by omega)
  have hnumbered : ∀ (i : Nat) (u : Worker), (w.handler.workers.set k v')[i]? = some u →
      u.j = i + 1 ∧ i + 1 ≤ devices req := by
    intro i u hi
    rcases Objects.of_lookup_set hi with ⟨rfl, rfl⟩ | ⟨-, hi⟩
    · exact ⟨hwent.j.trans hj, hdevices⟩
    · exact h.numbered i u hi
  -- the other workers are for other devices
  have hothers : (∀ (i : Nat) (u : Worker), i ≠ k → w.handler.workers[i]? = some u →
      WorkerInv req clean w.handler.app s' u) →
      ∀ u ∈ w.handler.workers.set k v', WorkerInv req clean w.handler.app s' u := by
    intro hall u hu
    obtain ⟨i, hi⟩ := List.mem_iff_getElem?.mp hu
    rcases Objects.of_lookup_set hi with ⟨-, rfl⟩ | ⟨hik, hi⟩
    · exact hwent.inv
    · exact hall i u hik hi
  have hnames : ∀ (i : Nat) (u : Worker), i ≠ k → w.handler.workers[i]? = some u →
      devName req w.handler.app.appName v.j ≠ devName req w.handler.app.appName u.j := by
    intro i u hik hi hname
    have := devName_injective req _ hname
    have := (h.numbered i u hi).1
    omega
  have hlength : w.handler.workers.length ≠ 0 := by omega
  cases hwent.store with
  | same =>
    exact ⟨hsound, h.kept,
      h.main.of_workers h.sound.main hlength (fun _ _ h => h) (fun _ _ h => h),
      fun _ => htarget, hnumbered,
      hothers fun i u _ hi => h.workers u (List.mem_of_getElem? hi), hwent.quiet⟩
  | creates hnone hcreates =>
    have hkept := h.kept.create htarget hname hnone hcreates
    obtain ⟨-, rfl⟩ := hcreates
    refine ⟨hsound, hkept, h.main.of_workers h.sound.main hlength
      (fun _ _ h => h.append rfl) (fun j hlt h => h.append fun hsame => ?_),
      fun _ => htarget.append _, hnumbered, hothers fun i u hik hi =>
        (h.workers u (List.mem_of_getElem? hi)).append fun hsame => hnames i u hik hi hsame.2,
      hwent.quiet⟩
    have := devName_injective req _ hsame.2
    omega
  | keys hkeys hpresent =>
    have hkept : Kept req B s' := by
      unfold Kept
      rw [hkeys.1]
      exact h.kept
    refine ⟨hsound, hkept, h.main.of_workers h.sound.main hlength
      (fun _ _ hopened => hopened.keys h.kept.1.wf hkeys hpresent) (fun j _ hknows => ?_),
      fun _ => ?_, hnumbered, hothers fun i u hik hi => ?_, hwent.quiet⟩
    · rw [hkeys.1]
      exact hknows
    · show Target req s'.entities _ _
      rw [hkeys.1]
      exact htarget
    · refine (h.workers u (List.mem_of_getElem? hi)).keys hkeys fun hc hu heui => ?_
      have hsame := h.kept.1.wf.eq hu (hpresent hc) rfl heui
      exact hnames i u hik hi (congrArg Entity.name hsame).symm

/-- The next application, or the answer: what its program knows and has done. -/
theorem mainInv_nextApp {s : Store} {handler : BootstrapWorkers.State} {apps : List ListItem} {i : Nat}
    (hkept : Kept req B s) (hprogress : Progress req clean prepared i i s) (h1 : 1 ≤ i)
    (app : App) : MainInv req clean B s app (nextApp req prepared apps i handler).main := by
  unfold nextApp
  split
  · next hi => exact ⟨h1, hi, spec_openApp hkept hprogress h1 hi⟩
  · next hi =>
    intro hc
    refine ⟨prepared.tenantID, hprogress.base, fun i' h1' hi' => hprogress.done hc i' h1' ?_⟩
    omega

theorem nextApp_fields (req : BootstrapRequest) (prepared : Prepared) (apps : List ListItem) (i : Nat)
    (handler : BootstrapWorkers.State) :
    (nextApp req prepared apps i handler).workers = handler.workers ∧
      (nextApp req prepared apps i handler).app = handler.app ∧
      (nextApp req prepared apps i handler).shared = handler.shared := by
  unfold nextApp
  split
  · exact ⟨rfl, rfl, rfl⟩
  · exact ⟨rfl, rfl, rfl⟩

/-- The workers of an application have all returned: its devices are done. -/
theorem done_of_finished {app : App} {workers : List Worker} {i : Nat} {s : Store}
    (h : Opened req clean prepared app i s)
    (hworkers : ∀ v ∈ workers, WorkerInv req clean app s v)
    (hnumbered : ∀ (k : Nat) (v : Worker), workers[k]? = some v → v.j = k + 1)
    (hlength : clean → workers.length = devices req)
    (hfinished : ∀ v ∈ workers, v.pc = .counted ∨ v.pc = .returned) :
    Progress req clean prepared (i + 1) (i + 1) s := by
  refine ⟨h.progress.base, h.progress.ahead, fun hc i' h1 hlt => ?_⟩
  rcases Nat.lt_succ_iff_lt_or_eq.mp hlt with hlt | rfl
  · exact h.progress.done hc i' h1 hlt
  · refine ⟨app.appID, h.app, fun n hn => ?_⟩
    obtain ⟨j, hj, rfl⟩ := List.mem_map.mp hn
    have hj' := List.mem_range'_1.mp hj
    have hlen := hlength hc
    unfold devices at hlen
    have hlt : j - 1 < workers.length := by omega
    obtain ⟨v, hv⟩ : ∃ v, workers[j - 1]? = some v := ⟨_, List.getElem?_eq_getElem hlt⟩
    have hmem := List.mem_of_getElem? hv
    have hvj : v.j = j := by
      have := hnumbered _ _ hv
      omega
    have hinv := hworkers v hmem
    rcases hfinished v hmem with hpc | hpc
    · unfold WorkerInv at hinv
      rw [hpc] at hinv
      obtain ⟨hpresent, hkeys⟩ := hinv hc
      unfold Present at hpresent
      rw [hvj, h.name] at hpresent
      exact ⟨v.devEUI, hpresent, hkeys⟩
    · unfold WorkerInv at hinv
      rw [hpc] at hinv
      exact absurd hc hinv

/-- Without workers there is the handler alone. -/
theorem inv_of_idle {s : Store} {handler : BootstrapWorkers.State} (hsound : Sound req handler)
    (hkept : Kept req B s) (hmain : MainInv req clean B s handler.app handler.main)
    (hworkers : handler.workers = [])
    (hquiet : clean → handler.shared.err = none ∧ handler.shared.bootstrapErr = none) :
    Inv req clean B ⟨handler, s⟩ where
  sound := hsound
  kept := hkept
  main := hmain
  target := fun hne => absurd hworkers hne
  numbered := by
    show ∀ (k : Nat) (v : Worker), handler.workers[k]? = some v → _
    rw [hworkers]
    exact fun k v hk => by cases hk
  workers := by
    show ∀ v ∈ handler.workers, _
    rw [hworkers]
    exact fun v hv => by cases hv
  quiet := hquiet

/-- A worker is launched. -/
theorem inv_launches {w : World} (h : Inv req clean B w) {found : Prepared} {apps : List ListItem}
    {i j : Nat} (hpc : w.handler.main = .launching found apps i j) (hle : (j : Int) ≤ req.devCount)
    (hsound : Sound req { w.handler with
      main := .launching found apps i (j + 1)
      workers := w.handler.workers ++ [⟨j, .queued, "", "", none, none, false⟩] }) :
    Inv req clean B ⟨{ w.handler with
      main := .launching found apps i (j + 1)
      workers := w.handler.workers ++ [⟨j, .queued, "", "", none, none, false⟩] }, w.store⟩ := by
  have hmain := h.main
  have hok := h.sound.main
  rw [hpc] at hmain hok
  obtain ⟨hopened, hknows⟩ := hmain
  obtain ⟨-, -, hj, -⟩ := hok
  refine ⟨hsound, h.kept, ⟨hopened, fun j' hj' => hknows j' (by omega)⟩, fun _ => ?_, ?_, ?_, h.quiet⟩
  · show Target req w.store.entities (.devices w.handler.app.appID)
      (devNames req w.handler.app.appName)
    rw [hopened.name]
    exact .devices hopened.progress.base.tenant hopened.app
      (mem_appNames hopened.first hopened.last)
  · intro k v hk
    rcases Objects.lookup_append.mp hk with hk | ⟨rfl, rfl⟩
    · exact h.numbered k v hk
    · refine ⟨hj.symm, ?_⟩
      unfold devices
      omega
  · intro v hv
    rcases List.mem_append.mp hv with hv | hv
    · exact h.workers v hv
    · rw [List.mem_singleton.mp hv]
      exact hknows j le_rfl (by unfold devices; omega)

/-- The handler takes a step. -/
theorem inv_main {w : World} {x : (c : Call) → c.Answer} {s' : Store}
    {handler' : BootstrapWorkers.State} (h : Inv req clean B w)
    (hstep : mainStep req x w.handler = some handler')
    (hnone : mainCall w.handler.main = none → s' = w.store)
    (hsome : ∀ c, mainCall w.handler.main = some c → Lawful req clean w.store c (x c) s')
    (hsound : Sound req handler') : Inv req clean B ⟨handler', s'⟩ := by
  have hmain := h.main
  have hok := h.sound.main
  cases mainStep_cases hstep with
  | unprepared hpc =>
    rw [hpc] at hmain hnone
    obtain rfl := hnone rfl
    exact ⟨hsound, h.kept, hmain.2.1 _ rfl, h.target, h.numbered, h.workers, h.quiet⟩
  | @prepared found hpc =>
    rw [hpc] at hmain hnone hok
    obtain rfl := hnone rfl
    obtain ⟨hbase, hknows⟩ := hmain.2.2 found rfl
    have hworkers : w.handler.workers = [] := List.length_eq_zero_iff.mp hok.1
    obtain ⟨hw, happ, hshared⟩ := nextApp_fields req found [] 1 w.handler
    exact inv_of_idle hsound h.kept (mainInv_nextApp h.kept
      ⟨hbase, hknows, fun _ i h1 hlt => by omega⟩ le_rfl _) (hw.trans hworkers)
      (by rw [hshared]; exact h.quiet)
  | @prepares p c hpc hcall =>
    rw [hpc] at hmain hsome hok
    have hspec : (p.resume x).Spec (Lawful req clean) (Kept req B) (Prepares req clean) s' :=
      Prog.Spec.resume hmain hcall (hsome c hcall)
    exact inv_of_idle hsound hspec.start hspec (List.length_eq_zero_iff.mp hok.1) h.quiet
  | unopened hpc =>
    rw [hpc] at hmain hnone
    obtain rfl := hnone rfl
    exact ⟨hsound, h.kept, hmain.2.2.2.1 _ rfl, h.target, h.numbered, h.workers, h.quiet⟩
  | @opened found apps i app err hpc =>
    rw [hpc] at hmain hnone hok
    obtain rfl := hnone rfl
    obtain ⟨h1, hi, ⟨hkept, hprogress⟩, -, hopens⟩ := hmain
    obtain ⟨herr, hname, happ, hknows⟩ := hopens app err rfl
    refine inv_of_idle hsound hkept ⟨⟨h1, hi, hprogress, hname, happ⟩, fun j h1 hj => ?_⟩
      (List.length_eq_zero_iff.mp hok.1) fun hc => ⟨herr hc, rfl⟩
    refine hknows _ ?_
    rw [hname]
    exact mem_devNames h1 hj
  | @opens found apps i p c hpc hcall =>
    rw [hpc] at hmain hsome hok
    obtain ⟨h1, hi, hspec⟩ := hmain
    have hspec' : (p.resume x).Spec (Lawful req clean) (Opening req clean B found i)
        (Opens req clean found i) s' := hspec.resume hcall (hsome c hcall)
    exact inv_of_idle hsound hspec'.start.1 ⟨h1, hi, hspec'⟩ (List.length_eq_zero_iff.mp hok.1)
      h.quiet
  | stops hpc hle herr =>
    rw [hpc] at hmain hnone
    obtain rfl := hnone rfl
    exact ⟨hsound, h.kept, hmain.1, h.target, h.numbered, h.workers, h.quiet⟩
  | launches hpc hle herr =>
    rw [hpc] at hnone
    obtain rfl := hnone rfl
    exact inv_launches h hpc hle hsound
  | launched hpc hgt =>
    rw [hpc] at hmain hnone
    obtain rfl := hnone rfl
    exact ⟨hsound, h.kept, hmain.1, h.target, h.numbered, h.workers, h.quiet⟩
  | fails hpc hfinished herr =>
    rw [hpc] at hnone
    obtain rfl := hnone rfl
    refine ⟨hsound, h.kept, fun hc => ?_, h.target, h.numbered, h.workers, h.quiet⟩
    rw [(h.quiet hc).2] at herr
    cases herr
  | @finishes found apps i hpc hfinished herr =>
    rw [hpc] at hmain hnone hok
    obtain rfl := hnone rfl
    have hopened : Opened req clean found w.handler.app i w.store := hmain
    have hprogress := done_of_finished hopened h.workers (fun k v hk => (h.numbered k v hk).1)
      (fun hc => hok.2.2 (h.quiet hc).2) hfinished
    obtain ⟨hw, happ, hshared⟩ := nextApp_fields req found apps (i + 1)
      { w.handler with past := w.handler.past ++ w.handler.workers, workers := [] }
    exact inv_of_idle hsound h.kept
      (mainInv_nextApp h.kept hprogress (Nat.succ_le_succ (Nat.zero_le i)) _) hw
      (by rw [hshared]; exact h.quiet)

/-- **One step.** -/
theorem inv_step {w w' : World} {l : Label} (h : Inv req clean B w) (hanswered : Answered req clean w l)
    (hstep : step req w l = some w') : Inv req clean B w' := by
  obtain ⟨party, env⟩ := l
  obtain ⟨handler', hhandler, rfl⟩ := Option.map_eq_some_iff.mp hstep
  have hsound := sound_step h.sound hhandler
  have hnone : ∀ {o : Option Call}, callOf req w.handler party = o → o = none →
      storeAfter req w ⟨party, env⟩ = w.store := by
    rintro o ho rfl
    simp only [storeAfter, ho]
  have hsome : ∀ {o : Option Call}, callOf req w.handler party = o → ∀ c, o = some c →
      Lawful req clean w.store c (env w.store c).1 (storeAfter req w ⟨party, env⟩) := by
    rintro o ho c rfl
    have hlawful := hanswered c ho
    simp only [storeAfter, ho]
    exact hlawful
  cases party with
  | main => exact inv_main h hhandler (hnone rfl) (hsome rfl) hsound
  | worker k =>
    obtain ⟨v, shared', v', hk, -, hv, rfl⟩ := step_worker hhandler
    have hcall : callOf req w.handler (.worker k) = workerCall req w.handler.app v := by
      simp only [callOf, hk, Option.bind_some]
    have hwent := went_worker (h.workers v (List.mem_of_getElem? hk)) h.quiet (hnone hcall)
      (hsome hcall) hv
    exact inv_worker h hk hwent rfl hsound

/-- **A run.** -/
theorem inv_exec {s : Store} (hs : OnePage req s.entities) {labels : List Label} {w : World}
    (hrun : exec (step req) (start req s) labels = some w)
    (hanswered : Always (step req) (Answered req clean) (start req s) labels) :
    Inv req clean s.entities w :=
  exec_invariant_of_always (fun _ _ _ h hanswered hstep => inv_step h hanswered hstep) (inv_start hs)
    hanswered hrun

/-- A run that misses nothing. -/
theorem inv_of_finding {s : Store} (hs : OnePage req s.entities) {labels : List Label} {w : World}
    (hrun : exec (step req) (start req s) labels = some w)
    (hserved : Always (step req) (Served req) (start req s) labels)
    (hfinding : Always (step req) (Finding req) (start req s) labels) : Inv req False s.entities w :=
  inv_exec hs hrun ((hserved.and hfinding).mono fun _ _ h => answered_of_finding h.1 h.2)

/-- A run that succeeds. -/
theorem inv_of_succeeding {s : Store} (hs : OnePage req s.entities) {labels : List Label} {w : World}
    (hrun : exec (step req) (start req s) labels = some w)
    (hserved : Always (step req) (Served req) (start req s) labels)
    (hsucceeding : Always (step req) (Succeeding req) (start req s) labels) :
    Inv req True s.entities w :=
  inv_exec hs hrun ((hserved.and hsucceeding).mono fun _ _ h => answered_of_succeeding h.1 h.2)

/-! ## Convergence -/

/-- Each name of the request is there exactly once, and its devices have keys. -/
structure Converged (req : BootstrapRequest) (s : Store) : Prop where
  once : ∀ k ns, Target req s.entities k ns → ∀ n ∈ ns, count (shelf s.entities k) n = 1
  keys : ∀ appID ns, Target req s.entities (.devices appID) ns → ∀ devEUI, ∀ n ∈ ns,
    ⟨.devices appID, devEUI, n⟩ ∈ s.entities → devEUI ∈ s.keys

theorem exists_appName {n : String} (hn : n ∈ appNames req) :
    ∃ i : Nat, 1 ≤ i ∧ (i : Int) ≤ req.appCount ∧ appName req i = n := by
  obtain ⟨i, hi, rfl⟩ := List.mem_map.mp hn
  have hi' := List.mem_range'_1.mp hi
  exact ⟨i, by omega, by omega, rfl⟩

/-- The devices that are done are those of the application. -/
theorem AllDone.device {s : Store} (hs : OnePage req s.entities) (h : AllDone req s) {appID : String}
    {ns : List String} (htarget : Target req s.entities (.devices appID) ns) {n : String}
    (hn : n ∈ ns) : ∃ devEUI, ⟨.devices appID, devEUI, n⟩ ∈ s.entities ∧ devEUI ∈ s.keys := by
  obtain ⟨tenantID, hbase, hdone⟩ := h
  cases htarget with
  | devices htenant happ hname =>
    obtain ⟨i, h1, hi, rfl⟩ := exists_appName hname
    cases hs.eq .tenants htenant hbase.tenant rfl rfl rfl (List.mem_singleton.mpr rfl)
    obtain ⟨appID', happ', hdevices⟩ := hdone i h1 hi
    cases hs.eq (.applications htenant) happ happ' rfl rfl rfl hname
    exact hdevices n hn

theorem AllDone.complete {s : Store} (hs : OnePage req s.entities) (h : AllDone req s) :
    Complete req s.entities := by
  intro k ns htarget n hn
  obtain ⟨tenantID, hbase, hdone⟩ := id h
  -- the tenant of the name is the one that the request has found
  have htenants : ∀ {tenantID' : String}, ⟨.tenants, tenantID', req.orgName⟩ ∈ s.entities →
      tenantID' = tenantID := fun htenant =>
    congrArg Entity.id
      (hs.eq .tenants htenant hbase.tenant rfl rfl rfl (List.mem_singleton.mpr rfl))
  cases htarget with
  | tenants =>
    rw [List.mem_singleton.mp hn]
    exact ⟨_, hbase.tenant, rfl, rfl⟩
  | profiles htenant =>
    rw [htenants htenant]
    exact hbase.profiles n hn
  | applications htenant =>
    obtain ⟨i, h1, hi, rfl⟩ := exists_appName hn
    obtain ⟨appID, happ, -⟩ := hdone i h1 hi
    rw [htenants htenant]
    exact ⟨_, happ, rfl, rfl⟩
  | devices htenant happ hname =>
    obtain ⟨devEUI, hdevice, -⟩ := h.device hs (.devices htenant happ hname) hn
    exact ⟨_, hdevice, rfl, rfl⟩

theorem AllDone.converged {s : Store} (hs : OnePage req s.entities) (h : AllDone req s) :
    Converged req s where
  once := by
    intro k ns htarget n hn
    have hle := (hs.fits k ns htarget).unique n hn
    obtain ⟨e, he, hk, hen⟩ := h.complete hs k ns htarget n hn
    have hne : count (shelf s.entities k) n ≠ 0 := fun hzero =>
      count_eq_zero.mp hzero e (mem_shelf.mpr ⟨he, hk⟩) hen
    omega
  keys := by
    intro appID ns htarget devEUI n hn hdevice
    obtain ⟨devEUI', hdevice', hkeys⟩ := h.device hs htarget hn
    cases hs.eq htarget hdevice hdevice' rfl rfl rfl hn
    exact hkeys

/-- The end of a clean run. -/
theorem allDone_of_answered {w : World} (h : Inv req clean B w) (haccepted : refusal req = none)
    (hclean : clean) {reply : Reply} (hmain : w.handler.main = .answered reply) :
    AllDone req w.store := by
  have hinv := h.main
  rw [hmain] at hinv
  cases reply with
  | badRequest e => exact absurd haccepted hinv
  | badGateway e => exact absurd hclean hinv
  | created body => exact hinv hclean

end

/-- **Bootstrap converges**, where the shelves of the request fit on a page and no listing fails that
    would have shown a wanted name: after any earlier run, a run whose calls all succeed ends with each
    name there exactly once and with keys, and to repeat the request creates nothing. -/
theorem bootstrap_converges {req : BootstrapRequest} (haccepted : refusal req = none) {s : Store}
    (hs : OnePage req s.entities) {earlier labels : List Label} {w₁ w₂ : World} {reply : Reply}
    (hearlier : exec (step req) (start req s) earlier = some w₁)
    (hserved₁ : Always (step req) (Served req) (start req s) earlier)
    (hfinding : Always (step req) (Finding req) (start req s) earlier)
    (hrun : exec (step req) (start req w₁.store) labels = some w₂)
    (hserved₂ : Always (step req) (Served req) (start req w₁.store) labels)
    (hsucceeding : Always (step req) (Succeeding req) (start req w₁.store) labels)
    (hanswered : w₂.handler.main = .answered reply) :
    Converged req w₂.store ∧ ∀ (again : List Label) (w₃ : World),
      exec (step req) (start req w₂.store) again = some w₃ →
      Always (step req) (Served req) (start req w₂.store) again →
      Always (step req) (Finding req) (start req w₂.store) again →
        w₃.store.entities = w₂.store.entities := by
  have hs₁ : OnePage req w₁.store.entities := (inv_of_finding hs hearlier hserved₁ hfinding).kept.1
  have hinv := inv_of_succeeding hs₁ hrun hserved₂ hsucceeding
  have hs₂ : OnePage req w₂.store.entities := hinv.kept.1
  have hdone := allDone_of_answered hinv haccepted trivial hanswered
  refine ⟨hdone.converged hs₂, fun again w₃ hagain hserved₃ hfinding₃ => ?_⟩
  exact (hdone.complete hs₂).grown (inv_of_finding hs₂ hagain hserved₃ hfinding₃).kept.2

/-! ### Runs -/

instance (req : BootstrapRequest) (w : World) (l : Label) : Decidable (Succeeding req w l) :=
  inferInstanceAs (Decidable (∀ c ∈ callOf req w.handler l.party, Succeeds c (l.env w.store c).1))

theorem served_chirpStack {req : BootstrapRequest} {w : World} {labels : List Label}
    (h : ∀ l ∈ labels, l.env = chirpStack true ∨ l.env = chirpStack false) :
    Always (step req) (Served req) w labels ∧ Always (step req) (Finding req) w labels := by
  have hlabels : Always (step req) (fun _ l => l.env = chirpStack true ∨ l.env = chirpStack false) w
      labels := always_of_forall_mem h
  constructor
  · refine hlabels.mono ?_
    rintro w ⟨party, env⟩ (rfl | rfl)
    · exact fun c _ => serves_chirpStack true w.store c
    · exact fun c _ => serves_chirpStack false w.store c
  · refine hlabels.mono ?_
    rintro w ⟨party, env⟩ (rfl | rfl)
    · exact fun c _ => finds_chirpStack req true w.store c
    · exact fun c _ => finds_chirpStack req false w.store c

/-- The party goes on for `n` steps. -/
def goes (devices : Bool) (party : Party) (n : Nat) : List Label :=
  List.replicate n ⟨party, chirpStack devices⟩

theorem env_of_mem_goes {devices : Bool} {party : Party} {n : Nat} {l : Label}
    (h : l ∈ goes devices party n) : l.env = chirpStack true ∨ l.env = chirpStack false := by
  rw [List.eq_of_mem_replicate h]
  cases devices with
  | true => exact Or.inl rfl
  | false => exact Or.inr rfl

/-- The handler prepares a device, its worker goes on, and the handler answers. -/
def oneDevice (devices : Bool) (prepares works : Nat) : List Label :=
  goes devices .main prepares ++ goes devices (.worker 0) works ++ goes devices .main 1

theorem served_oneDevice (req : BootstrapRequest) (w : World) (devices : Bool) (prepares works : Nat) :
    Always (step req) (Served req) w (oneDevice devices prepares works) ∧
      Always (step req) (Finding req) w (oneDevice devices prepares works) := by
  refine served_chirpStack fun l hl => ?_
  rcases List.mem_append.mp hl with hl | hl
  · rcases List.mem_append.mp hl with hl | hl
    · exact env_of_mem_goes hl
    · exact env_of_mem_goes hl
  · exact env_of_mem_goes hl

/-- The answer of the handler. -/
def World.reply (w : World) : Option Reply :=
  match w.handler.main with
  | .answered reply => some reply
  | _ => none

theorem World.answered {w : World} {reply : Reply} (h : w.reply = some reply) :
    w.handler.main = .answered reply := by
  unfold World.reply at h
  split at h
  · next hmain =>
    cases h
    exact hmain
  · cases h

/-- The creation of the device was refused. -/
def partly : Store where
  entities := [⟨.tenants, "#0", "Org"⟩, ⟨.profiles "#0", "#1", "Org-dp-1"⟩,
    ⟨.applications "#0", "#2", "Org-app-1"⟩]
  keys := []

/-- A new ChirpStack that refuses the device, and then does not. -/
theorem bootstrap_converges_oneDevice : ∃ w,
    exec (step (oneApp 1)) (start (oneApp 1) partly) (oneDevice true 9 11) = some w ∧
      Converged (oneApp 1) w.store := by
  have hpartly : (exec (step (oneApp 1)) (start (oneApp 1) ⟨[], []⟩) (oneDevice false 12 7)).map
      (·.store) = some partly := by decide +kernel
  have hanswered : ((exec (step (oneApp 1)) (start (oneApp 1) partly) (oneDevice true 9 11)).bind
      World.reply).isSome = true := by decide +kernel
  have hsucceeding : Always (step (oneApp 1)) (Succeeding (oneApp 1)) (start (oneApp 1) partly)
      (oneDevice true 9 11) := by decide +kernel
  obtain ⟨w₁, hearlier, hw₁⟩ := Option.map_eq_some_iff.mp hpartly
  obtain ⟨reply, hreply⟩ := Option.isSome_iff_exists.mp hanswered
  obtain ⟨w₂, hrun, hreply⟩ := Option.bind_eq_some_iff.mp hreply
  obtain ⟨hserved₁, hfinding⟩ := served_oneDevice (oneApp 1) (start (oneApp 1) ⟨[], []⟩) false 12 7
  rw [← hw₁] at hrun hsucceeding ⊢
  exact ⟨w₂, hrun, (bootstrap_converges rfl
    (onePage_nil (by decide +kernel) (by decide +kernel) fun _ => Nat.le_of_ble_eq_true rfl) hearlier
    hserved₁ hfinding hrun (served_oneDevice (oneApp 1) _ true 9 11).1 hsucceeding
    (World.answered hreply)).1⟩

/-! ## More than a page -/

/-- The profile of the request stands behind a hundred others. -/
def crowded : Store where
  entities := ⟨.tenants, "t", "Org"⟩ :: ((List.range 100).map fun i =>
    (⟨.profiles "t", toString i, "A" ++ toString i⟩ : Entity Shelf String String)) ++
    [⟨.profiles "t", toString 100, "Org-dp-1"⟩]
  keys := []

theorem wf_crowded : Wf crowded.entities where
  nonempty := by decide +kernel
  unique := by
    have hids : (crowded.entities.map fun e => (e.shelf.kind, e.id)) =
        (.tenant, "t") :: (List.range 101).map fun i => (.profile, toString i) := by decide +kernel
    rw [hids, List.nodup_cons]
    refine ⟨fun h => ?_, List.Nodup.map (fun i j h => ?_) List.nodup_range⟩
    · obtain ⟨i, -, hi⟩ := List.mem_map.mp h
      cases hi
    · exact toString_injective (congrArg Prod.snd h)

/-- The listing does not show it, and a run whose calls all succeed creates it again. -/
theorem overlooked_not_converged : Wf crowded.entities ∧ ∃ w,
    exec (step (oneApp 1)) (start (oneApp 1) crowded) (oneDevice true 11 11) = some w ∧
      Always (step (oneApp 1)) (Served (oneApp 1)) (start (oneApp 1) crowded) (oneDevice true 11 11) ∧
      Always (step (oneApp 1)) (Succeeding (oneApp 1)) (start (oneApp 1) crowded)
        (oneDevice true 11 11) ∧
      w.reply.isSome ∧ ⟨.tenants, "t", "Org"⟩ ∈ w.store.entities ∧
      count (shelf crowded.entities (.profiles "t")) "Org-dp-1" = 1 ∧
      count (shelf w.store.entities (.profiles "t")) "Org-dp-1" = 2 ∧
      ¬ Converged (oneApp 1) w.store := by
  have hend : (exec (step (oneApp 1)) (start (oneApp 1) crowded) (oneDevice true 11 11)).map
      (fun w => (w.reply.isSome, decide (⟨.tenants, "t", "Org"⟩ ∈ w.store.entities),
        count (shelf w.store.entities (.profiles "t")) "Org-dp-1")) = some (true, true, 2) := by
    decide +kernel
  obtain ⟨w, hrun, hw⟩ := Option.map_eq_some_iff.mp hend
  obtain ⟨hreply, hw⟩ := Prod.mk.inj hw
  obtain ⟨htenant, htwice⟩ := Prod.mk.inj hw
  have htenant := of_decide_eq_true htenant
  refine ⟨wf_crowded, w, hrun, (served_oneDevice ..).1, by decide +kernel, hreply, htenant, by decide +kernel,
    htwice, fun hconverged => ?_⟩
  have hname : "Org-dp-1" ∈ dpNames (oneApp 1) := by decide +kernel
  have honce := hconverged.once _ _ (.profiles htenant) _ hname
  rw [htwice] at honce
  cases honce

end ChirpStackSimulator.BootstrapConverge
