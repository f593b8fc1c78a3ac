/-
  The goroutines of a bootstrap request (`internal/api/bootstrap.go`).

  The devices of an application are created by one goroutine each, up to ten of them at a time.  They
  share the variable `err` of the enclosing loop: a worker assigns the result of its call to it and then
  tests it, and between the two another worker may have assigned the result of its own.

  1. **Workers** - `Worker.step` is one step of a goroutine: a call with its answer, an assignment to or
     a read of a shared variable.
  2. **The handler** - what comes before the applications is `Bootstrap.lean`'s; then each application
     launches its workers and waits for them.  What a step can do is said once (`mainStep_cases`,
     `step_worker`).
  3. **What a worker knows** (`Worker.Ok`) - a worker is counted exactly if its calls have succeeded or
     a failure of it was lost, that is, overwritten before it was tested.
  4. **Success** - if the answer is 201, the devices are all counted; and their calls have all succeeded
     exactly if no worker found `err` empty after a failure of its own (`created_iff`).
-/
import Mathlib.Tactic.Linarith
import ChirpStackSimulator.Bootstrap
import ChirpStackSimulator.Lib.Run
import ChirpStackSimulator.Lib.Tally

namespace ChirpStackSimulator.BootstrapWorkers

open Bootstrap Transition

/-! ## Workers -/

/-- The application whose devices are created, with the devices it has. -/
structure App where
  appID : String
  appName : String
  dpIDs : List String
  existingDevices : List DeviceListItem
  deriving DecidableEq

/-- The variables the workers share. -/
structure Shared where
  err : Option RPCError
  bootstrapErr : Option String
  createdDevicesCount : Nat
  deriving DecidableEq

/-- `errOnce.Do`. -/
def Shared.once (s : Shared) (message : String) : Shared :=
  if s.bootstrapErr.isSome then s else { s with bootstrapErr := some message }

/-- Where a worker stands. -/
inductive Pc
  /-- Before its place among the ten. -/
  | queued
  | entered
  | randEUI
  | randKey
  | creating
  /-- The result of `Device.Create` has been assigned to `err`, and is to be tested. -/
  | created
  | reportCreate
  | deletingKeys
  | creatingKeys
  /-- The same of `Device.CreateKeys`. -/
  | keysCreated
  | reportKeys
  | saving
  | counting
  | counted
  /-- It has returned before its device was counted. -/
  | returned
  deriving DecidableEq

structure Worker where
  j : Nat
  pc : Pc
  devEUI : String
  appKey : String
  /-- The results of its two calls, once they are made. -/
  create : Option (Option RPCError)
  keys : Option (Option RPCError)
  /-- It has found `err` empty after a failure of its own. -/
  lost : Bool
  deriving DecidableEq

/-- The call was made and failed. -/
def failed (result : Option (Option RPCError)) : Bool := result.join.isSome

namespace Worker

/-- The result it is about to test is a failure. -/
def failing (w : Worker) : Bool :=
  match w.pc with
  | .created => failed w.create
  | .keysCreated => failed w.keys
  | _ => false

/-- It has a place among the ten. -/
def inside (w : Worker) : Bool :=
  match w.pc with
  | .queued | .counted | .returned => false
  | _ => true

end Worker

/-- The text of an error in a message. -/
def errText : Option RPCError → String
  | none => "%!w(<nil>)"
  | some e => e.text

/-- The next step of a worker; `x` are the answers to its calls. -/
def Worker.step (req : BootstrapRequest) (app : App) (x : (c : Call) → c.Answer) (s : Shared)
    (w : Worker) : Option (Shared × Worker) :=
  let name := devName req app.appName w.j
  let (dpID, interval) := devSettings req app.dpIDs w.j
  match w.pc with
  | .queued => some (s, { w with pc := .entered })
  | .entered =>
    if s.bootstrapErr.isSome then some (s, { w with pc := .returned })
    else
      let devEUI := findEUI app.existingDevices name
      some (s, { w with devEUI, pc := if devEUI = "" then .randEUI else .randKey })
  | .randEUI =>
    match x (.randRead 8) with
    | .error e => some (s.once ("rastgele DevEUI üretilemedi: " ++ e), { w with pc := .returned })
    | .ok bytes => some (s, { w with devEUI := Hex.encode bytes.toList, pc := .randKey })
  | .randKey =>
    match x (.randRead 16) with
    | .error e => some (s.once ("rastgele AppKey üretilemedi: " ++ e), { w with pc := .returned })
    | .ok bytes =>
      let deviceFound := app.existingDevices.any fun dev => dev.name = name
      some (s, { w with
        appKey := Hex.encode bytes.toList, pc := if deviceFound then .deletingKeys else .creating })
  | .creating =>
    let err : Option RPCError :=
      x (.rpc (.createDevice ⟨w.devEUI, name, name ++ " cihazı", app.appID, dpID, false⟩))
    some ({ s with err }, { w with create := some err, pc := .created })
  | .created =>
    if s.err.isSome then some (s, { w with pc := .reportCreate })
    else some (s, { w with pc := .deletingKeys, lost := w.lost || w.failing })
  | .reportCreate =>
    some (s.once ("cihaz " ++ name ++ " oluşturulamadı: " ++ errText s.err), { w with pc := .returned })
  | .deletingKeys =>
    -- whether there were any is not looked at
    let _ := x (.rpc (.deleteKeys w.devEUI))
    some (s, { w with pc := .creatingKeys })
  | .creatingKeys =>
    let err : Option RPCError := x (.rpc (.createKeys ⟨w.devEUI, w.appKey, ""⟩))
    some ({ s with err }, { w with keys := some err, pc := .keysCreated })
  | .keysCreated =>
    if s.err.isSome then some (s, { w with pc := .reportKeys })
    else some (s, { w with pc := .saving, lost := w.lost || w.failing })
  | .reportKeys =>
    some (s.once ("cihaz anahtarları " ++ name ++ " oluşturulamadı: " ++ errText s.err),
      { w with pc := .returned })
  | .saving =>
    -- a failure is a warning in the log
    let _ := x (.saveDeviceInterval w.devEUI interval)
    some (s, { w with pc := .counting })
  | .counting =>
    some ({ s with createdDevicesCount := s.createdDevicesCount + 1 }, { w with pc := .counted })
  | .counted | .returned => none

/-! ## The handler -/

/-- What comes before the applications: the tenant, its profiles, and its applications so far. -/
structure Prepared where
  tenantID : String
  dpIDs : List String
  existingApps : List ListItem
  deriving DecidableEq

/-- `bootstrap` up to its loop over the applications. -/
def prepare (req : BootstrapRequest) : Action (Except String Prepared) := do
  match ← findOrCreateTenant req with
  | .error e => pure (.error ("organizasyon oluşturulamadı: " ++ e.text))
  | .ok tenantID => do
    let _ ← Discovery.saveOrgConfig tenantID (defaultCfg req tenantID)
    let profiles ← rpc (.listDeviceProfiles tenantID 100)
    match ← findOrCreateProfiles req tenantID (listed profiles)
        (List.range' 1 req.dpCount.toNat) with
    | .error (name, e) => pure (.error ("cihaz profili " ++ name ++ " oluşturulamadı: " ++ e.text))
    | .ok dpIDs => do
      let apps ← rpc (.listApplications tenantID 100)
      pure (.ok ⟨tenantID, dpIDs, listed apps⟩)

/-- `bootstrapApp` up to its loop over the devices, with the error of the listing. -/
def openApp (req : BootstrapRequest) (prepared : Prepared) (i : Nat) :
    Action (Except String (App × Option RPCError)) := do
  let app := appName req i
  match ← orCreate (findID prepared.existingApps app)
      (rpc (.createApplication ⟨"", app, app ++ " uygulaması", prepared.tenantID⟩)) with
  | .error e => pure (.error ("uygulama " ++ app ++ " oluşturulamadı: " ++ e.text))
  | .ok appID => do
    match ← rpc (.listDevices appID "" 100 0) with
    | .error e => pure (.ok (⟨appID, app, prepared.dpIDs, []⟩, some e))
    | .ok devices => pure (.ok (⟨appID, app, prepared.dpIDs, devices⟩, none))

/-- `bootstrap` is this and its loop over the applications. -/
theorem bootstrap_eq (req : BootstrapRequest) : bootstrap req = prepare req >>= fun prepared =>
    match prepared with
    | .error e => pure (.badGateway e)
    | .ok prepared => bootstrapApps req prepared.tenantID prepared.dpIDs prepared.existingApps
        (List.range' 1 req.appCount.toNat) := by
  unfold bootstrap prepare
  rw [Prog.bind_assoc]
  congr 1
  funext tenant
  cases tenant with
  | error e => rfl
  | ok tenantID =>
    simp only [Prog.bind_assoc]
    congr 1
    funext _
    congr 1
    funext profiles
    congr 1
    funext r
    cases r with
    | error e => rfl
    | ok dpIDs => rfl

/-- `bootstrapApp` is this and its loop over the devices. -/
theorem bootstrapApp_eq (req : BootstrapRequest) (prepared : Prepared) (i : Nat) :
    bootstrapApp req prepared.tenantID prepared.dpIDs prepared.existingApps i =
      openApp req prepared i >>= fun r =>
        match r with
        | .error e => pure (some e)
        | .ok (app, _) => bootstrapDevices req app.appName app.appID app.dpIDs app.existingDevices
            (List.range' 1 req.devCount.toNat) := by
  simp only [bootstrapApp, openApp]
  rw [Prog.bind_assoc]
  congr 1
  funext r
  cases r with
  | error e => rfl
  | ok appID =>
    show rpc _ >>= _ = (rpc _ >>= _) >>= _
    rw [Prog.bind_assoc]
    congr 1
    funext devices
    cases devices with
    | error e => rfl
    | ok devices => rfl
/-- The body of the answer 201. -/
structure Created where
  tenantID : String
  tenantName : String
  profiles : List ListItem
  applications : List ListItem
  devicesCount : Nat
  deriving DecidableEq

inductive Reply
  | badRequest (error : String)
  | badGateway (error : String)
  | created (body : Created)
  deriving DecidableEq

/-- Where the goroutine of the handler stands; `i` is the number of the application, `apps` are those
    it has so far. -/
inductive Main
  | preparing (p : Action (Except String Prepared))
  | opening (prepared : Prepared) (apps : List ListItem) (i : Nat)
      (p : Action (Except String (App × Option RPCError)))
  /-- In the loop that launches the workers, at the `j`-th. -/
  | launching (prepared : Prepared) (apps : List ListItem) (i j : Nat)
  /-- In `wg.Wait`. -/
  | waiting (prepared : Prepared) (apps : List ListItem) (i : Nat)
  | answered (reply : Reply)

structure State where
  main : Main
  app : App
  shared : Shared
  workers : List Worker
  /-- The workers of the applications before. -/
  past : List Worker

/-- A request comes in. -/
def init (req : BootstrapRequest) : State where
  main :=
    match refusal req with
    | some e => .answered (.badRequest e)
    | none => .preparing (prepare req)
  app := ⟨"", "", [], []⟩
  shared := ⟨none, none, 0⟩
  workers := []
  past := []

inductive Label
  /-- The goroutine of the handler goes on, with these answers to its calls. -/
  | main (x : (c : Call) → c.Answer)
  /-- The `k`-th worker goes on. -/
  | worker (k : Nat) (x : (c : Call) → c.Answer)

/-- To the `i`-th application, or to the answer. -/
def nextApp (req : BootstrapRequest) (prepared : Prepared) (apps : List ListItem) (i : Nat)
    (s : State) : State :=
  if (i : Int) ≤ req.appCount then { s with main := .opening prepared apps i (openApp req prepared i) }
  else
    let profiles := prepared.dpIDs.mapIdx fun k id => (⟨id, dpName req (k + 1)⟩ : ListItem)
    { s with main := .answered (.created
        ⟨prepared.tenantID, req.orgName, profiles, apps, s.shared.createdDevicesCount⟩) }

/-- The goroutine of the handler. -/
def mainStep (req : BootstrapRequest) (x : (c : Call) → c.Answer) (s : State) : Option State :=
  match s.main with
  | .preparing (.done (.error e)) => some { s with main := .answered (.badGateway e) }
  | .preparing (.done (.ok prepared)) => some (nextApp req prepared [] 1 s)
  | .preparing p => some { s with main := .preparing (p.resume x) }
  | .opening _ _ _ (.done (.error e)) => some { s with main := .answered (.badGateway e) }
  | .opening prepared apps i (.done (.ok (app, err))) => some { s with
      main := .launching prepared (apps ++ [⟨app.appID, app.appName⟩]) i 1
      app := app
      shared := { s.shared with err := err, bootstrapErr := none } }
  | .opening prepared apps i p => some { s with main := .opening prepared apps i (p.resume x) }
  | .launching prepared apps i j =>
    if (j : Int) ≤ req.devCount then
      if s.shared.bootstrapErr.isSome then some { s with main := .waiting prepared apps i }
      else some { s with
        main := .launching prepared apps i (j + 1)
        workers := s.workers ++ [⟨j, .queued, "", "", none, none, false⟩] }
    else some { s with main := .waiting prepared apps i }
  | .waiting prepared apps i =>
    if s.workers.all fun w => w.pc = .counted ∨ w.pc = .returned then
      match s.shared.bootstrapErr with
      | some e => some { s with main := .answered (.badGateway e) }
      | none =>
        some (nextApp req prepared apps (i + 1)
          { s with past := s.past ++ s.workers, workers := [] })
    else none
  | .answered _ => none

def step (req : BootstrapRequest) (s : State) : Label → Option State
  | .main x => mainStep req x s
  | .worker k x =>
    match s.workers[k]? with
    | none => none
    | some w =>
      if w.pc = .queued ∧ 10 ≤ s.workers.countP (·.inside) then none
      else
        match w.step req s.app x s.shared with
        | none => none
        | some (shared, w) => some { s with shared, workers := s.workers.set k w }

/-! ### What a step can do -/

/-- The steps of the handler. -/
inductive MainStep (req : BootstrapRequest) (x : (c : Call) → c.Answer) (s : State) : State → Prop
  | unprepared {e : String} (hpc : s.main = .preparing (.done (.error e))) :
    MainStep req x s { s with main := .answered (.badGateway e) }
  | prepared {prepared : Prepared} (hpc : s.main = .preparing (.done (.ok prepared))) :
    MainStep req x s (nextApp req prepared [] 1 s)
  | prepares {p : Action (Except String Prepared)} {c : Call} (hpc : s.main = .preparing p)
    (hcall : p.next = some c) : MainStep req x s { s with main := .preparing (p.resume x) }
  | unopened {prepared : Prepared} {apps : List ListItem} {i : Nat} {e : String}
    (hpc : s.main = .opening prepared apps i (.done (.error e))) :
    MainStep req x s { s with main := .answered (.badGateway e) }
  /-- The loop over the devices begins. -/
  | opened {prepared : Prepared} {apps : List ListItem} {i : Nat} {app : App} {err : Option RPCError}
    (hpc : s.main = .opening prepared apps i (.done (.ok (app, err)))) :
    MainStep req x s { s with
      main := .launching prepared (apps ++ [⟨app.appID, app.appName⟩]) i 1
      app := app
      shared := { s.shared with err := err, bootstrapErr := none } }
  | opens {prepared : Prepared} {apps : List ListItem} {i : Nat}
    {p : Action (Except String (App × Option RPCError))} {c : Call}
    (hpc : s.main = .opening prepared apps i p) (hcall : p.next = some c) :
    MainStep req x s { s with main := .opening prepared apps i (p.resume x) }
  /-- A worker has failed before all were launched. -/
  | stops {prepared : Prepared} {apps : List ListItem} {i j : Nat}
    (hpc : s.main = .launching prepared apps i j) (hle : (j : Int) ≤ req.devCount)
    (herr : s.shared.bootstrapErr.isSome) :
    MainStep req x s { s with main := .waiting prepared apps i }
  | launches {prepared : Prepared} {apps : List ListItem} {i j : Nat}
    (hpc : s.main = .launching prepared apps i j) (hle : (j : Int) ≤ req.devCount)
    (herr : ¬ s.shared.bootstrapErr.isSome) :
    MainStep req x s { s with
      main := .launching prepared apps i (j + 1)
      workers := s.workers ++ [⟨j, .queued, "", "", none, none, false⟩] }
  | launched {prepared : Prepared} {apps : List ListItem} {i j : Nat}
    (hpc : s.main = .launching prepared apps i j) (hgt : ¬ (j : Int) ≤ req.devCount) :
    MainStep req x s { s with main := .waiting prepared apps i }
  | fails {prepared : Prepared} {apps : List ListItem} {i : Nat} {e : String}
    (hpc : s.main = .waiting prepared apps i)
    (hfinished : ∀ w ∈ s.workers, w.pc = .counted ∨ w.pc = .returned)
    (herr : s.shared.bootstrapErr = some e) :
    MainStep req x s { s with main := .answered (.badGateway e) }
  /-- The devices of an application are there. -/
  | finishes {prepared : Prepared} {apps : List ListItem} {i : Nat}
    (hpc : s.main = .waiting prepared apps i)
    (hfinished : ∀ w ∈ s.workers, w.pc = .counted ∨ w.pc = .returned)
    (herr : s.shared.bootstrapErr = none) :
    MainStep req x s (nextApp req prepared apps (i + 1)
      { s with past := s.past ++ s.workers, workers := [] })

/-- **The handler takes no other step.** -/
theorem mainStep_cases {req : BootstrapRequest} {x : (c : Call) → c.Answer} {s t : State}
    (h : mainStep req x s = some t) : MainStep req x s t := by
  unfold mainStep at h
  split at h
  · next hpc =>
    cases h
    exact .unprepared hpc
  · next hpc =>
    cases h
    exact .prepared hpc
  · next p herror hdone hpc =>
    cases h
    cases p with
    | call c k => exact .prepares hpc rfl
    | done r =>
      cases r with
      | error e => exact absurd rfl (herror e)
      | ok prepared => exact absurd rfl (hdone prepared)
  · next hpc =>
    cases h
    exact .unopened hpc
  · next hpc =>
    cases h
    exact .opened hpc
  · next p herror hdone hpc =>
    cases h
    cases p with
    | call c k => exact .opens hpc rfl
    | done r =>
      cases r with
      | error e => exact absurd rfl (herror e)
      | ok r => exact absurd rfl (hdone r.1 r.2)
  · next hpc =>
    split at h
    · next hle =>
      split at h
      · next herr =>
        cases h
        exact .stops hpc hle herr
      · next herr =>
        cases h
        exact .launches hpc hle herr
    · next hgt =>
      cases h
      exact .launched hpc hgt
  · next hpc =>
    split at h
    · next hall =>
      have hfinished : ∀ w ∈ s.workers, w.pc = .counted ∨ w.pc = .returned :=
        fun w hw => of_decide_eq_true (List.all_eq_true.mp hall w hw)
      split at h
      · next herr =>
        cases h
        exact .fails hpc hfinished herr
      · next herr =>
        cases h
        exact .finishes hpc hfinished herr
    · cases h
  · cases h

/-- A worker that goes on has a place, or gets one, and changes itself and what is shared. -/
theorem step_worker {req : BootstrapRequest} {x : (c : Call) → c.Answer} {s t : State} {k : Nat}
    (h : step req s (.worker k x) = some t) : ∃ w shared w', s.workers[k]? = some w ∧
      ¬ (w.pc = .queued ∧ 10 ≤ s.workers.countP (·.inside)) ∧
      w.step req s.app x s.shared = some (shared, w') ∧
      t = { s with shared, workers := s.workers.set k w' } := by
  simp only [step] at h
  split at h
  · cases h
  · next w hk =>
    split at h
    · cases h
    · next hplace =>
      split at h
      · cases h
      · next shared w' hw =>
        exact ⟨w, shared, w', hk, hplace, hw, (Option.some.inj h).symm⟩

/-- The steps of a worker, each from one place to the next. -/
inductive WorkerStep (req : BootstrapRequest) (app : App) (x : (c : Call) → c.Answer)
    (s : Shared) : Worker → Shared → Worker → Prop
  | enters (w : Worker) :
    WorkerStep req app x s { w with pc := .queued } s { w with pc := .entered }
  | stops (w : Worker) (herr : s.bootstrapErr.isSome) :
    WorkerStep req app x s { w with pc := .entered } s { w with pc := .returned }
  /-- The device is not listed. -/
  | begins (w : Worker) (hfound : findEUI app.existingDevices (devName req app.appName w.j) = "") :
    WorkerStep req app x s { w with pc := .entered } s
      { w with devEUI := findEUI app.existingDevices (devName req app.appName w.j), pc := .randEUI }
  | finds (w : Worker) (hfound : findEUI app.existingDevices (devName req app.appName w.j) ≠ "") :
    WorkerStep req app x s { w with pc := .entered } s
      { w with devEUI := findEUI app.existingDevices (devName req app.appName w.j), pc := .randKey }
  | noEUI (w : Worker) {e : String} (message : String) (he : x (.randRead 8) = .error e) :
    WorkerStep req app x s { w with pc := .randEUI } (s.once message) { w with pc := .returned }
  | drawsEUI (w : Worker) {bytes : Vector UInt8 8} (hbytes : x (.randRead 8) = .ok bytes) :
    WorkerStep req app x s { w with pc := .randEUI } s
      { w with devEUI := Hex.encode bytes.toList, pc := .randKey }
  | noKey (w : Worker) {e : String} (message : String) (he : x (.randRead 16) = .error e) :
    WorkerStep req app x s { w with pc := .randKey } (s.once message) { w with pc := .returned }
  /-- The device is there already, and only gets new keys. -/
  | drawsKey (w : Worker) {bytes : Vector UInt8 16} (hbytes : x (.randRead 16) = .ok bytes)
    (hfound : app.existingDevices.any fun dev => dev.name = devName req app.appName w.j) :
    WorkerStep req app x s { w with pc := .randKey } s
      { w with appKey := Hex.encode bytes.toList, pc := .deletingKeys }
  | drawsKeyOfNew (w : Worker) {bytes : Vector UInt8 16} (hbytes : x (.randRead 16) = .ok bytes)
    (hfound : ¬ app.existingDevices.any fun dev => dev.name = devName req app.appName w.j) :
    WorkerStep req app x s { w with pc := .randKey } s
      { w with appKey := Hex.encode bytes.toList, pc := .creating }
  | creates (w : Worker) {err : Option RPCError}
    (herr : err = x (.rpc (.createDevice ⟨w.devEUI, devName req app.appName w.j,
      devName req app.appName w.j ++ " cihazı", app.appID,
      (devSettings req app.dpIDs w.j).1, false⟩))) :
    WorkerStep req app x s { w with pc := .creating } { s with err }
      { w with create := some err, pc := .created }
  | createFailed (w : Worker) (herr : s.err.isSome) :
    WorkerStep req app x s { w with pc := .created } s { w with pc := .reportCreate }
  | createPassed (w : Worker) (herr : s.err = none) :
    WorkerStep req app x s { w with pc := .created } s
      { w with pc := .deletingKeys, lost := w.lost || failed w.create }
  | createReported (w : Worker) (message : String) :
    WorkerStep req app x s { w with pc := .reportCreate } (s.once message)
      { w with pc := .returned }
  | deletesKeys (w : Worker) :
    WorkerStep req app x s { w with pc := .deletingKeys } s { w with pc := .creatingKeys }
  | createsKeys (w : Worker) {err : Option RPCError}
    (herr : err = x (.rpc (.createKeys ⟨w.devEUI, w.appKey, ""⟩))) :
    WorkerStep req app x s { w with pc := .creatingKeys } { s with err }
      { w with keys := some err, pc := .keysCreated }
  | keysFailed (w : Worker) (herr : s.err.isSome) :
    WorkerStep req app x s { w with pc := .keysCreated } s { w with pc := .reportKeys }
  | keysPassed (w : Worker) (herr : s.err = none) :
    WorkerStep req app x s { w with pc := .keysCreated } s
      { w with pc := .saving, lost := w.lost || failed w.keys }
  | keysReported (w : Worker) (message : String) :
    WorkerStep req app x s { w with pc := .reportKeys } (s.once message) { w with pc := .returned }
  | saves (w : Worker) :
    WorkerStep req app x s { w with pc := .saving } s { w with pc := .counting }
  | counts (w : Worker) :
    WorkerStep req app x s { w with pc := .counting }
      { s with createdDevicesCount := s.createdDevicesCount + 1 } { w with pc := .counted }

/-- **A worker takes no other step.** -/
theorem workerStep_cases {req : BootstrapRequest} {app : App} {x : (c : Call) → c.Answer}
    {s s' : Shared} {w w' : Worker} (h : w.step req app x s = some (s', w')) :
    WorkerStep req app x s w s' w' := by
  obtain ⟨j, pc, devEUI, appKey, create, keys, lost⟩ := w
  cases pc with
  | queued =>
    cases h
    exact .enters ⟨j, .queued, devEUI, appKey, create, keys, lost⟩
  | entered =>
    simp only [Worker.step] at h
    split at h
    · next herr =>
      cases h
      exact .stops ⟨j, .queued, devEUI, appKey, create, keys, lost⟩ herr
    · cases h
      split
      · next hfound => exact .begins ⟨j, .queued, devEUI, appKey, create, keys, lost⟩ hfound
      · next hfound => exact .finds ⟨j, .queued, devEUI, appKey, create, keys, lost⟩ hfound
  | randEUI =>
    simp only [Worker.step] at h
    split at h
    · next he =>
      cases h
      exact .noEUI ⟨j, .queued, devEUI, appKey, create, keys, lost⟩ _ he
    · next hbytes =>
      cases h
      exact .drawsEUI ⟨j, .queued, devEUI, appKey, create, keys, lost⟩ hbytes
  | randKey =>
    simp only [Worker.step] at h
    split at h
    · next he =>
      cases h
      exact .noKey ⟨j, .queued, devEUI, appKey, create, keys, lost⟩ _ he
    · next hbytes =>
      cases h
      split
      · next hfound =>
        exact .drawsKey ⟨j, .queued, devEUI, appKey, create, keys, lost⟩ hbytes hfound
      · next hfound =>
        exact .drawsKeyOfNew ⟨j, .queued, devEUI, appKey, create, keys, lost⟩ hbytes hfound
  | creating =>
    cases h
    exact .creates ⟨j, .queued, devEUI, appKey, create, keys, lost⟩ rfl
  | created =>
    simp only [Worker.step] at h
    split at h
    · next herr =>
      cases h
      exact .createFailed ⟨j, .queued, devEUI, appKey, create, keys, lost⟩ herr
    · next herr =>
      cases h
      exact .createPassed ⟨j, .queued, devEUI, appKey, create, keys, lost⟩
        (Option.not_isSome_iff_eq_none.mp herr)
  | reportCreate =>
    cases h
    exact .createReported ⟨j, .queued, devEUI, appKey, create, keys, lost⟩ _
  | deletingKeys =>
    cases h
    exact .deletesKeys ⟨j, .queued, devEUI, appKey, create, keys, lost⟩
  | creatingKeys =>
    cases h
    exact .createsKeys ⟨j, .queued, devEUI, appKey, create, keys, lost⟩ rfl
  | keysCreated =>
    simp only [Worker.step] at h
    split at h
    · next herr =>
      cases h
      exact .keysFailed ⟨j, .queued, devEUI, appKey, create, keys, lost⟩ herr
    · next herr =>
      cases h
      exact .keysPassed ⟨j, .queued, devEUI, appKey, create, keys, lost⟩
        (Option.not_isSome_iff_eq_none.mp herr)
  | reportKeys =>
    cases h
    exact .keysReported ⟨j, .queued, devEUI, appKey, create, keys, lost⟩ _
  | saving =>
    cases h
    exact .saves ⟨j, .queued, devEUI, appKey, create, keys, lost⟩
  | counting =>
    cases h
    exact .counts ⟨j, .queued, devEUI, appKey, create, keys, lost⟩
  | counted => cases h
  | returned => cases h

/-! ## What a worker knows -/

/-- Its calls have succeeded: that of `Device.Create`, if it was made, and that of `CreateKeys`. -/
def Worker.Succeeded (w : Worker) : Prop :=
  (w.create = none ∨ w.create = some none) ∧ w.keys = some none

/-- Where it stands says which calls it has made; a failure that it has passed is lost. -/
def Worker.Ok (w : Worker) : Prop :=
  match w.pc with
  | .queued | .entered | .randEUI | .randKey | .creating =>
    w.create = none ∧ w.keys = none ∧ w.lost = false
  | .created => w.keys = none ∧ w.lost = false
  | .deletingKeys | .creatingKeys => w.keys = none ∧ w.lost = failed w.create
  | .keysCreated => w.keys.isSome ∧ w.lost = failed w.create
  | .saving | .counting | .counted => w.keys.isSome ∧ w.lost = (failed w.create || failed w.keys)
  | .reportCreate | .reportKeys | .returned => True

/-- A worker that was counted has lost no failure exactly if it had none. -/
theorem Worker.Ok.lost_iff {w : Worker} (h : w.Ok) (hpc : w.pc = .counted) :
    w.lost = false ↔ w.Succeeded := by
  unfold Worker.Ok at h
  rw [hpc] at h
  obtain ⟨hkeys, hlost⟩ := h
  rw [hlost, Bool.or_eq_false_iff]
  unfold Worker.Succeeded failed
  obtain ⟨r, hr⟩ := Option.isSome_iff_exists.mp hkeys
  rw [hr]
  constructor
  · rintro ⟨hcreate, hr⟩
    refine ⟨?_, ?_⟩
    · cases hc : w.create with
      | none => exact Or.inl rfl
      | some r' =>
        rw [hc] at hcreate
        exact Or.inr (congrArg some (Option.not_isSome_iff_eq_none.mp (by simpa using hcreate)))
    · exact congrArg some (Option.not_isSome_iff_eq_none.mp (by simpa using hr))
  · rintro ⟨hcreate, hr⟩
    refine ⟨?_, ?_⟩
    · rcases hcreate with hc | hc
      · rw [hc]
        rfl
      · rw [hc]
        rfl
    · rw [hr]
      rfl

/-- What one step of a worker does. -/
structure Went (s : Shared) (w : Worker) (s' : Shared) (w' : Worker) : Prop where
  ok : w'.Ok
  /-- A failure is lost when it is tested with `err` empty. -/
  lost : w'.lost = false ↔ w.lost = false ∧ (w.failing → s.err.isSome)
  notCounted : w.pc ≠ .counted
  count : s'.createdDevicesCount = s.createdDevicesCount + if w'.pc = .counted then 1 else 0
  kept : s.bootstrapErr.isSome → s'.bootstrapErr.isSome
  /-- It returns only after an error. -/
  returned : w'.pc = .returned → s'.bootstrapErr.isSome

theorem Shared.once_isSome (s : Shared) (message : String) :
    (s.once message).bootstrapErr.isSome := by
  unfold Shared.once
  split
  · next h => exact h
  · rfl

theorem Shared.once_count (s : Shared) (message : String) :
    (s.once message).createdDevicesCount = s.createdDevicesCount := by
  unfold Shared.once
  split <;> rfl

/-- A step that is none of a test only moves the worker. -/
theorem Went.of_move {s s' : Shared} {w w' : Worker} (hok : w'.Ok) (hlost : w'.lost = w.lost)
    (hfailing : w.failing = false) (hpc : w.pc ≠ .counted) (hpc' : w'.pc ≠ .counted)
    (hcount : s'.createdDevicesCount = s.createdDevicesCount)
    (hkept : s.bootstrapErr.isSome → s'.bootstrapErr.isSome)
    (hreturned : w'.pc = .returned → s'.bootstrapErr.isSome) : Went s w s' w' where
  ok := hok
  lost := by rw [hlost, hfailing]; simp
  notCounted := hpc
  count := by rw [hcount, if_neg hpc']; rfl
  kept := hkept
  returned := hreturned

/-- A worker that reports an error returns. -/
theorem Went.of_report {s : Shared} (w : Worker) (message : String) (hfailing : w.failing = false)
    (hpc : w.pc ≠ .counted) : Went s w (s.once message) { w with pc := .returned } :=
  Went.of_move trivial rfl hfailing hpc Pc.noConfusion (s.once_count message)
    (fun _ => s.once_isSome message) (fun _ => s.once_isSome message)

/-- **One step of a worker.** -/
theorem went_step {req : BootstrapRequest} {app : App} {x : (c : Call) → c.Answer} {s s' : Shared}
    {w w' : Worker} (hok : w.Ok) (h : w.step req app x s = some (s', w')) : Went s w s' w' := by
  cases workerStep_cases h with
  | enters w =>
    exact Went.of_move hok rfl rfl Pc.noConfusion Pc.noConfusion rfl id Pc.noConfusion
  | stops w herr =>
    exact Went.of_move trivial rfl rfl Pc.noConfusion Pc.noConfusion rfl id (fun _ => herr)
  | begins w => exact Went.of_move hok rfl rfl Pc.noConfusion Pc.noConfusion rfl id Pc.noConfusion
  | finds w => exact Went.of_move hok rfl rfl Pc.noConfusion Pc.noConfusion rfl id Pc.noConfusion
  | noEUI w => exact Went.of_report { w with pc := .randEUI } _ rfl Pc.noConfusion
  | drawsEUI w => exact Went.of_move hok rfl rfl Pc.noConfusion Pc.noConfusion rfl id Pc.noConfusion
  | noKey w => exact Went.of_report { w with pc := .randKey } _ rfl Pc.noConfusion
  | drawsKey w =>
    obtain ⟨hcreate, hkeys, hlost⟩ := hok
    refine Went.of_move ⟨hkeys, ?_⟩ rfl rfl Pc.noConfusion Pc.noConfusion rfl id Pc.noConfusion
    show w.lost = failed w.create
    rw [show w.lost = false from hlost, show w.create = none from hcreate]
    rfl
  | drawsKeyOfNew w =>
    exact Went.of_move hok rfl rfl Pc.noConfusion Pc.noConfusion rfl id Pc.noConfusion
  | creates w =>
    exact Went.of_move ⟨hok.2.1, hok.2.2⟩ rfl rfl Pc.noConfusion Pc.noConfusion rfl id
      Pc.noConfusion
  | createFailed w herr =>
    exact ⟨trivial, ⟨fun h => ⟨h, fun _ => herr⟩, fun h => h.1⟩, Pc.noConfusion, rfl, id,
      Pc.noConfusion⟩
  | createPassed w herr =>
    obtain ⟨hkeys, hlost⟩ := hok
    have hlost' : w.lost = false := hlost
    refine ⟨⟨hkeys, ?_⟩, ?_, Pc.noConfusion, rfl, id, Pc.noConfusion⟩
    · show (w.lost || failed w.create) = failed w.create
      rw [hlost', Bool.false_or]
    · show (w.lost || failed w.create) = false ↔
        w.lost = false ∧ (failed w.create = true → s.err.isSome)
      simp [herr]
  | createReported w => exact Went.of_report { w with pc := .reportCreate } _ rfl Pc.noConfusion
  | deletesKeys w =>
    exact Went.of_move hok rfl rfl Pc.noConfusion Pc.noConfusion rfl id Pc.noConfusion
  | createsKeys w =>
    exact Went.of_move ⟨rfl, hok.2⟩ rfl rfl Pc.noConfusion Pc.noConfusion rfl id Pc.noConfusion
  | keysFailed w herr =>
    exact ⟨trivial, ⟨fun h => ⟨h, fun _ => herr⟩, fun h => h.1⟩, Pc.noConfusion, rfl, id,
      Pc.noConfusion⟩
  | keysPassed w herr =>
    obtain ⟨hkeys, hlost⟩ := hok
    have hlost' : w.lost = failed w.create := hlost
    refine ⟨⟨hkeys, ?_⟩, ?_, Pc.noConfusion, rfl, id, Pc.noConfusion⟩
    · show (w.lost || failed w.keys) = (failed w.create || failed w.keys)
      rw [hlost']
    · show (w.lost || failed w.keys) = false ↔
        w.lost = false ∧ (failed w.keys = true → s.err.isSome)
      simp [herr]
  | keysReported w => exact Went.of_report { w with pc := .reportKeys } _ rfl Pc.noConfusion
  | saves w => exact Went.of_move hok rfl rfl Pc.noConfusion Pc.noConfusion rfl id Pc.noConfusion
  | counts w =>
    exact ⟨hok, ⟨fun h => ⟨h, Bool.noConfusion⟩, fun h => h.1⟩, Pc.noConfusion, rfl, id,
      Pc.noConfusion⟩

/-! ## The invariant -/

/-- The devices of an application. -/
def devices (req : BootstrapRequest) : Nat := req.devCount.toNat

/-- Where the handler stands says how many workers there are and were. -/
def MainOk (req : BootstrapRequest) (shared : Shared) (past workers : Nat) : Main → Prop
  | .preparing _ => workers = 0 ∧ past = 0
  | .opening _ _ i _ =>
    workers = 0 ∧ past + devices req = i * devices req ∧ (i : Int) ≤ req.appCount
  | .launching _ _ i j => past + devices req = i * devices req ∧ (i : Int) ≤ req.appCount ∧
      workers + 1 = j ∧ j ≤ devices req + 1
  | .waiting _ _ i => past + devices req = i * devices req ∧ (i : Int) ≤ req.appCount ∧
      (shared.bootstrapErr = none → workers = devices req)
  | .answered (.created body) => body.devicesCount = shared.createdDevicesCount ∧ workers = 0 ∧
      (past : Int) = req.appCount * req.devCount
  | .answered _ => True

/-- Workers may report errors, and be counted, where there are some. -/
theorem MainOk.of_shared {req : BootstrapRequest} {shared shared' : Shared} {past workers : Nat}
    {main : Main} (h : MainOk req shared past workers main) (hworkers : workers ≠ 0)
    (herr : shared'.bootstrapErr = none → shared.bootstrapErr = none) :
    MainOk req shared' past workers main := by
  cases main with
  | preparing p => exact h
  | opening prepared apps i p => exact h
  | launching prepared apps i j => exact h
  | waiting prepared apps i => exact ⟨h.1, h.2.1, fun hnone => h.2.2 (herr hnone)⟩
  | answered reply =>
    cases reply with
    | badRequest e => trivial
    | badGateway e => trivial
    | created body => exact absurd h.2.1 hworkers

/-- What is true of the workers and of what they share. -/
structure Tallied (s : State) : Prop where
  ok : ∀ w ∈ s.past ++ s.workers, w.Ok
  past : ∀ w ∈ s.past, w.pc = .counted
  count : s.shared.createdDevicesCount = (s.past ++ s.workers).countP (·.pc = .counted)
  returned : s.shared.bootstrapErr = none → ∀ w ∈ s.workers, w.pc ≠ .returned

structure Sound (req : BootstrapRequest) (s : State) : Prop extends Tallied s where
  main : MainOk req s.shared s.past.length s.workers.length s.main
  accepted : (∃ e, s.main = .answered (.badRequest e)) ∨ (1 ≤ req.appCount ∧ 1 ≤ req.devCount)

theorem counts_of_accepted {req : BootstrapRequest} (h : refusal req = none) :
    1 ≤ req.appCount ∧ 1 ≤ req.devCount := by
  unfold refusal at h
  split at h
  · cases h
  · split at h
    · cases h
    · next happ =>
      split at h
      · cases h
      · split at h
        · cases h
        · next hdev =>
          push Not at happ hdev
          exact ⟨happ.1, hdev.1⟩

theorem sound_init (req : BootstrapRequest) : Sound req (init req) := by
  unfold init
  split
  · next e h =>
    exact ⟨⟨by simp, by simp, rfl, by simp⟩, trivial, Or.inl ⟨e, rfl⟩⟩
  · next h =>
    exact ⟨⟨by simp, by simp, rfl, by simp⟩, ⟨rfl, rfl⟩, Or.inr (counts_of_accepted h)⟩

section Steps

variable {req : BootstrapRequest} {s t : State}

/-- A worker takes a step. -/
theorem sound_worker (hs : Sound req s) {k : Nat} {w w' : Worker} {shared : Shared}
    (hk : s.workers[k]? = some w) (hwent : Went s.shared w shared w') :
    Sound req { s with shared, workers := s.workers.set k w' } := by
  have herr : shared.bootstrapErr = none → s.shared.bootstrapErr = none := by
    intro hnone
    by_contra hsome
    have hkept := hwent.kept (Option.isSome_iff_ne_none.mpr hsome)
    rw [hnone] at hkept
    cases hkept
  refine ⟨⟨?_, hs.past, ?_, ?_⟩, ?_, hs.accepted⟩
  · intro v hv
    rcases List.mem_append.mp hv with hv | hv
    · exact hs.ok v (List.mem_append_left _ hv)
    · rcases List.mem_or_eq_of_mem_set hv with hv | rfl
      · exact hs.ok v (List.mem_append_right _ hv)
      · exact hwent.ok
  · have hset := Tally.countP_set_add (fun w : Worker => decide (w.pc = .counted)) w' hk
    have hcount := hs.count
    show shared.createdDevicesCount =
      (s.past ++ s.workers.set k w').countP fun w => decide (w.pc = .counted)
    rw [hwent.count, hcount, List.countP_append, List.countP_append]
    have hpc := hwent.notCounted
    simp only [hpc, decide_false, Bool.false_eq_true, if_false, decide_eq_true_eq] at hset
    omega
  · intro hnone v hv
    rcases List.mem_or_eq_of_mem_set hv with hv | rfl
    · exact hs.returned (herr hnone) v hv
    · intro hpc
      have hsome := hwent.returned hpc
      rw [show shared.bootstrapErr = none from hnone] at hsome
      cases hsome
  · have hne : s.workers.length ≠ 0 := by
      have hlt := (List.getElem?_eq_some_iff.mp hk).1
      omega
    show MainOk req shared s.past.length (s.workers.set k w').length s.main
    rw [List.length_set]
    exact hs.main.of_shared hne herr

/-- The next application, or the answer. -/
theorem sound_nextApp {prepared : Prepared} {apps : List ListItem} {i : Nat} (hs : Tallied s)
    (hworkers : s.workers = []) (hpast : s.past.length + devices req = i * devices req)
    (hi : (i : Int) ≤ req.appCount + 1)
    (haccepted : 1 ≤ req.appCount ∧ 1 ≤ req.devCount) :
    Sound req (nextApp req prepared apps i s) := by
  unfold nextApp
  split
  · next hle =>
    exact ⟨⟨hs.ok, hs.past, hs.count, hs.returned⟩, ⟨by rw [hworkers]; rfl, hpast, hle⟩,
      Or.inr haccepted⟩
  · next hgt =>
    refine ⟨⟨hs.ok, hs.past, hs.count, hs.returned⟩, ⟨rfl, by rw [hworkers]; rfl, ?_⟩,
      Or.inr haccepted⟩
    have hlast : (i : Int) = req.appCount + 1 := by omega
    have hdevices : (devices req : Int) = req.devCount := Int.toNat_of_nonneg (by omega)
    have hpast' : (s.past.length : Int) + devices req = i * devices req := by exact_mod_cast hpast
    show (s.past.length : Int) = req.appCount * req.devCount
    rw [hlast, hdevices] at hpast'
    linarith

/-- A worker is launched. -/
theorem sound_launches {prepared : Prepared} {apps : List ListItem} {i j : Nat} (hs : Sound req s)
    (hpc : s.main = .launching prepared apps i j) (hle : (j : Int) ≤ req.devCount)
    (haccepted : 1 ≤ req.appCount ∧ 1 ≤ req.devCount) :
    Sound req { s with
      main := .launching prepared apps i (j + 1)
      workers := s.workers ++ [⟨j, .queued, "", "", none, none, false⟩] } := by
  have hmain := hs.main
  rw [hpc] at hmain
  obtain ⟨hpast, hi, hj, -⟩ := hmain
  have hdevices : (devices req : Int) = req.devCount := Int.toNat_of_nonneg (by omega)
  have hok : ∀ w ∈ s.past ++ (s.workers ++ [⟨j, .queued, "", "", none, none, false⟩]), w.Ok := by
    intro w hw
    rw [← List.append_assoc] at hw
    rcases List.mem_append.mp hw with hw | hw
    · exact hs.ok w hw
    · rw [List.mem_singleton.mp hw]
      exact ⟨rfl, rfl, rfl⟩
  refine ⟨⟨hok, hs.past, ?_, ?_⟩, ⟨hpast, hi, ?_, ?_⟩, Or.inr haccepted⟩
  · show s.shared.createdDevicesCount = (s.past ++ (s.workers ++ [_])).countP _
    rw [← List.append_assoc, List.countP_append, hs.count]
    rfl
  · intro hnone w hw
    rcases List.mem_append.mp hw with hw | hw
    · exact hs.returned hnone w hw
    · rw [List.mem_singleton.mp hw]
      exact Pc.noConfusion
  · show (s.workers ++ [_]).length + 1 = j + 1
    rw [List.length_append, List.length_singleton]
    omega
  · omega

/-- The workers of an application that has finished without an error were all counted. -/
theorem Tallied.finish (hs : Tallied s)
    (hfinished : ∀ w ∈ s.workers, w.pc = .counted ∨ w.pc = .returned)
    (hnone : s.shared.bootstrapErr = none) :
    Tallied { s with past := s.past ++ s.workers, workers := [] } where
  ok := by
    intro w hw
    rw [List.append_nil] at hw
    exact hs.ok w hw
  past := by
    intro w hw
    rcases List.mem_append.mp hw with hw | hw
    · exact hs.past w hw
    · exact (hfinished w hw).resolve_right (hs.returned hnone w hw)
  count := by
    rw [List.append_nil]
    exact hs.count
  returned := by
    intro _ w hw
    cases hw

/-- The handler goes on only with a request that it has not refused. -/
theorem Sound.counts {x : (c : Call) → c.Answer} (hs : Sound req s)
    (hstep : mainStep req x s = some t) : 1 ≤ req.appCount ∧ 1 ≤ req.devCount := by
  rcases hs.accepted with ⟨e, he⟩ | hcounts
  · rw [mainStep, he] at hstep
    cases hstep
  · exact hcounts

/-- The goroutine of the handler takes a step. -/
theorem sound_mainStep {x : (c : Call) → c.Answer} (hs : Sound req s)
    (hstep : mainStep req x s = some t) : Sound req t := by
  have hmain := hs.main
  have hcounts := hs.counts hstep
  cases mainStep_cases hstep with
  | unprepared hpc =>
    exact ⟨⟨hs.ok, hs.past, hs.count, hs.returned⟩, trivial, Or.inr hcounts⟩
  | prepared hpc =>
    rw [hpc] at hmain
    refine sound_nextApp hs.toTallied (List.length_eq_zero_iff.mp hmain.1) ?_ ?_ hcounts
    · rw [hmain.2, Nat.one_mul, Nat.zero_add]
    · have := hcounts.1
      omega
  | prepares hpc hcall =>
    rw [hpc] at hmain
    exact ⟨⟨hs.ok, hs.past, hs.count, hs.returned⟩, hmain, Or.inr hcounts⟩
  | unopened hpc =>
    exact ⟨⟨hs.ok, hs.past, hs.count, hs.returned⟩, trivial, Or.inr hcounts⟩
  | opened hpc =>
    rw [hpc] at hmain
    obtain ⟨hworkers, hpast, hi⟩ := hmain
    refine ⟨⟨hs.ok, hs.past, hs.count, ?_⟩, ⟨hpast, hi, ?_, ?_⟩, Or.inr hcounts⟩
    · intro _ w hw
      rw [show s.workers = [] from List.length_eq_zero_iff.mp hworkers] at hw
      cases hw
    · rw [hworkers]
    · omega
  | opens hpc hcall =>
    rw [hpc] at hmain
    exact ⟨⟨hs.ok, hs.past, hs.count, hs.returned⟩, hmain, Or.inr hcounts⟩
  | stops hpc hle herr =>
    rw [hpc] at hmain
    obtain ⟨hpast, hi, -, -⟩ := hmain
    refine ⟨⟨hs.ok, hs.past, hs.count, hs.returned⟩, ⟨hpast, hi, fun hnone => ?_⟩, Or.inr hcounts⟩
    rw [show s.shared.bootstrapErr = none from hnone] at herr
    cases herr
  | launches hpc hle herr =>
    exact sound_launches hs hpc hle hcounts
  | launched hpc hgt =>
    rw [hpc] at hmain
    obtain ⟨hpast, hi, hj, hle⟩ := hmain
    have hdevices : (devices req : Int) = req.devCount := Int.toNat_of_nonneg (by omega)
    have hlength : s.workers.length = devices req := by omega
    exact ⟨⟨hs.ok, hs.past, hs.count, hs.returned⟩, ⟨hpast, hi, fun _ => hlength⟩, Or.inr hcounts⟩
  | fails hpc hfinished herr =>
    exact ⟨⟨hs.ok, hs.past, hs.count, hs.returned⟩, trivial, Or.inr hcounts⟩
  | @finishes prepared apps i hpc hfinished herr =>
    rw [hpc] at hmain
    obtain ⟨hpast, hi, hall⟩ := hmain
    refine sound_nextApp (hs.toTallied.finish hfinished herr) rfl ?_ ?_ hcounts
    · show (s.past ++ s.workers).length + devices req = (i + 1) * devices req
      rw [List.length_append, hall herr, Nat.add_mul, Nat.one_mul, ← hpast]
    · push_cast
      omega

theorem sound_step {a : Label} (hs : Sound req s) (hstep : step req s a = some t) : Sound req t := by
  cases a with
  | main x => exact sound_mainStep hs hstep
  | worker k x =>
    obtain ⟨w, shared, w', hk, -, hw, rfl⟩ := step_worker hstep
    have hok : w.Ok := hs.ok w (List.mem_append_right _ (List.mem_of_getElem? hk))
    exact sound_worker hs hk (went_step hok hw)

/-! ## Lost failures -/

/-- The workers that have lost a failure. -/
def State.lost (s : State) : Nat := (s.past ++ s.workers).countP (·.lost)

/-- A worker does not find `err` empty after a failure of its own. -/
def Clean (s : State) : Label → Prop
  | .worker k _ => ∀ w ∈ s.workers[k]?, w.failing → s.shared.err.isSome
  | .main _ => True

/-- The handler loses nothing. -/
theorem lost_mainStep {x : (c : Call) → c.Answer} (hstep : mainStep req x s = some t) :
    t.lost = s.lost := by
  have hnext : ∀ {prepared : Prepared} {apps : List ListItem} {i : Nat} {s : State},
      (nextApp req prepared apps i s).lost = s.lost := by
    intro prepared apps i s
    unfold nextApp
    split <;> rfl
  cases mainStep_cases hstep with
  | prepared hpc => exact hnext
  | launches hpc hle herr =>
    show (s.past ++ (s.workers ++ [_])).countP _ = _
    rw [← List.append_assoc, List.countP_append]
    rfl
  | finishes hpc hfinished herr =>
    rw [hnext]
    show (s.past ++ s.workers ++ []).countP _ = _
    rw [List.append_nil]
    rfl
  | _ => rfl

/-- The step of a worker loses a failure exactly if it tests one with `err` empty. -/
theorem lost_worker {k : Nat} {w w' : Worker} {shared : Shared} (hk : s.workers[k]? = some w)
    (hwent : Went s.shared w shared w') :
    ({ s with shared, workers := s.workers.set k w' } : State).lost = 0 ↔
      s.lost = 0 ∧ (w.failing → s.shared.err.isSome) := by
  have hset := Tally.countP_set_add (·.lost) w' hk
  have hpos : w.lost = true → 0 < s.workers.countP (·.lost) := fun h =>
    List.countP_pos_iff.mpr ⟨w, List.mem_of_getElem? hk, h⟩
  have hlost := hwent.lost
  show (s.past ++ s.workers.set k w').countP (·.lost) = 0 ↔
    (s.past ++ s.workers).countP (·.lost) = 0 ∧ _
  rw [List.countP_append, List.countP_append]
  cases hw0 : w.lost with
  | true =>
    have hw1 : w'.lost = true := by
      rw [← Bool.not_eq_false, hlost, hw0]
      simp
    rw [hw0, hw1] at hset
    have hpos' := hpos hw0
    simp only [if_true] at hset
    constructor
    · intro h
      omega
    · intro h
      omega
  | false =>
    rw [hw0] at hset hlost
    simp only [Bool.false_eq_true, if_false] at hset
    constructor
    · intro h
      have hw1 : w'.lost = false := by
        cases hw1 : w'.lost with
        | false => rfl
        | true =>
          rw [hw1, if_pos rfl] at hset
          omega
      rw [hw1, if_neg Bool.false_ne_true] at hset
      exact ⟨by omega, (hlost.mp hw1).2⟩
    · rintro ⟨h, hG⟩
      rw [hlost.mpr ⟨rfl, hG⟩, if_neg Bool.false_ne_true] at hset
      omega

/-- **One step.**  Nothing is lost after it exactly if nothing was lost before and it is clean. -/
theorem lost_step {a : Label} (hs : Sound req s) (hstep : step req s a = some t) :
    t.lost = 0 ↔ s.lost = 0 ∧ Clean s a := by
  cases a with
  | main x =>
    rw [lost_mainStep hstep]
    exact ⟨fun h => ⟨h, trivial⟩, fun h => h.1⟩
  | worker k x =>
    obtain ⟨w, shared, w', hk, -, hw, rfl⟩ := step_worker hstep
    have hok : w.Ok := hs.ok w (List.mem_append_right _ (List.mem_of_getElem? hk))
    have hclean : Clean s (.worker k x) ↔ (w.failing → s.shared.err.isSome) := by
      constructor
      · exact fun h => h w hk
      · intro h v hv
        rw [hk] at hv
        cases hv
        exact h
    rw [hclean]
    exact lost_worker hk (went_step hok hw)

end Steps

/-- **Success is real.**  If the answer is 201, the devices of all applications are counted; and each
    of them has its calls succeeded, exactly if no worker of the run found `err` empty after a failure
    of its own. -/
theorem created_iff {req : BootstrapRequest} {labels : List Label} {t : State} {body : Created}
    (ht : exec (step req) (init req) labels = some t)
    (hcreated : t.main = .answered (.created body)) :
    (body.devicesCount : Int) = req.appCount * req.devCount ∧
      t.past.countP (·.pc = .counted) = body.devicesCount ∧
      ((∀ w ∈ t.past, w.pc = .counted → w.Succeeded) ↔
        Always (step req) Clean (init req) labels) := by
  have hsound : Sound req t :=
    exec_invariant (fun _ _ _ hs hstep => sound_step hs hstep) (sound_init req) ht
  have hinit : (init req).lost = 0 := rfl
  have hlost := exec_iff_always (P := fun s => s.lost = 0) (fun _ _ _ hs hstep => sound_step hs hstep)
    (fun _ _ _ hs hstep => lost_step hs hstep) (sound_init req) ht
  have hmain := hsound.main
  rw [hcreated] at hmain
  obtain ⟨hcount, hworkers, hpast⟩ := hmain
  have hnil : t.workers = [] := List.length_eq_zero_iff.mp hworkers
  have hall : t.past.countP (·.pc = .counted) = t.past.length :=
    List.countP_eq_length.mpr fun w hw => decide_eq_true (hsound.past w hw)
  have hdevices : body.devicesCount = t.past.length := by
    rw [hcount, hsound.count, hnil, List.append_nil, hall]
  refine ⟨by rw [hdevices, hpast], by rw [hdevices, hall], ?_⟩
  rw [and_iff_right hinit] at hlost
  rw [← hlost]
  show _ ↔ (t.past ++ t.workers).countP (·.lost) = 0
  rw [hnil, List.append_nil, List.countP_eq_zero]
  have hw : ∀ w ∈ t.past, ((w.pc = .counted → w.Succeeded) ↔ ¬ w.lost = true) := by
    intro w hw
    have hpc := hsound.past w hw
    rw [Bool.not_eq_true, (hsound.ok w (List.mem_append_left _ hw)).lost_iff hpc]
    exact ⟨fun h => h hpc, fun h _ => h⟩
  exact forall₂_congr hw

/-- A ChirpStack that has nothing and creates everything, but for the devices. -/
def creating (create : Option RPCError) : (r : RPC) → r.Answer
  | .createTenant _ => .ok "t"
  | .createDeviceProfile _ => .ok "p"
  | .createApplication _ => .ok "a"
  | .createDevice _ => create
  | .createKeys _ => none
  | r => r.unavailable

/-- One profile and one application, with so many devices. -/
def oneApp (devCount : Int) : BootstrapRequest := ⟨"Org", "app", 1, "dp", 1, "dev", devCount, [], ""⟩

/-- The handler goes on for `n` steps. -/
def mainGoes (n : Nat) : List Label := List.replicate n (.main (Call.answer (creating none)))

/-- The `k`-th worker goes on for `n` steps; `create` is what its `Device.Create` returns. -/
def workerGoes (k n : Nat) (create : Option RPCError) : List Label :=
  List.replicate n (.worker k (Call.answer (creating create)))

/-- A worker whose device was counted, with the zeros of the random source. -/
def done (j : Nat) (create : Option RPCError) (lost : Bool) : Worker :=
  ⟨j, .counted, Hex.encode (Vector.replicate 8 0).toList, Hex.encode (Vector.replicate 16 0).toList,
    some create, some none, lost⟩

/-- The answer 201 after these workers. -/
def allCreated (n : Nat) (past : List Worker) : State where
  main := .answered (.created
    ⟨"t", "Org", [⟨"p", dpName (oneApp n) 1⟩], [⟨"a", appName (oneApp n) 1⟩], n⟩)
  app := ⟨"a", appName (oneApp n) 1, ["p"], []⟩
  shared := ⟨none, none, n⟩
  workers := []
  past := past

/-- One device, and all calls succeed. -/
theorem created_iff_oneDevice :
    (∀ w ∈ [done 1 none false], w.pc = .counted → w.Succeeded) ↔ Always (step (oneApp 1)) Clean
      (init (oneApp 1)) (mainGoes 12 ++ workerGoes 0 11 none ++ mainGoes 1) :=
  (created_iff (t := allCreated 1 [done 1 none false]) rfl rfl).2.2

/-- Two devices.  The creation of the first fails; before its worker has tested that, the creation of
    the second succeeds. -/
def overtaken : List Label :=
  mainGoes 13 ++ workerGoes 0 5 (some ⟨false, "unavailable"⟩) ++ workerGoes 1 5 none ++
    workerGoes 0 6 none ++ workerGoes 1 6 none ++ mainGoes 1

/-- The answer is 201, and a counted device was not created. -/
theorem overtaken_not_real :
    ∃ t body, exec (step (oneApp 2)) (init (oneApp 2)) overtaken = some t ∧
      t.main = .answered (.created body) ∧
      ¬ ∀ w ∈ t.past, w.pc = .counted → w.Succeeded := by
  refine ⟨allCreated 2 [done 1 (some ⟨false, "unavailable"⟩) true, done 2 none false], _, rfl, rfl,
    fun h => ?_⟩
  rcases (h _ List.mem_cons_self rfl).1 with hcreate | hcreate
  · cases hcreate
  · cases hcreate

end ChirpStackSimulator.BootstrapWorkers
