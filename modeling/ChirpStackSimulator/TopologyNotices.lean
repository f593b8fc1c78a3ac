/-
  The notices of topology changes: from `doSync` to the pages that are open (`passive_sync.go`,
  `passive_mode.go`, `passive-sync.js`).

  A sync that detects changes notes them as pending and hands them to every event stream, each of
  which has a channel of eight.  A page that hears of changes, on its stream or in an answer, shows a
  dialog if a simulation is running, and else dismisses them; after each dismissal it asks for the
  status once more, and while that still reports changes it dismisses again.

  1. **Parties** — the syncs of `TopologySync`, the streams, the pages, and the requests under way.
  2. **Steps** — the server serves and answers requests in any order or not at all, and a stream may
     break and come again at any time.

  The interval, the label of the last sync and what is logged are left out.  The button that restarts
  the simulation dismisses the changes like the other one; what it does then is not followed here.
-/
import ChirpStackSimulator.Lib.Buffers
import ChirpStackSimulator.Lib.Run
import ChirpStackSimulator.Lifecycle
import ChirpStackSimulator.TopologySync

namespace ChirpStackSimulator.TopologyNotices

open Transition Buffers
open PassiveSync (System Topology TopologySnapshot Failures compareSnapshots)
open Lifecycle (Status)

/-! ## The parties -/

/-- An event stream: the handler of the server and the connection to a page.  For the history, how many
    changes had been detected when the server took up its channel, and when it gave it up. -/
structure Stream where
  page : ℕ
  since : Option ℕ
  till : Option ℕ
  /-- The channel of the handler. -/
  channel : Queue (List String)
  /-- Written, and not yet come to the page. -/
  sent : List (List String)
  received : List (List String)

/-- The channel is in `sseTopologyClients`. -/
def Stream.registered (stream : Stream) : Bool := stream.since.isSome && stream.till.isNone

def Stream.connecting (page : ℕ) : Stream := ⟨page, none, none, .empty, [], []⟩

/-- The answer of `handleGetSyncStatus`. -/
structure SyncStatus where
  lastSyncAt : Option ℕ
  pendingChanges : Bool
  changesSummary : List String
  deriving DecidableEq

/-- A request of a page under way, without an answer until the server has served it. -/
inductive Request where
  /-- `GET /api/passive-mode`; the answer has the switch as well. -/
  | passiveMode (page : ℕ) (answer : Option (Bool × SyncStatus))
  /-- `GET /api/passive-sync/status`. -/
  | syncStatus (page : ℕ) (answer : Option SyncStatus)
  /-- `POST /api/passive-sync/dismiss`. -/
  | dismiss (page : ℕ) (answered : Bool)
  deriving DecidableEq

/-- What a page keeps.  For the history, all it heard over its streams. -/
structure Page where
  currentStatus : Status
  passiveMode : Bool
  pendingTopologyChange : Bool
  changesSummary : List String
  /-- The place of the stream. -/
  sseSource : Option ℕ
  /-- The timers of `connectTopologyEvents` that run. -/
  timers : ℕ
  /-- What `modal-topology-change` shows. -/
  modal : Option (List String)
  heard : List (List String)

/-- A page when it has been loaded. -/
def Page.new : Page := ⟨.idle, false, false, [], none, 0, none, []⟩

def Page.isRunning (page : Page) : Bool :=
  page.currentStatus = .running || page.currentStatus = .starting

/-- The server, the streams, the pages and the requests under way.  For the history: the pages that
    were told of changes since the last dismissal, with whether a simulation was running there; those
    of which a dismissal has failed since; and how many answers reported pending changes. -/
structure State where
  sync : System
  passiveMode : Bool
  streams : List Stream
  pages : List Page
  requests : List Request
  told : List (ℕ × Bool)
  failed : List ℕ
  reported : ℕ

def init : State := ⟨PassiveSync.start, false, [], [], [], [], [], 0⟩

namespace State

/-- What the syncs have broadcast, oldest first. -/
def detections (s : State) : List (List String) :=
  s.sync.broadcasts.map fun c => compareSnapshots c.1 c.2

def syncStatus (s : State) : SyncStatus :=
  ⟨s.sync.state.lastSyncAt, s.sync.state.pendingChanges, s.sync.state.changesSummary⟩

def modifyPage (s : State) (p : ℕ) (f : Page → Page) : State :=
  { s with pages := s.pages.modify p f }

end State

/-! ## What a page does -/

namespace State

def connectTopologyEvents (s : State) (p : ℕ) : State :=
  match s.pages[p]? with
  | none => s
  | some page =>
    if page.sseSource.isSome then s
    else
      { s.modifyPage p fun page => { page with sseSource := some s.streams.length } with
        streams := s.streams ++ [.connecting p] }

/-- The request of `refreshSyncStatus`. -/
def refreshSyncStatus (s : State) (p : ℕ) : State :=
  { s with requests := s.requests ++ [.syncStatus p none] }

/-- The request of `dismissChanges`. -/
def dismissChanges (s : State) (p : ℕ) : State :=
  { s.modifyPage p fun page => { page with pendingTopologyChange := false, changesSummary := [] } with
    requests := s.requests ++ [.dismiss p false] }

def onTopologyChange (s : State) (p : ℕ) (changes : List String) : State :=
  match s.pages[p]? with
  | none => s
  | some page =>
    if page.isRunning then
      { s.modifyPage p fun page => { page with modal := some changes } with
        told := s.told ++ [(p, true)] }
    else { (s.dismissChanges p).refreshSyncStatus p with told := s.told ++ [(p, false)] }

/-- What `refreshSyncStatus` and `loadPassiveModeConfig` do with the changes of their answers. -/
def takeStatus (s : State) (p : ℕ) (status : SyncStatus) : State :=
  let s := s.modifyPage p fun page =>
    { page with
      pendingTopologyChange := status.pendingChanges
      changesSummary := status.changesSummary }
  if status.pendingChanges && decide (status.changesSummary.length > 0) then
    s.onTopologyChange p status.changesSummary
  else s

/-- The answer of `loadPassiveModeConfig`. -/
def loadPassiveModeConfig (s : State) (p : ℕ) (enabled : Bool) (status : SyncStatus) : State :=
  let s := s.modifyPage p fun page => { page with passiveMode := enabled }
  (if enabled then s.connectTopologyEvents p else s).takeStatus p status

/-- The answer of the switch on the settings tab. -/
def toggled (s : State) (p : ℕ) (enabled : Bool) : State :=
  let s := s.modifyPage p fun page => { page with passiveMode := enabled }
  if enabled then s.connectTopologyEvents p
  else
    -- `disconnectTopologyEvents`
    s.modifyPage p fun page => { page with sseSource := none }

end State

/-! ## What the server does -/

/-- The message goes to every channel that has room. -/
def broadcastTopologyChange (changes : List String) (streams : List Stream) : List Stream :=
  streams.map fun stream =>
    if stream.registered then { stream with channel := stream.channel.offer 8 changes } else stream

namespace State

/-- The server serves the `r`-th request. -/
def serve (s : State) (r : ℕ) : Request → Option State
  | .passiveMode p none =>
    some { s with
      requests := s.requests.set r (.passiveMode p (some (s.passiveMode, s.syncStatus)))
      reported := s.reported + if s.sync.state.pendingChanges then 1 else 0 }
  | .syncStatus p none =>
    some { s with
      requests := s.requests.set r (.syncStatus p (some s.syncStatus))
      reported := s.reported + if s.sync.state.pendingChanges then 1 else 0 }
  | .dismiss p false =>
    (PassiveSync.step s.sync (.dismiss true)).map fun sync =>
      { s with
        sync
        requests := s.requests.set r (.dismiss p true)
        told := []
        failed := [] }
  | _ => none

/-- What the page does with the answer to a request. -/
def answer (s : State) : Request → Option State
  | .passiveMode p (some (enabled, status)) => some (s.loadPassiveModeConfig p enabled status)
  | .syncStatus p (some status) => some (s.takeStatus p status)
  | .dismiss p true => some (s.refreshSyncStatus p)
  | _ => none

/-- What the page does with a request that failed, before the server served it or after. -/
def fail (s : State) : Request → State
  | .passiveMode _ _ | .syncStatus _ _ => s
  | .dismiss p answered =>
    { s with failed := if answered then s.failed else s.failed ++ [p] }.refreshSyncStatus p

end State

/-! ## The steps -/

inductive Label where
  /-- The unlocked half of a `doSync`. -/
  | take (connected : Bool) (t : Topology) (f : Failures)
  /-- The locked half, for the `i`-th snapshot in flight. -/
  | compare (i now : ℕ)
  /-- `handleSavePassiveMode`, as far as the switch goes. -/
  | save (enabled : Bool)
  /-- A page is loaded. -/
  | load
  /-- The page `p` learns the status of the simulation. -/
  | setStatusBadge (p : ℕ) (status : Status)
  /-- The request of `loadPassiveModeConfig`. -/
  | loadPassiveModeConfig (p : ℕ)
  /-- Two seconds after a manual sync was triggered. -/
  | refreshSyncStatus (p : ℕ)
  | toggled (p : ℕ) (enabled : Bool)
  /-- Thirty seconds after an error. -/
  | timer (p : ℕ)
  /-- The stream of the page breaks. -/
  | onerror (p : ℕ)
  /-- One of the buttons of the dialog. -/
  | button (p : ℕ)
  /-- `handleTopologyEvents` begins, ends, or writes a message to the `i`-th stream. -/
  | register (i : ℕ)
  | unregister (i : ℕ)
  | write (i : ℕ)
  /-- A message comes to the page. -/
  | onmessage (i : ℕ)
  | serve (r : ℕ)
  | answer (r : ℕ)
  | fail (r : ℕ)

def step (s : State) : Label → Option State
  | .take connected t f =>
    (PassiveSync.step s.sync (.take connected t f)).map fun sync => { s with sync }
  | .compare i now =>
    s.sync.inFlight[i]?.bind fun snap =>
      let changes := (s.sync.state.compare snap now).2
      (PassiveSync.step s.sync (.compare i now)).map fun sync =>
        { s with
          sync
          streams :=
            if changes.length > 0 then broadcastTopologyChange changes s.streams else s.streams }
  | .save enabled => some { s with passiveMode := enabled }
  | .load => some { s with pages := s.pages ++ [.new] }
  | .setStatusBadge p status =>
    some (s.modifyPage p fun page => { page with currentStatus := status })
  | .loadPassiveModeConfig p => some { s with requests := s.requests ++ [.passiveMode p none] }
  | .refreshSyncStatus p => some (s.refreshSyncStatus p)
  | .toggled p enabled => some (s.toggled p enabled)
  | .timer p =>
    match s.pages[p]? with
    | some page =>
      if 0 < page.timers then
        some ((s.modifyPage p fun page => { page with timers := page.timers - 1 })
          |>.connectTopologyEvents p)
      else none
    | none => none
  | .onerror p =>
    match s.pages[p]? with
    | some page =>
      if page.sseSource.isSome then
        some (s.modifyPage p fun page =>
          { page with
            sseSource := none
            timers := if page.passiveMode then page.timers + 1 else page.timers })
      else none
    | none => none
  | .button p =>
    match s.pages[p]? with
    | some page =>
      if page.modal.isSome then
        some ((s.modifyPage p fun page => { page with modal := none }).dismissChanges p)
      else none
    | none => none
  | .register i =>
    match s.streams[i]? with
    | some stream =>
      if stream.since = none then
        some { s with streams := s.streams.set i { stream with since := some s.detections.length } }
      else none
    | none => none
  | .unregister i =>
    match s.streams[i]? with
    | some stream =>
      if stream.registered then
        some { s with streams := s.streams.set i { stream with till := some s.detections.length } }
      else none
    | none => none
  | .write i =>
    match s.streams[i]? with
    | some stream =>
      if stream.registered then
        stream.channel.take.map fun (changes, channel) =>
          { s with
            streams := s.streams.set i { stream with channel, sent := stream.sent ++ [changes] } }
      else none
    | none => none
  | .onmessage i =>
    match s.streams[i]? with
    | some ⟨p, since, till, channel, changes :: sent, received⟩ =>
      match s.pages[p]? with
      | some page =>
        if page.sseSource = some i then
          some ({ s.modifyPage p fun page => { page with heard := page.heard ++ [changes] } with
            streams := s.streams.set i ⟨p, since, till, channel, sent, received ++ [changes]⟩ }
              |>.onTopologyChange p changes)
        else none
      | none => none
    | _ => none
  | .serve r => s.requests[r]?.bind (s.serve r)
  | .answer r => s.requests[r]?.bind { s with requests := s.requests.eraseIdx r }.answer
  | .fail r => s.requests[r]?.map { s with requests := s.requests.eraseIdx r }.fail

/-- What the server does with the `r`-th request. -/
inductive Serves (s : State) (r : ℕ) : Request → State → Prop where
  | passiveMode (p : ℕ) :
    Serves s r (.passiveMode p none)
      { s with
        requests := s.requests.set r (.passiveMode p (some (s.passiveMode, s.syncStatus)))
        reported := s.reported + if s.sync.state.pendingChanges then 1 else 0 }
  | syncStatus (p : ℕ) :
    Serves s r (.syncStatus p none)
      { s with
        requests := s.requests.set r (.syncStatus p (some s.syncStatus))
        reported := s.reported + if s.sync.state.pendingChanges then 1 else 0 }
  | dismiss (p : ℕ) :
    Serves s r (.dismiss p false)
      { s with
        sync := { s.sync with
          state := { s.sync.state with pendingChanges := false, changesSummary := [] }
          detected := [] }
        requests := s.requests.set r (.dismiss p true)
        told := []
        failed := [] }

theorem serve_cases {s t : State} {r : ℕ} {request : Request} (h : s.serve r request = some t) :
    Serves s r request t := by
  cases request with
  | passiveMode p answer =>
    cases answer with
    | none =>
      obtain rfl := Option.some.inj h
      exact .passiveMode p
    | some answer => cases h
  | syncStatus p answer =>
    cases answer with
    | none =>
      obtain rfl := Option.some.inj h
      exact .syncStatus p
    | some answer => cases h
  | dismiss p answered =>
    cases answered with
    | false =>
      obtain rfl := Option.some.inj h
      exact .dismiss p
    | true => cases h

/-- What a page does with an answer. -/
inductive Answers (s : State) : Request → State → Prop where
  | passiveMode (p : ℕ) (enabled : Bool) (status : SyncStatus) :
    Answers s (.passiveMode p (some (enabled, status))) (s.loadPassiveModeConfig p enabled status)
  | syncStatus (p : ℕ) (status : SyncStatus) :
    Answers s (.syncStatus p (some status)) (s.takeStatus p status)
  | dismiss (p : ℕ) : Answers s (.dismiss p true) (s.refreshSyncStatus p)

theorem answer_cases {s t : State} {request : Request} (h : s.answer request = some t) :
    Answers s request t := by
  cases request with
  | passiveMode p answer =>
    cases answer with
    | none => cases h
    | some answer =>
      obtain ⟨enabled, status⟩ := answer
      obtain rfl := Option.some.inj h
      exact .passiveMode p enabled status
  | syncStatus p answer =>
    cases answer with
    | none => cases h
    | some status =>
      obtain rfl := Option.some.inj h
      exact .syncStatus p status
  | dismiss p answered =>
    cases answered with
    | false => cases h
    | true =>
      obtain rfl := Option.some.inj h
      exact .dismiss p

/-- What a step can do, with its guards. -/
inductive Steps (s : State) : Label → State → Prop where
  | take (connected : Bool) (topology : Topology) (f : Failures) (sync : System)
      (hstate : sync.state = s.sync.state) (hbroadcasts : sync.broadcasts = s.sync.broadcasts) :
    Steps s (.take connected topology f) { s with sync }
  | compare (i now : ℕ) (snap : TopologySnapshot) (hsnap : s.sync.inFlight[i]? = some snap) :
    Steps s (.compare i now)
      { s with
        sync := { s.sync with inFlight := s.sync.inFlight.eraseIdx i }.compare snap now
        streams :=
          if (s.sync.state.compare snap now).2.length > 0 then
            broadcastTopologyChange (s.sync.state.compare snap now).2 s.streams
          else s.streams }
  | save (enabled : Bool) : Steps s (.save enabled) { s with passiveMode := enabled }
  | load : Steps s .load { s with pages := s.pages ++ [.new] }
  | setStatusBadge (p : ℕ) (status : Status) :
    Steps s (.setStatusBadge p status)
      (s.modifyPage p fun page => { page with currentStatus := status })
  | loadPassiveModeConfig (p : ℕ) :
    Steps s (.loadPassiveModeConfig p) { s with requests := s.requests ++ [.passiveMode p none] }
  | refreshSyncStatus (p : ℕ) : Steps s (.refreshSyncStatus p) (s.refreshSyncStatus p)
  | toggled (p : ℕ) (enabled : Bool) : Steps s (.toggled p enabled) (s.toggled p enabled)
  | timer (p : ℕ) (page : Page) (hpage : s.pages[p]? = some page) :
    Steps s (.timer p)
      ((s.modifyPage p fun page => { page with timers := page.timers - 1 }).connectTopologyEvents p)
  | onerror (p : ℕ) (page : Page) (hpage : s.pages[p]? = some page) :
    Steps s (.onerror p)
      (s.modifyPage p fun page =>
        { page with
          sseSource := none
          timers := if page.passiveMode then page.timers + 1 else page.timers })
  | button (p : ℕ) (page : Page) (hpage : s.pages[p]? = some page) (hmodal : page.modal.isSome = true) :
    Steps s (.button p)
      ((s.modifyPage p fun page => { page with modal := none }).dismissChanges p)
  | register (i : ℕ) (stream : Stream) (hstream : s.streams[i]? = some stream)
      (hsince : stream.since = none) :
    Steps s (.register i)
      { s with streams := s.streams.set i { stream with since := some s.detections.length } }
  | unregister (i : ℕ) (stream : Stream) (hstream : s.streams[i]? = some stream)
      (hregistered : stream.registered = true) :
    Steps s (.unregister i)
      { s with streams := s.streams.set i { stream with till := some s.detections.length } }
  | write (i : ℕ) (stream : Stream) (changes : List String) (channel : Queue (List String))
      (hstream : s.streams[i]? = some stream) (hregistered : stream.registered = true)
      (htake : stream.channel.take = some (changes, channel)) :
    Steps s (.write i)
      { s with streams := s.streams.set i { stream with channel, sent := stream.sent ++ [changes] } }
  | onmessage (i p : ℕ) (since till : Option ℕ) (channel : Queue (List String)) (changes : List String)
      (sent received : List (List String)) (page : Page)
      (hstream : s.streams[i]? = some ⟨p, since, till, channel, changes :: sent, received⟩)
      (hpage : s.pages[p]? = some page) (hsource : page.sseSource = some i) :
    Steps s (.onmessage i)
      ({ s.modifyPage p fun page => { page with heard := page.heard ++ [changes] } with
        streams := s.streams.set i ⟨p, since, till, channel, sent, received ++ [changes]⟩ }
          |>.onTopologyChange p changes)
  | serve (r : ℕ) (request : Request) (t : State) (hrequest : s.requests[r]? = some request)
      (hserve : s.serve r request = some t) : Steps s (.serve r) t
  | answer (r : ℕ) (request : Request) (t : State) (hrequest : s.requests[r]? = some request)
      (hanswer : { s with requests := s.requests.eraseIdx r }.answer request = some t) :
    Steps s (.answer r) t
  | fail (r : ℕ) (request : Request) (hrequest : s.requests[r]? = some request) :
    Steps s (.fail r) ({ s with requests := s.requests.eraseIdx r }.fail request)

/-- **What a step can do.** -/
theorem step_cases {s t : State} {a : Label} (h : step s a = some t) : Steps s a t := by
  cases a with
  | take connected topology f =>
    obtain ⟨sync, hsync, rfl⟩ := Option.map_eq_some_iff.mp h
    rcases PassiveSync.step_cases hsync with ⟨rfl, -⟩ | ⟨_, _, _, _, -, -, rfl⟩ | ⟨_, _, _, ha, -⟩ |
      ⟨ha, -⟩
    · exact .take connected topology f _ rfl rfl
    · exact .take connected topology f _ rfl rfl
    · cases ha
    · cases ha
  | compare i now =>
    obtain ⟨snap, hsnap, h⟩ := Option.bind_eq_some_iff.mp h
    obtain ⟨sync, hsync, rfl⟩ := Option.map_eq_some_iff.mp h
    simp only [PassiveSync.step, hsnap, Option.some.injEq] at hsync
    obtain rfl := hsync
    exact .compare i now snap hsnap
  | save enabled =>
    obtain rfl := Option.some.inj h
    exact .save enabled
  | load =>
    obtain rfl := Option.some.inj h
    exact .load
  | setStatusBadge p status =>
    obtain rfl := Option.some.inj h
    exact .setStatusBadge p status
  | loadPassiveModeConfig p =>
    obtain rfl := Option.some.inj h
    exact .loadPassiveModeConfig p
  | refreshSyncStatus p =>
    obtain rfl := Option.some.inj h
    exact .refreshSyncStatus p
  | toggled p enabled =>
    obtain rfl := Option.some.inj h
    exact .toggled p enabled
  | timer p =>
    simp only [step] at h
    split at h
    · rename_i page hpage
      obtain ⟨-, h⟩ := Option.ite_none_right_eq_some.mp h
      obtain rfl := Option.some.inj h
      exact .timer p page hpage
    · cases h
  | onerror p =>
    simp only [step] at h
    split at h
    · rename_i page hpage
      obtain ⟨-, h⟩ := Option.ite_none_right_eq_some.mp h
      obtain rfl := Option.some.inj h
      exact .onerror p page hpage
    · cases h
  | button p =>
    simp only [step] at h
    split at h
    · rename_i page hpage
      obtain ⟨hmodal, h⟩ := Option.ite_none_right_eq_some.mp h
      obtain rfl := Option.some.inj h
      exact .button p page hpage hmodal
    · cases h
  | register i =>
    simp only [step] at h
    split at h
    · rename_i stream hstream
      obtain ⟨hsince, h⟩ := Option.ite_none_right_eq_some.mp h
      obtain rfl := Option.some.inj h
      exact .register i stream hstream hsince
    · cases h
  | unregister i =>
    simp only [step] at h
    split at h
    · rename_i stream hstream
      obtain ⟨hregistered, h⟩ := Option.ite_none_right_eq_some.mp h
      obtain rfl := Option.some.inj h
      exact .unregister i stream hstream hregistered
    · cases h
  | write i =>
    simp only [step] at h
    split at h
    · rename_i stream hstream
      obtain ⟨hregistered, h⟩ := Option.ite_none_right_eq_some.mp h
      obtain ⟨⟨changes, channel⟩, htake, rfl⟩ := Option.map_eq_some_iff.mp h
      exact .write i stream changes channel hstream hregistered htake
    · cases h
  | onmessage i =>
    simp only [step] at h
    split at h
    · rename_i p since till channel changes sent received hstream
      split at h
      · rename_i page hpage
        obtain ⟨hsource, h⟩ := Option.ite_none_right_eq_some.mp h
        obtain rfl := Option.some.inj h
        exact .onmessage i p since till channel changes sent received page hstream hpage hsource
      · cases h
    · cases h
  | serve r =>
    obtain ⟨request, hrequest, hserve⟩ := Option.bind_eq_some_iff.mp h
    exact .serve r request t hrequest hserve
  | answer r =>
    obtain ⟨request, hrequest, hanswer⟩ := Option.bind_eq_some_iff.mp h
    exact .answer r request t hrequest hanswer
  | fail r =>
    obtain ⟨request, hrequest, rfl⟩ := Option.map_eq_some_iff.mp h
    exact .fail r request hrequest

/-! ### A run -/

/-- A page connects, and then a gateway is added. -/
def exampleRun : List Label :=
  [.save true, .load, .loadPassiveModeConfig 0, .serve 0, .answer 0, .register 0,
    .take true (PassiveSync.withGateways []) .none, .compare 0 1,
    .take true (PassiveSync.withGateways ["a"]) .none, .compare 0 2]

end ChirpStackSimulator.TopologyNotices
