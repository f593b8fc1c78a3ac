/-
  How the notices of topology changes come to rest.

  A page that is told of changes while nothing runs dismisses them and asks for the status, which
  may tell it of the changes again.

  1. **Weights** (`State.weight`) — what is under way is weighed by the steps that can come of it; a
     step of the network costs one, and only a request served while changes are pending adds to it
     (`weight_step`).  What a page does is one `Adds` for each of its functions.
  2. **Who was told** (`Answered`) — a page that was told while nothing ran has a dismissal under
     way, or one that failed; the records of who was told and who asked only grow (`Extends`).

  Together (`notices_settle`): with nothing new the network comes to rest, after a number of steps
  that is bounded in advance but for requests served while changes are pending; and what is pending
  then has been shown on every page that heard of it, if no dismissal failed.
-/
import ChirpStackSimulator.Lib.Tally
import ChirpStackSimulator.TopologyNotices

namespace ChirpStackSimulator.TopologyNotices

open Transition Buffers

/-! ## Weights -/

/-- The steps that the network takes by itself. -/
def Label.network : Label → Bool
  | .write _ | .onmessage _ | .serve _ | .answer _ | .fail _ => true
  | _ => false

/-- Nothing new: no change is detected, no page asks and no button is pressed. -/
def Calm (s : State) : Label → Prop
  | .compare i now => ∀ snap, s.sync.inFlight[i]? = some snap → (s.sync.state.compare snap now).2 = []
  | .loadPassiveModeConfig _ | .refreshSyncStatus _ | .button _ => False
  | _ => True

/-- How many steps can come of an answer: if it reports changes they are dismissed and asked for. -/
def SyncStatus.weight (status : SyncStatus) : ℕ := if status.pendingChanges then 7 else 1

/-- How many steps a request can lead to, before its answer and after it. -/
def Request.weight : Request → ℕ
  | .passiveMode _ none | .syncStatus _ none => 2
  | .passiveMode _ (some (_, status)) | .syncStatus _ (some status) => status.weight
  | .dismiss _ false => 4
  | .dismiss _ true => 3

/-- A notice in the channel is written and received, and the page dismisses it and asks again. -/
def Stream.weight (stream : Stream) : ℕ := 8 * stream.channel.waiting.length + 7 * stream.sent.length

/-- How many steps the network can take, if no further answer reports changes. -/
def State.weight (s : State) : ℕ :=
  (s.requests.map Request.weight).sum + (s.streams.map Stream.weight).sum

/-- An answer leads to one step at least, the one that takes it. -/
theorem weight_pos (status : SyncStatus) : 1 ≤ status.weight := by
  unfold SyncStatus.weight
  split <;> omega

/-- What a page does: it takes up to `n` further steps, and leaves the server alone. -/
structure Adds (s t : State) (n : ℕ) : Prop where
  sync : t.sync = s.sync
  reported : t.reported = s.reported
  weight : t.weight ≤ s.weight + n

/-- What two parts of a step add is added up. -/
theorem Adds.trans {s t u : State} {m n : ℕ} (h : Adds s t m) (h' : Adds t u n) : Adds s u (m + n) where
  sync := h'.sync.trans h.sync
  reported := h'.reported.trans h.reported
  weight := by
    have hm := h.weight
    have hn := h'.weight
    omega

/-- A change of a page asks for nothing. -/
theorem adds_modifyPage (s : State) (p : ℕ) (f : Page → Page) : Adds s (s.modifyPage p f) 0 :=
  ⟨rfl, rfl, Nat.le_refl _⟩

/-- A new request brings its weight. -/
theorem weight_requests_concat (s : State) (request : Request) :
    { s with requests := s.requests ++ [request] }.weight = s.weight + request.weight := by
  simp only [State.weight, List.map_append, List.sum_append, List.map_cons, List.map_nil,
    List.sum_cons, List.sum_nil]
  omega

theorem adds_refreshSyncStatus (s : State) (p : ℕ) : Adds s (s.refreshSyncStatus p) 2 :=
  ⟨rfl, rfl, (weight_requests_concat s _).le⟩

/-- A dismissal brings its request, and the refresh its answer starts. -/
theorem adds_dismissChanges (s : State) (p : ℕ) : Adds s (s.dismissChanges p) 4 :=
  ⟨rfl, rfl, (weight_requests_concat s _).le⟩

/-- A page that shows a change dismisses it and asks for the status. -/
theorem adds_onTopologyChange (s : State) (p : ℕ) (changes : List String) :
    Adds s (s.onTopologyChange p changes) 6 := by
  unfold State.onTopologyChange
  split
  · exact ⟨rfl, rfl, Nat.le_add_right _ _⟩
  · split
    · exact ⟨rfl, rfl, Nat.le_add_right _ _⟩
    · have hboth := (adds_dismissChanges s p).trans (adds_refreshSyncStatus _ p)
      exact ⟨hboth.sync, hboth.reported, hboth.weight⟩

/-- A status that reports changes is shown as a notice is. -/
theorem adds_takeStatus (s : State) (p : ℕ) (status : SyncStatus) :
    Adds s (s.takeStatus p status) (status.weight - 1) := by
  unfold State.takeStatus
  dsimp only
  split
  · rename_i hchanges
    rw [Bool.and_eq_true] at hchanges
    rw [SyncStatus.weight, if_pos hchanges.1]
    have hboth := (adds_modifyPage s p fun page =>
      { page with
        pendingTopologyChange := status.pendingChanges
        changesSummary := status.changesSummary }).trans (adds_onTopologyChange _ p status.changesSummary)
    exact hboth
  · exact ⟨rfl, rfl, Nat.le_add_right _ _⟩

/-- A new stream holds nothing yet. -/
theorem adds_connectTopologyEvents (s : State) (p : ℕ) : Adds s (s.connectTopologyEvents p) 0 := by
  unfold State.connectTopologyEvents
  split
  · exact ⟨rfl, rfl, Nat.le_refl _⟩
  · split
    · exact ⟨rfl, rfl, Nat.le_refl _⟩
    · refine ⟨rfl, rfl, ?_⟩
      simp only [State.weight, List.map_append, List.sum_append, List.map_cons, List.map_nil,
        List.sum_cons, List.sum_nil]
      exact Nat.le_refl _

theorem adds_toggled (s : State) (p : ℕ) (enabled : Bool) : Adds s (s.toggled p enabled) 0 := by
  have hpage := adds_modifyPage s p fun page => { page with passiveMode := enabled }
  unfold State.toggled
  dsimp only
  split
  · exact hpage.trans (adds_connectTopologyEvents _ p)
  · exact hpage.trans (adds_modifyPage _ p _)

/-- An answer pays for what the page does with it. -/
theorem adds_answer {s t : State} {request : Request} (h : Answers s request t) :
    Adds s t (request.weight - 1) := by
  cases h with
  | passiveMode p enabled status =>
    unfold State.loadPassiveModeConfig
    dsimp only
    have hpage := adds_modifyPage s p fun page => { page with passiveMode := enabled }
    have hconnect : Adds s
        (if enabled then
          (s.modifyPage p fun page => { page with passiveMode := enabled }).connectTopologyEvents p
        else s.modifyPage p fun page => { page with passiveMode := enabled }) 0 := by
      split
      · exact hpage.trans (adds_connectTopologyEvents _ p)
      · exact hpage
    have hboth := hconnect.trans (adds_takeStatus _ p status)
    rw [Nat.zero_add] at hboth
    exact hboth
  | syncStatus p status => exact adds_takeStatus s p status
  | dismiss p => exact adds_refreshSyncStatus s p

/-- A failed dismissal still asks for the status; the other requests end. -/
theorem adds_fail (s : State) (request : Request) : Adds s (s.fail request) (request.weight - 1) := by
  cases request with
  | passiveMode p answer => exact ⟨rfl, rfl, Nat.le_add_right _ _⟩
  | syncStatus p answer => exact ⟨rfl, rfl, Nat.le_add_right _ _⟩
  | dismiss p answered =>
    have hmore := (weight_requests_concat s (.syncStatus p none)).le
    have hweight : 2 ≤ (Request.dismiss p answered).weight - 1 := by
      cases answered with
      | false => exact Nat.le_add_left 2 1
      | true => exact Nat.le_refl 2
    exact ⟨rfl, rfl, hmore.trans (Nat.add_le_add_left hweight _)⟩

/-- So a request that is answered or fails takes a step off. -/
theorem request_weight_pos (request : Request) : 1 ≤ request.weight := by
  cases request with
  | passiveMode p answer =>
    cases answer with
    | none => exact Nat.le_add_left 1 1
    | some answer => exact weight_pos answer.2
  | syncStatus p answer =>
    cases answer with
    | none => exact Nat.le_add_left 1 1
    | some status => exact weight_pos status
  | dismiss p answered =>
    cases answered with
    | false => exact Nat.le_add_left 1 3
    | true => exact Nat.le_add_left 1 2

/-- A request that is gone takes its weight with it. -/
theorem weight_erase {s : State} {r : ℕ} {request : Request} (h : s.requests[r]? = some request) :
    { s with requests := s.requests.eraseIdx r }.weight + request.weight = s.weight := by
  have hsum := Tally.sum_map_eraseIdx Request.weight h
  simp only [State.weight]
  omega

/-- A request in a new state changes the weight by the difference. -/
theorem weight_setRequest {s : State} {r : ℕ} {request : Request} (h : s.requests[r]? = some request)
    (new : Request) :
    { s with requests := s.requests.set r new }.weight + request.weight = s.weight + new.weight := by
  have hsum := Tally.sum_map_set Request.weight new h
  simp only [State.weight]
  omega

/-- So does a stream. -/
theorem weight_setStream {s : State} {i : ℕ} {stream : Stream} (h : s.streams[i]? = some stream)
    (new : Stream) :
    { s with streams := s.streams.set i new }.weight + stream.weight = s.weight + new.weight := by
  have hsum := Tally.sum_map_set Stream.weight new h
  simp only [State.weight]
  omega

/-- An answer weighs less than its request, or it reports changes. -/
theorem weight_syncStatus (s : State) :
    1 + s.syncStatus.weight ≤ 2 + 6 * if s.sync.state.pendingChanges then 1 else 0 := by
  show 1 + (if s.sync.state.pendingChanges then 7 else 1) ≤ _
  split <;> omega

/-- **The server's part** pays for itself, but for a status that reports changes. -/
theorem weight_serve {s t : State} {r : ℕ} {request : Request} (hrequest : s.requests[r]? = some request)
    (h : Serves s r request t) :
    1 + t.weight + 6 * s.reported ≤ s.weight + 6 * t.reported := by
  have hstatus := weight_syncStatus s
  have hset := weight_setRequest hrequest
  cases h with
  | passiveMode p =>
    have hnew : _ + 2 = s.weight + s.syncStatus.weight :=
      hset (.passiveMode p (some (s.passiveMode, s.syncStatus)))
    show 1 + { s with
        requests := s.requests.set r (.passiveMode p (some (s.passiveMode, s.syncStatus))) }.weight +
      6 * s.reported ≤ s.weight + 6 * (s.reported + if s.sync.state.pendingChanges then 1 else 0)
    omega
  | syncStatus p =>
    have hnew : _ + 2 = s.weight + s.syncStatus.weight := hset (.syncStatus p (some s.syncStatus))
    show 1 + { s with requests := s.requests.set r (.syncStatus p (some s.syncStatus)) }.weight +
      6 * s.reported ≤ s.weight + 6 * (s.reported + if s.sync.state.pendingChanges then 1 else 0)
    omega
  | dismiss p =>
    have hnew : _ + 4 = s.weight + 3 := hset (.dismiss p true)
    show 1 + { s with requests := s.requests.set r (.dismiss p true) }.weight + 6 * s.reported ≤
      s.weight + 6 * s.reported
    omega

/-- What a step costs. -/
def Label.cost (a : Label) : ℕ := if a.network then 1 else 0

/-- **A step of the network is paid for** by what is under way, or by an answer that reports changes. -/
theorem weight_step {s t : State} {a : Label} (hcalm : Calm s a) (h : step s a = some t) :
    a.cost + t.weight + 6 * s.reported ≤ s.weight + 6 * t.reported := by
  -- a step that adds nothing
  have hfree : ∀ {t : State}, a.cost = 0 → Adds s t 0 →
      a.cost + t.weight + 6 * s.reported ≤ s.weight + 6 * t.reported := by
    intro t hcost hadds
    have hweight := hadds.weight
    rw [hcost, hadds.reported]
    omega
  cases step_cases h with
  | take connected topology f sync hstate hbroadcasts =>
    show 0 + s.weight + 6 * s.reported ≤ s.weight + 6 * s.reported
    omega
  | compare i now snap hsnap =>
    rw [hcalm snap hsnap, if_neg (by decide)]
    show 0 + s.weight + 6 * s.reported ≤ s.weight + 6 * s.reported
    omega
  | save enabled => exact hfree rfl ⟨rfl, rfl, Nat.le_refl _⟩
  | load => exact hfree rfl ⟨rfl, rfl, Nat.le_refl _⟩
  | setStatusBadge p status => exact hfree rfl (adds_modifyPage s p _)
  | loadPassiveModeConfig p => exact hcalm.elim
  | refreshSyncStatus p => exact hcalm.elim
  | toggled p enabled => exact hfree rfl (adds_toggled s p enabled)
  | timer p page hpage =>
    exact hfree rfl ((adds_modifyPage s p _).trans (adds_connectTopologyEvents _ p))
  | onerror p page hpage => exact hfree rfl (adds_modifyPage s p _)
  | button p page hpage hmodal => exact hcalm.elim
  | register i stream hstream hsince =>
    have hset := weight_setStream hstream { stream with since := some s.detections.length }
    have hsame : Stream.weight { stream with since := some s.detections.length } = stream.weight := rfl
    exact hfree rfl ⟨rfl, rfl, by omega⟩
  | unregister i stream hstream hregistered =>
    have hset := weight_setStream hstream { stream with till := some s.detections.length }
    have hsame : Stream.weight { stream with till := some s.detections.length } = stream.weight := rfl
    exact hfree rfl ⟨rfl, rfl, by omega⟩
  | write i stream changes channel hstream hregistered htake =>
    have hset := weight_setStream hstream { stream with channel, sent := stream.sent ++ [changes] }
    obtain ⟨hwaiting, -, -⟩ := Queue.take_eq_some htake
    have hwaiting : stream.channel.waiting.length = channel.waiting.length + 1 :=
      congrArg List.length hwaiting
    simp only [Stream.weight, List.length_append, List.length_singleton] at hset
    show 1 + { s with streams := _ }.weight + 6 * s.reported ≤ s.weight + 6 * s.reported
    omega
  | onmessage i p since till channel changes sent received page hstream hpage hsource =>
    have hset := weight_setStream hstream ⟨p, since, till, channel, sent, received ++ [changes]⟩
    simp only [Stream.weight, List.length_cons] at hset
    have hadds := adds_onTopologyChange
      { s.modifyPage p fun page => { page with heard := page.heard ++ [changes] } with
        streams := s.streams.set i ⟨p, since, till, channel, sent, received ++ [changes]⟩ } p changes
    have hweight : State.weight _ ≤
      { s with streams := s.streams.set i ⟨p, since, till, channel, sent, received ++ [changes]⟩ }.weight
        + 6 := hadds.weight
    rw [hadds.reported]
    show 1 + _ + 6 * s.reported ≤ s.weight + 6 * s.reported
    omega
  | serve r request t hrequest hserve => exact weight_serve hrequest (serve_cases hserve)
  | answer r request t hrequest hanswer =>
    have herase := weight_erase hrequest
    have hadds := adds_answer (answer_cases hanswer)
    have hweight := hadds.weight
    have hpos := request_weight_pos request
    rw [hadds.reported]
    show 1 + _ + 6 * s.reported ≤ s.weight + 6 * s.reported
    omega
  | fail r request hrequest =>
    have herase := weight_erase hrequest
    have hpos := request_weight_pos request
    have hadds := adds_fail { s with requests := s.requests.eraseIdx r } request
    have hweight := hadds.weight
    rw [hadds.reported]
    show 1 + _ + 6 * s.reported ≤ s.weight + 6 * s.reported
    omega

/-- As long as nothing is pending and nothing new comes, nothing is pending and no answer reports
    changes. -/
theorem quiet_step {s t : State} {a : Label} (hcalm : Calm s a) (h : step s a = some t)
    (hquiet : s.sync.state.pendingChanges = false) :
    t.sync.state.pendingChanges = false ∧ t.reported = s.reported := by
  have hadds : ∀ {t : State} {n : ℕ}, Adds s t n →
      t.sync.state.pendingChanges = false ∧ t.reported = s.reported := by
    intro t n hadds
    rw [hadds.sync]
    exact ⟨hquiet, hadds.reported⟩
  cases step_cases h with
  | take connected topology f sync hstate hbroadcasts =>
    refine ⟨?_, rfl⟩
    show sync.state.pendingChanges = false
    rw [hstate]
    exact hquiet
  | compare i now snap hsnap =>
    refine ⟨?_, rfl⟩
    have hstate := PassiveSync.compare_state s.sync.state snap now
    show (s.sync.state.compare snap now).1.pendingChanges = false
    rw [hstate, hcalm snap hsnap]
    simp [hquiet]
  | save enabled => exact ⟨hquiet, rfl⟩
  | load => exact ⟨hquiet, rfl⟩
  | setStatusBadge p status => exact ⟨hquiet, rfl⟩
  | loadPassiveModeConfig p => exact ⟨hquiet, rfl⟩
  | refreshSyncStatus p => exact ⟨hquiet, rfl⟩
  | toggled p enabled => exact hadds (adds_toggled s p enabled)
  | timer p page hpage => exact hadds ((adds_modifyPage s p _).trans (adds_connectTopologyEvents _ p))
  | onerror p page hpage => exact ⟨hquiet, rfl⟩
  | button p page hpage hmodal => exact ⟨hquiet, rfl⟩
  | register i stream hstream hsince => exact ⟨hquiet, rfl⟩
  | unregister i stream hstream hregistered => exact ⟨hquiet, rfl⟩
  | write i stream changes channel hstream hregistered htake => exact ⟨hquiet, rfl⟩
  | onmessage i p since till channel changes sent received page hstream hpage hsource =>
    have hadds := adds_onTopologyChange
      { s.modifyPage p fun page => { page with heard := page.heard ++ [changes] } with
        streams := s.streams.set i ⟨p, since, till, channel, sent, received ++ [changes]⟩ } p changes
    rw [hadds.sync]
    exact ⟨hquiet, hadds.reported⟩
  | serve r request t hrequest hserve =>
    cases serve_cases hserve with
    | passiveMode p => exact ⟨hquiet, by simp [hquiet]⟩
    | syncStatus p => exact ⟨hquiet, by simp [hquiet]⟩
    | dismiss p => exact ⟨rfl, rfl⟩
  | answer r request t hrequest hanswer =>
    have hadds := adds_answer (answer_cases hanswer)
    rw [hadds.sync]
    exact ⟨hquiet, hadds.reported⟩
  | fail r request hrequest =>
    have hadds := adds_fail { s with requests := s.requests.eraseIdx r } request
    rw [hadds.sync]
    exact ⟨hquiet, hadds.reported⟩

/-! ## Who was told -/

/-- Where no simulation ran, the page that was told dismisses the changes, or failed to. -/
def Answered (s : State) : Prop :=
  ∀ p, (p, false) ∈ s.told → .dismiss p false ∈ s.requests ∨ p ∈ s.failed

theorem answered_init : Answered init := fun _ h => nomatch h

/-- The requests and what was told stay, and who is told dismisses. -/
structure Extends (s t : State) : Prop where
  requests : ∀ p, .dismiss p false ∈ s.requests → .dismiss p false ∈ t.requests
  failed : t.failed = s.failed
  told : ∀ p, (p, false) ∈ t.told → (p, false) ∈ s.told ∨ .dismiss p false ∈ t.requests

theorem extends_of_eq {s t : State} (hrequests : t.requests = s.requests) (htold : t.told = s.told)
    (hfailed : t.failed = s.failed) : Extends s t :=
  ⟨fun _ h => hrequests.symm ▸ h, hfailed, fun _ h => .inl (htold ▸ h)⟩

/-- The two records only ever grow. -/
theorem Extends.trans {s t u : State} (h : Extends s t) (h' : Extends t u) : Extends s u where
  requests p hp := h'.requests p (h.requests p hp)
  failed := h'.failed.trans h.failed
  told p hp := by
    rcases h'.told p hp with hold | hnew
    · exact (h.told p hold).imp_right (h'.requests p)
    · exact .inr hnew

/-- What was answered stays answered while the records grow. -/
theorem Answered.extend {s t : State} (h : Answered s) (hst : Extends s t) : Answered t := by
  intro p hp
  rcases hst.told p hp with hold | hnew
  · exact (h p hold).imp (hst.requests p) fun hfailed => hst.failed.symm ▸ hfailed
  · exact .inl hnew

theorem extends_modifyPage (s : State) (p : ℕ) (f : Page → Page) : Extends s (s.modifyPage p f) :=
  extends_of_eq rfl rfl rfl

theorem extends_requests (s : State) (more : List Request) :
    Extends s { s with requests := s.requests ++ more } :=
  ⟨fun _ h => List.mem_append_left _ h, rfl, fun _ h => .inl h⟩

theorem extends_dismissChanges (s : State) (p : ℕ) : Extends s (s.dismissChanges p) :=
  ⟨fun _ h => List.mem_append_left _ h, rfl, fun _ h => .inl h⟩

/-- What pages do adds requests and takes nothing off the records. -/
theorem extends_onTopologyChange (s : State) (p : ℕ) (changes : List String) :
    Extends s (s.onTopologyChange p changes) := by
  unfold State.onTopologyChange
  split
  · exact extends_of_eq rfl rfl rfl
  · split
    · refine ⟨fun _ h => h, rfl, fun q hq => ?_⟩
      rcases List.mem_append.mp hq with hold | hnew
      · exact .inl hold
      · cases List.mem_singleton.mp hnew
    · refine ⟨fun q hq => List.mem_append_left _ (List.mem_append_left _ hq), rfl, fun q hq => ?_⟩
      rcases List.mem_append.mp hq with hold | hnew
      · exact .inl hold
      · obtain rfl : q = p := congrArg Prod.fst (List.mem_singleton.mp hnew)
        exact .inr (List.mem_append_left _ (List.mem_append_right _ (List.mem_singleton_self _)))

theorem extends_takeStatus (s : State) (p : ℕ) (status : SyncStatus) :
    Extends s (s.takeStatus p status) := by
  unfold State.takeStatus
  dsimp only
  split
  · exact (extends_modifyPage s p _).trans (extends_onTopologyChange _ p _)
  · exact extends_of_eq rfl rfl rfl

theorem extends_connectTopologyEvents (s : State) (p : ℕ) :
    Extends s (s.connectTopologyEvents p) := by
  unfold State.connectTopologyEvents
  split
  · exact extends_of_eq rfl rfl rfl
  · split
    · exact extends_of_eq rfl rfl rfl
    · exact extends_of_eq rfl rfl rfl

/-- Nor does the taking of an answer. -/
theorem extends_answer {s t : State} {request : Request} (h : Answers s request t) :
    Extends s t := by
  cases h with
  | passiveMode p enabled status =>
    unfold State.loadPassiveModeConfig
    dsimp only
    refine Extends.trans ?_ (extends_takeStatus _ p status)
    split
    · exact (extends_modifyPage s p _).trans (extends_connectTopologyEvents _ p)
    · exact extends_of_eq rfl rfl rfl
  | syncStatus p status => exact extends_takeStatus s p status
  | dismiss p => exact extends_requests s _

/-- What is under way stays under way, but for the request that is taken away. -/
theorem Answered.erase {s : State} (h : Answered s) {r : ℕ} {request : Request}
    (hrequest : s.requests[r]? = some request) (p : ℕ) (hp : (p, false) ∈ s.told) :
    request = .dismiss p false ∨ .dismiss p false ∈ s.requests.eraseIdx r ∨ p ∈ s.failed := by
  rcases h p hp with hmem | hfailed
  · obtain ⟨hr, rfl⟩ := List.getElem?_eq_some_iff.mp hrequest
    have hperm := (List.getElem_cons_eraseIdx_perm hr).symm.mem_iff.mp hmem
    rcases List.mem_cons.mp hperm with heq | hmem
    · exact .inl heq.symm
    · exact .inr (.inl hmem)
  · exact .inr (.inr hfailed)

/-- **One step** leaves every request that is gone answered or failed. -/
theorem answered_step {s t : State} {a : Label} (hanswered : Answered s) (h : step s a = some t) :
    Answered t := by
  cases step_cases h with
  | take connected topology f sync hstate hbroadcasts => exact hanswered
  | compare i now snap hsnap => exact hanswered
  | save enabled => exact hanswered
  | load => exact hanswered
  | setStatusBadge p status => exact hanswered
  | loadPassiveModeConfig p => exact hanswered.extend (extends_requests s _)
  | refreshSyncStatus p => exact hanswered.extend (extends_requests s _)
  | toggled p enabled =>
    refine hanswered.extend ?_
    unfold State.toggled
    dsimp only
    split
    · exact (extends_modifyPage s p _).trans (extends_connectTopologyEvents _ p)
    · exact extends_of_eq rfl rfl rfl
  | timer p page hpage =>
    exact hanswered.extend ((extends_modifyPage s p _).trans (extends_connectTopologyEvents _ p))
  | onerror p page hpage => exact hanswered
  | button p page hpage hmodal =>
    exact hanswered.extend ((extends_modifyPage s p _).trans (extends_dismissChanges _ p))
  | register i stream hstream hsince => exact hanswered
  | unregister i stream hstream hregistered => exact hanswered
  | write i stream changes channel hstream hregistered htake => exact hanswered
  | onmessage i p since till channel changes sent received page hstream hpage hsource =>
    exact Answered.extend (s := { s.modifyPage p fun page =>
      { page with heard := page.heard ++ [changes] } with
        streams := s.streams.set i ⟨p, since, till, channel, sent, received ++ [changes]⟩ })
      hanswered (extends_onTopologyChange _ p changes)
  | serve r request t hrequest hserve =>
    have hset : ∀ {t : State} {new : Request}, t.requests = s.requests.set r new →
        (∀ p, request ≠ .dismiss p false) → t.told = s.told → t.failed = s.failed → Answered t := by
      intro t new hrequests hne htold hfailed p hp
      rw [htold] at hp
      rw [hrequests, hfailed]
      refine (hanswered p hp).imp_left fun hmem => ?_
      exact (Objects.eq_or_mem_set hrequest new hmem).resolve_left fun h => hne p h.symm
    cases serve_cases hserve with
    | passiveMode p => exact hset rfl (fun _ h => nomatch h) rfl rfl
    | syncStatus p => exact hset rfl (fun _ h => nomatch h) rfl rfl
    | dismiss p =>
      -- nobody was told since
      exact fun _ hp => nomatch hp
  | answer r request t hrequest hanswer =>
    refine Answered.extend (s := { s with requests := s.requests.eraseIdx r }) (fun p hp => ?_)
      (extends_answer (answer_cases hanswer))
    rcases hanswered.erase hrequest p hp with rfl | hrest
    · cases answer_cases hanswer
    · exact hrest
  | fail r request hrequest =>
    intro p hp
    cases request with
    | passiveMode q answer => exact (hanswered.erase hrequest p hp).resolve_left (fun h => nomatch h)
    | syncStatus q answer => exact (hanswered.erase hrequest p hp).resolve_left (fun h => nomatch h)
    | dismiss q answered =>
      rcases hanswered.erase hrequest p hp with heq | hmem | hfailed
      · cases heq
        exact .inr (List.mem_append_right _ (List.mem_singleton_self _))
      · exact .inl (List.mem_append_left _ hmem)
      · refine .inr ?_
        show p ∈ if answered then s.failed else s.failed ++ [q]
        split
        · exact hfailed
        · exact List.mem_append_left _ hfailed

/-! ## The law -/

/-- No step of the network is left. -/
def AtRest (s : State) : Prop := ∀ a, a.network = true → step s a = none

/-- At rest no request is under way, every channel that the server has is empty, and a page has got
    all that was written to its stream. -/
theorem AtRest.settled {s : State} (h : AtRest s) :
    s.requests = [] ∧
      ∀ (i : ℕ) stream, s.streams[i]? = some stream →
        (stream.registered = true → stream.channel.waiting = []) ∧
          ∀ page, s.pages[stream.page]? = some page → page.sseSource = some i → stream.sent = [] := by
  refine ⟨?_, fun i stream hstream => ⟨fun hregistered => ?_, fun page hpage hsource => ?_⟩⟩
  · -- a request can fail
    by_contra hne
    obtain ⟨request, rest, hrequests⟩ := List.exists_cons_of_ne_nil hne
    have hfail := h (.fail 0) rfl
    simp [step, hrequests] at hfail
  · by_contra hne
    obtain ⟨changes, rest, hwaiting⟩ := List.exists_cons_of_ne_nil hne
    have hwrite := h (.write i) rfl
    simp [step, hstream, hregistered, Queue.take, hwaiting] at hwrite
  · by_contra hne
    obtain ⟨changes, sent, hsent⟩ := List.exists_cons_of_ne_nil hne
    have hmessage := h (.onmessage i) rfl
    obtain ⟨p, since, till, channel, sent', received⟩ := stream
    dsimp only at hsent hpage
    subst hsent
    simp [step, hstream, hpage, hsource] at hmessage

/-- **The network comes to rest**: while nothing new comes, its steps are paid for by what was under
    way, and by requests that are served while changes are pending; with nothing pending it stays so,
    and they are bounded from the start.  At rest nothing is under way; and of the pages that were told
    of changes since the last dismissal, each was running a simulation, so that it showed them, unless a
    dismissal of its own failed. -/
theorem notices_settle {as bs : List Label} {s t : State} (hs : exec step init as = some s)
    (hcalm : Always step Calm s bs) (ht : exec step s bs = some t) :
    (bs.map Label.cost).sum + t.weight + 6 * s.reported ≤ s.weight + 6 * t.reported ∧
      (s.sync.state.pendingChanges = false →
        t.sync.state.pendingChanges = false ∧ (bs.map Label.cost).sum ≤ s.weight) ∧
      (AtRest t →
        t.requests = [] ∧
          (∀ (i : ℕ) stream, t.streams[i]? = some stream →
            (stream.registered = true → stream.channel.waiting = []) ∧
              ∀ page, t.pages[stream.page]? = some page → page.sseSource = some i →
                stream.sent = []) ∧
          ∀ x ∈ t.told, x.2 = true ∨ x.1 ∈ t.failed) := by
  have hbudget : (bs.map Label.cost).sum + t.weight + 6 * s.reported ≤ s.weight + 6 * t.reported :=
    exec_budget (fun _ _ _ ha hs => weight_step ha hs) hcalm ht
  refine ⟨hbudget, fun hquiet => ?_, fun hrest => ?_⟩
  · have hkept : t.sync.state.pendingChanges = false ∧ t.reported = s.reported :=
      exec_invariant_of_always
        (I := fun u => u.sync.state.pendingChanges = false ∧ u.reported = s.reported)
        (fun _ _ _ hinv ha hs => by
          obtain ⟨hpending, hreported⟩ := quiet_step ha hs hinv.1
          exact ⟨hpending, hreported.trans hinv.2⟩)
        ⟨hquiet, rfl⟩ hcalm ht
    refine ⟨hkept.1, ?_⟩
    rw [hkept.2] at hbudget
    omega
  · obtain ⟨hrequests, hstreams⟩ := hrest.settled
    refine ⟨hrequests, hstreams, fun x hx => ?_⟩
    have hbefore : Answered s := exec_invariant (fun _ _ _ => answered_step) answered_init hs
    have hanswered : Answered t := exec_invariant (fun _ _ _ => answered_step) hbefore ht
    obtain ⟨p, running⟩ := x
    cases running with
    | true => exact .inl rfl
    | false =>
      rcases hanswered p hx with hmem | hfailed
      · rw [hrequests] at hmem
        cases hmem
      · exact .inr hfailed

/-- The page dismisses the change twice: it asks for the status before the server has the first
    dismissal. -/
def restRun : List Label :=
  [.write 0, .onmessage 0, .serve 1, .answer 1, .serve 0, .answer 0, .serve 0, .serve 1, .serve 2,
    .answer 0, .answer 0, .answer 0, .serve 0, .answer 0]

/-- What the network does by itself is calm. -/
theorem calm_of_network {s : State} {a : Label} (h : a.network = true) : Calm s a := by
  cases a with
  | write i => trivial
  | onmessage i => trivial
  | serve r => trivial
  | answer r => trivial
  | fail r => trivial
  | _ => cases h

-- as many steps as the bound allows, with one answer that reports the change
theorem notices_settle_oneChange :
    ∃ s t, exec step init exampleRun = some s ∧ exec step s restRun = some t ∧ s.weight = 8 ∧
      s.reported = 0 ∧ t.reported = 1 ∧ (restRun.map Label.cost).sum = 14 ∧
      (restRun.map Label.cost).sum + t.weight + 6 * s.reported ≤ s.weight + 6 * t.reported := by
  have hfirst : (exec step init exampleRun).map (fun s => (s.weight, s.reported)) = some (8, 0) := by
    decide +kernel
  have hsecond : ((exec step init exampleRun).bind fun s => exec step s restRun).map State.reported =
      some 1 := by
    decide +kernel
  obtain ⟨t, ht, hreported⟩ := Option.map_eq_some_iff.mp hsecond
  obtain ⟨s, hs, hst⟩ := Option.bind_eq_some_iff.mp ht
  rw [hs, Option.map_some, Option.some_inj, Prod.mk.injEq] at hfirst
  have hnetwork : Always step (fun _ a => a.network = true) s restRun :=
    always_of_forall_mem (by decide)
  have hcalm : Always step Calm s restRun := hnetwork.mono fun _ _ => calm_of_network
  exact ⟨s, t, hs, hst, hfirst.1, hfirst.2, hreported, by decide, (notices_settle hs hcalm hst).1⟩

end ChirpStackSimulator.TopologyNotices
