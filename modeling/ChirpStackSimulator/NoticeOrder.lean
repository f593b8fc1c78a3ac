/-
  What the pages hear of topology changes, and in which order.

  1. **What a step does to the streams and the pages** (`Moves`).  The order depends on a part of
     the state only, the `View`; a step that moves nothing in it needs no argument, and
     `moves_of_step` sorts all steps of the system into the few that do.
  2. **Order** (`View.Linked`) — a stream carries what was detected while the server had its channel
     (`Stream.Faithful`); a page heard what was detected before its stream, and what came over it.
  3. **What is shown** (`Shown`) — changes that are pending, in an answer or in a dialog were
     detected.

  Together (`notices_in_order`): what comes over a stream is what was detected while the server had
  it, but for what met a full channel; and no page hears of a change twice, however often it
  connects again.
-/
import ChirpStackSimulator.Lib.Objects
import ChirpStackSimulator.TopologyNotices

namespace ChirpStackSimulator.TopologyNotices

open Transition Buffers
open PassiveSync (System TopologySnapshot compareSnapshots)

/-! ## Streams and pages -/

/-- Of a page, its stream and what it heard. -/
def Page.link (page : Page) : Option ℕ × List (List String) := (page.sseSource, page.heard)

/-- What the order of the notices depends on. -/
structure View where
  streams : List Stream
  detections : List (List String)
  links : List (Option ℕ × List (List String))

/-- The view of a state. -/
def State.view (s : State) : View := ⟨s.streams, s.detections, s.pages.map Page.link⟩

/-- What a step does to the streams and the pages. -/
inductive Moves (v : View) : View → Prop where
  | same : Moves v v
  | loads : Moves v { v with links := v.links ++ [(none, [])] }
  | connects (p : ℕ) (heard : List (List String)) (hlink : v.links[p]? = some (none, heard)) :
    Moves v
      { v with
        streams := v.streams ++ [.connecting p]
        links := v.links.modify p fun link => (some v.streams.length, link.2) }
  | closes (p : ℕ) : Moves v { v with links := v.links.modify p fun link => (none, link.2) }
  | registers (i : ℕ) (stream : Stream) (hstream : v.streams[i]? = some stream)
      (hsince : stream.since = none) :
    Moves v { v with streams := v.streams.set i { stream with since := some v.detections.length } }
  | unregisters (i : ℕ) (stream : Stream) (hstream : v.streams[i]? = some stream)
      (hregistered : stream.registered = true) :
    Moves v { v with streams := v.streams.set i { stream with till := some v.detections.length } }
  | writes (i : ℕ) (stream : Stream) (changes : List String) (channel : Queue (List String))
      (hstream : v.streams[i]? = some stream) (htake : stream.channel.take = some (changes, channel)) :
    Moves v
      { v with streams := v.streams.set i { stream with channel, sent := stream.sent ++ [changes] } }
  | receives (i p : ℕ) (since till : Option ℕ) (channel : Queue (List String)) (changes : List String)
      (sent received heard : List (List String))
      (hstream : v.streams[i]? = some ⟨p, since, till, channel, changes :: sent, received⟩)
      (hlink : v.links[p]? = some (some i, heard)) :
    Moves v
      { v with
        streams := v.streams.set i ⟨p, since, till, channel, sent, received ++ [changes]⟩
        links := v.links.modify p fun link => (link.1, link.2 ++ [changes]) }
  | detects (changes : List String) :
    Moves v
      { v with
        streams := broadcastTopologyChange changes v.streams
        detections := v.detections ++ [changes] }

/-- A change of a page, as the view sees it. -/
theorem view_modifyPage_of {f : Page → Page} {g : Option ℕ × List (List String) → _} (s : State) (p : ℕ)
    (hf : ∀ page, (f page).link = g page.link) :
    (s.modifyPage p f).view = { s.view with links := s.view.links.modify p g } := by
  have hlinks : (s.pages.modify p f).map Page.link = (s.pages.map Page.link).modify p g :=
    Objects.map_modify_comm hf p s.pages
  show View.mk s.streams s.detections ((s.pages.modify p f).map Page.link) = _
  rw [hlinks]
  rfl

/-- A change of what the view does not show. -/
theorem view_modifyPage {f : Page → Page} (s : State) (p : ℕ) (hf : ∀ page, (f page).link = page.link) :
    (s.modifyPage p f).view = s.view := by
  rw [view_modifyPage_of (g := id) s p hf, List.modify_id]

theorem view_dismissChanges (s : State) (p : ℕ) : (s.dismissChanges p).view = s.view :=
  view_modifyPage s p fun _ => by rfl

/-- Showing a change moves no stream and no notice. -/
theorem view_onTopologyChange (s : State) (p : ℕ) (changes : List String) :
    (s.onTopologyChange p changes).view = s.view := by
  unfold State.onTopologyChange
  split
  · rfl
  · split
    · exact view_modifyPage s p fun _ => by rfl
    · exact view_dismissChanges s p

/-- Nor does taking a status. -/
theorem view_takeStatus (s : State) (p : ℕ) (status : SyncStatus) :
    (s.takeStatus p status).view = s.view := by
  unfold State.takeStatus
  dsimp only
  split
  · rw [view_onTopologyChange]
    exact view_modifyPage s p fun _ => by rfl
  · exact view_modifyPage s p fun _ => by rfl

/-- A page connects once: a stream that is open stays. -/
theorem moves_connectTopologyEvents (s : State) (p : ℕ) :
    Moves s.view (s.connectTopologyEvents p).view := by
  unfold State.connectTopologyEvents
  split
  · exact .same
  · rename_i page hpage
    split
    · exact .same
    · rename_i hsource
      have hlink : s.view.links[p]? = some (none, page.heard) := by
        show (s.pages.map Page.link)[p]? = _
        rw [List.getElem?_map, hpage, Option.map_some, Page.link,
          Option.not_isSome_iff_eq_none.mp hsource]
      have hpages := view_modifyPage_of (f := fun page => { page with sseSource := some s.streams.length })
        (g := fun link => (some s.streams.length, link.2)) s p fun _ => rfl
      have hview : { s.modifyPage p fun page => { page with sseSource := some s.streams.length } with
          streams := s.streams ++ [Stream.connecting p] }.view =
          { s.view with
            streams := s.view.streams ++ [Stream.connecting p]
            links := s.view.links.modify p fun link => (some s.view.streams.length, link.2) } :=
        congrArg (fun v : View => { v with streams := s.streams ++ [Stream.connecting p] }) hpages
      rw [hview]
      exact .connects p page.heard hlink

/-- What a comparison adds to what was detected. -/
theorem detections_compare (sync : System) (snap : TopologySnapshot) (now : ℕ) :
    (sync.compare snap now).broadcasts.map (fun c => compareSnapshots c.1 c.2) =
      sync.broadcasts.map (fun c => compareSnapshots c.1 c.2) ++
        if (sync.state.compare snap now).2 = [] then [] else [(sync.state.compare snap now).2] := by
  have hdetects := PassiveSync.compare_detects sync.state snap now
  rw [System.compare, List.map_append]
  congr 1
  split
  · rfl
  · cases hlast : sync.state.lastSnapshot with
    | none =>
      rw [hlast] at hdetects
      contradiction
    | some last =>
      rw [hlast] at hdetects
      rw [hdetects]
      simp

/-- Where a change is detected, and only there, it goes to the streams. -/
theorem moves_compare (s : State) (i now : ℕ) (snap : TopologySnapshot) :
    Moves s.view
      { s with
        sync := { s.sync with inFlight := s.sync.inFlight.eraseIdx i }.compare snap now
        streams :=
          if (s.sync.state.compare snap now).2.length > 0 then
            broadcastTopologyChange (s.sync.state.compare snap now).2 s.streams
          else s.streams }.view := by
  have hdetections := detections_compare { s.sync with inFlight := s.sync.inFlight.eraseIdx i } snap now
  dsimp only [State.view, State.detections]
  rw [hdetections]
  dsimp only
  by_cases hnone : (s.sync.state.compare snap now).2 = []
  · rw [if_pos hnone, List.append_nil, hnone, if_neg (by decide)]
    exact .same
  · rw [if_neg hnone, if_pos (List.length_pos_iff.mpr hnone)]
    exact Moves.detects (v := s.view) _

/-- The server's handlers answer from the sync state and touch no stream. -/
theorem view_serve {s t : State} {r : ℕ} {request : Request} (h : Serves s r request t) :
    t.view = s.view := by
  cases h with
  | passiveMode p => rfl
  | syncStatus p => rfl
  | dismiss p => rfl

/-- Of the answers only that of the passive mode can open or close a stream. -/
theorem moves_answer {s t : State} {request : Request} (h : Answers s request t) :
    Moves s.view t.view := by
  cases h with
  | passiveMode p enabled status =>
    have hpage : (s.modifyPage p fun page => { page with passiveMode := enabled }).view = s.view :=
      view_modifyPage s p fun _ => by rfl
    unfold State.loadPassiveModeConfig
    dsimp only
    rw [view_takeStatus, ← hpage]
    split
    · exact moves_connectTopologyEvents _ p
    · exact .same
  | syncStatus p status =>
    rw [view_takeStatus]
    exact .same
  | dismiss p => exact .same

/-- **A step, as the view sees it.** -/
theorem moves_of_step {s t : State} {a : Label} (h : step s a = some t) : Moves s.view t.view := by
  cases step_cases h with
  | take connected topology f sync hstate hbroadcasts =>
    have hview : { s with sync := sync }.view = s.view := by
      simp only [State.view, State.detections, hbroadcasts]
    rw [hview]
    exact .same
  | compare i now snap hsnap => exact moves_compare s i now snap
  | save enabled => exact .same
  | load =>
    have hlinks : (s.pages ++ [Page.new]).map Page.link = s.view.links ++ [(none, [])] :=
      List.map_append
    show Moves s.view ⟨s.streams, s.detections, (s.pages ++ [Page.new]).map Page.link⟩
    rw [hlinks]
    exact .loads
  | setStatusBadge p status =>
    rw [view_modifyPage s p fun _ => by rfl]
    exact .same
  | loadPassiveModeConfig p => exact .same
  | refreshSyncStatus p => exact .same
  | toggled p enabled =>
    have hpage := view_modifyPage (f := fun page => { page with passiveMode := enabled })
      s p fun _ => rfl
    unfold State.toggled
    dsimp only
    split
    · rw [← hpage]
      exact moves_connectTopologyEvents _ p
    · rw [view_modifyPage_of (g := fun link => (none, link.2)) _ p fun _ => by rfl, hpage]
      exact .closes p
  | timer p page hpage =>
    have hview := view_modifyPage (f := fun page => { page with timers := page.timers - 1 })
      s p fun _ => rfl
    rw [← hview]
    exact moves_connectTopologyEvents _ p
  | onerror p page hpage =>
    rw [view_modifyPage_of (g := fun link => (none, link.2)) _ p fun _ => by rfl]
    exact .closes p
  | button p page hpage hmodal =>
    rw [view_dismissChanges, view_modifyPage s p fun _ => by rfl]
    exact .same
  | register i stream hstream hsince => exact Moves.registers (v := s.view) i stream hstream hsince
  | unregister i stream hstream hregistered =>
    exact Moves.unregisters (v := s.view) i stream hstream hregistered
  | write i stream changes channel hstream hregistered htake =>
    exact Moves.writes (v := s.view) i stream changes channel hstream htake
  | onmessage i p since till channel changes sent received page hstream hpage hsource =>
    rw [view_onTopologyChange]
    have hlink : s.view.links[p]? = some (some i, page.heard) := by
      show (s.pages.map Page.link)[p]? = _
      rw [List.getElem?_map, hpage, Option.map_some, Page.link, hsource]
    have hpages := view_modifyPage_of (f := fun page => { page with heard := page.heard ++ [changes] })
      (g := fun link => (link.1, link.2 ++ [changes])) s p fun _ => rfl
    have hview : { s.modifyPage p fun page => { page with heard := page.heard ++ [changes] } with
        streams := s.streams.set i ⟨p, since, till, channel, sent, received ++ [changes]⟩ }.view =
        { s.view with
          streams := s.view.streams.set i ⟨p, since, till, channel, sent, received ++ [changes]⟩
          links := s.view.links.modify p fun link => (link.1, link.2 ++ [changes]) } :=
      congrArg (fun v : View => { v with
        streams := s.streams.set i ⟨p, since, till, channel, sent, received ++ [changes]⟩ }) hpages
    rw [hview]
    exact .receives i p since till channel changes sent received page.heard hstream hlink
  | serve r request t hrequest hserve =>
    rw [view_serve (serve_cases hserve)]
    exact .same
  | answer r request t hrequest hanswer =>
    exact moves_answer (s := { s with requests := s.requests.eraseIdx r }) (answer_cases hanswer)
  | fail r request hrequest =>
    cases request with
    | passiveMode p answer => exact .same
    | syncStatus p answer => exact .same
    | dismiss p answered => exact .same

/-! ## Order -/

/-- What was detected while the server had the channel. -/
def Stream.window (detections : List (List String)) (stream : Stream) : List (List String) :=
  match stream.since with
  | none => []
  | some lo => stretch lo (stream.till.getD detections.length) detections

/-- The stream carries what was detected while the server had its channel. -/
structure Stream.Faithful (detections : List (List String)) (stream : Stream) : Prop where
  lawful : stream.channel.Lawful 8
  taken : stream.channel.taken = stream.received ++ stream.sent
  offered : stream.channel.offered.map Prod.fst = stream.window detections
  since : ∀ lo, stream.since = some lo → lo ≤ detections.length
  till : ∀ hi, stream.till = some hi → hi ≤ detections.length

variable {detections : List (List String)} {stream : Stream}

/-- A stream that is not registered yet has been sent nothing. -/
theorem faithful_connecting (p : ℕ) : (Stream.connecting p).Faithful detections where
  lawful := Queue.lawful_empty 8
  taken := rfl
  offered := rfl
  since _ h := nomatch h
  till _ h := nomatch h

/-- What the stream has carried so far was detected since the server took up the channel. -/
theorem Stream.Faithful.carried (h : stream.Faithful detections) :
    (stream.received ++ stream.sent).Sublist
      (detections.drop (stream.since.getD detections.length)) := by
  have hkept : (stream.received ++ stream.sent).Sublist (stream.window detections) := by
    rw [← h.taken, ← h.offered]
    refine List.Sublist.trans ?_ (Queue.kept_sublist 8 _)
    rw [← h.lawful.fifo]
    exact List.sublist_append_left _ _
  refine hkept.trans ?_
  unfold Stream.window
  cases stream.since with
  | none => exact List.nil_sublist _
  | some lo => exact (List.take_sublist _ _).drop lo

/-- From the registration on the channel takes what is detected. -/
theorem Stream.Faithful.register (h : stream.Faithful detections) (hsince : stream.since = none) :
    Stream.Faithful detections { stream with since := some detections.length } where
  lawful := h.lawful
  taken := h.taken
  offered := by
    have hnone : stream.window detections = [] := by rw [Stream.window, hsince]
    rw [h.offered, hnone]
    exact (List.drop_eq_nil_of_le (List.take_sublist _ _).length_le).symm
  since lo hlo := (Option.some.inj hlo) ▸ Nat.le_refl _
  till := h.till

/-- With the end of the handler it stops. -/
theorem Stream.Faithful.unregister (h : stream.Faithful detections)
    (hregistered : stream.registered = true) :
    Stream.Faithful detections { stream with till := some detections.length } where
  lawful := h.lawful
  taken := h.taken
  offered := by
    rw [Stream.registered, Bool.and_eq_true, Option.isNone_iff_eq_none] at hregistered
    rw [h.offered, Stream.window, Stream.window, hregistered.2]
    rfl
  since := h.since
  till hi hhi := (Option.some.inj hhi) ▸ Nat.le_refl _

/-- A notice goes from the channel to the wire, so none changes its place. -/
theorem Stream.Faithful.write (h : stream.Faithful detections) {changes : List String}
    {channel : Queue (List String)} (htake : stream.channel.take = some (changes, channel)) :
    Stream.Faithful detections { stream with channel, sent := stream.sent ++ [changes] } := by
  obtain ⟨-, htaken, hoffered⟩ := Queue.take_eq_some htake
  exact {
    lawful := h.lawful.take htake
    taken := by rw [htaken, h.taken, List.append_assoc]
    offered := by
      rw [hoffered]
      exact h.offered
    since := h.since
    till := h.till }

/-- A stretch to the end grows by what is detected. -/
theorem stretch_concat {lo : ℕ} (changes : List String) (h : lo ≤ detections.length) :
    stretch lo (detections ++ [changes]).length (detections ++ [changes]) =
      stretch lo detections.length detections ++ [changes] := by
  rw [stretch, stretch, List.take_length, List.take_length, List.drop_append_of_le_length h]

/-- A change is detected. -/
theorem Stream.Faithful.detect (h : stream.Faithful detections) (changes : List String) :
    Stream.Faithful (detections ++ [changes])
      (if stream.registered then { stream with channel := stream.channel.offer 8 changes }
        else stream) := by
  have hlength : detections.length ≤ (detections ++ [changes]).length := by simp
  by_cases hregistered : stream.registered = true
  · rw [if_pos hregistered]
    rw [Stream.registered, Bool.and_eq_true, Option.isNone_iff_eq_none,
      Option.isSome_iff_exists] at hregistered
    obtain ⟨⟨lo, hlo⟩, htill⟩ := hregistered
    exact {
      lawful := h.lawful.offer changes
      taken := h.taken
      offered := by
        rw [Queue.offer_offered, List.map_append, h.offered, Stream.window, Stream.window, hlo, htill]
        exact (stretch_concat changes (h.since lo hlo)).symm
      since := fun lo hlo => (h.since lo hlo).trans hlength
      till := fun hi hhi => (h.till hi hhi).trans hlength }
  · rw [if_neg hregistered]
    exact {
      lawful := h.lawful
      taken := h.taken
      offered := by
        rw [h.offered, Stream.window, Stream.window]
        cases hsince : stream.since with
        | none => rfl
        | some lo =>
          cases htill : stream.till with
          | none => exact absurd (by rw [Stream.registered, hsince, htill]; rfl) hregistered
          | some hi =>
            show stretch lo hi detections = stretch lo hi (detections ++ [changes])
            rw [stretch, stretch, List.take_append_of_le_length (h.till hi htill)]
      since := fun lo hlo => (h.since lo hlo).trans hlength
      till := fun hi hhi => (h.till hi hhi).trans hlength }

/-- The streams are faithful, and a page heard what was detected before its stream and what came over
    it. -/
structure View.Linked (v : View) : Prop where
  faithful : ∀ stream ∈ v.streams, stream.Faithful v.detections
  heard : ∀ (p : ℕ) link, v.links[p]? = some link → link.2.Sublist v.detections
  source : ∀ (p i : ℕ) heard, v.links[p]? = some (some i, heard) →
    ∃ stream before, v.streams[i]? = some stream ∧ stream.page = p ∧
      heard = before ++ stream.received ∧
        before.Sublist (v.detections.take (stream.since.getD v.detections.length))

theorem linked_init : init.view.Linked where
  faithful _ h := nomatch h
  heard _ _ h := nomatch h
  source _ _ _ h := nomatch h

/-- What is at a place after a change in place. -/
theorem lookup_modify {α : Type*} {l : List α} {f : α → α} {p q : ℕ} {x : α}
    (h : (l.modify p f)[q]? = some x) : ∃ y, l[q]? = some y ∧ x = if p = q then f y else y := by
  rw [List.getElem?_modify, Option.map_eq_map, Option.map_eq_some_iff] at h
  obtain ⟨y, hy, hx⟩ := h
  exact ⟨y, hy, hx.symm⟩

/-- A stream goes on, as far as its page sees. -/
theorem View.Linked.set {v : View} (h : v.Linked) {i : ℕ} {stream new : Stream}
    (hstream : v.streams[i]? = some stream) (hnew : new.Faithful v.detections)
    (hpage : new.page = stream.page) (hreceived : new.received = stream.received)
    (hsince : new.since.getD v.detections.length = stream.since.getD v.detections.length) :
    View.Linked { v with streams := v.streams.set i new } where
  faithful x hx := by
    rcases List.mem_or_eq_of_mem_set hx with hx | rfl
    · exact h.faithful x hx
    · exact hnew
  heard := h.heard
  source p j heard hlink := by
    obtain ⟨old, before, hold, hp, hheard, hbefore⟩ := h.source p j heard hlink
    by_cases hij : j = i
    · subst hij
      obtain rfl := Option.some.inj (hold.symm.trans hstream)
      exact ⟨new, before, Objects.set_self hold, hpage.trans hp, hreceived ▸ hheard, hsince ▸ hbefore⟩
    · exact ⟨old, before, Objects.set_kept hij hold, hp, hheard, hbefore⟩

/-- A new stream is the page's own, and nothing was heard of it. -/
theorem View.Linked.connect {v : View} (h : v.Linked) (p : ℕ) :
    View.Linked
      { v with
        streams := v.streams ++ [.connecting p]
        links := v.links.modify p fun link => (some v.streams.length, link.2) } where
  faithful x hx := by
    rcases List.mem_append.mp hx with hx | hx
    · exact h.faithful x hx
    · obtain rfl := List.mem_singleton.mp hx
      exact faithful_connecting p
  heard q link hq := by
    obtain ⟨old, hold, rfl⟩ := lookup_modify hq
    split
    · exact h.heard q old hold
    · exact h.heard q old hold
  source q i heard' hq := by
    obtain ⟨old, hold, hnew⟩ := lookup_modify hq
    split at hnew
    · rename_i hpq
      subst hpq
      cases hnew
      refine ⟨.connecting p, old.2, List.getElem?_concat_length, rfl, (List.append_nil _).symm, ?_⟩
      show old.2.Sublist (v.detections.take v.detections.length)
      rw [List.take_length]
      exact h.heard p old hold
    · subst hnew
      obtain ⟨stream, before, hstream, hrest⟩ := h.source q i heard' hold
      exact ⟨stream, before, Objects.append_kept hstream _, hrest⟩

/-- The page hears the first of what is on the wire. -/
theorem View.Linked.receive {v : View} (h : v.Linked) {i p : ℕ} {stream : Stream}
    {changes : List String} {sent heard : List (List String)} (hstream : v.streams[i]? = some stream)
    (hpage : stream.page = p) (hsent : stream.sent = changes :: sent)
    (hlink : v.links[p]? = some (some i, heard)) :
    View.Linked
      { v with
        streams := v.streams.set i { stream with sent, received := stream.received ++ [changes] }
        links := v.links.modify p fun link => (link.1, link.2 ++ [changes]) } := by
  have hfaithful := h.faithful stream (List.mem_of_getElem? hstream)
  have htaken : stream.channel.taken = stream.received ++ [changes] ++ sent := by
    rw [hfaithful.taken, hsent, List.append_assoc]
    rfl
  obtain ⟨stream', before, hstream', -, hheard, hbefore⟩ := h.source p i heard hlink
  obtain rfl := Option.some.inj (hstream.symm.trans hstream')
  -- what the page heard, with the new message
  have hall : (heard ++ [changes]).Sublist v.detections := by
    have hcarried := hfaithful.carried
    rw [← hfaithful.taken, htaken] at hcarried
    have hboth := hbefore.append ((List.sublist_append_left _ _).trans hcarried)
    rwa [List.take_append_drop, ← List.append_assoc, ← hheard] at hboth
  refine ⟨fun x hx => ?_, fun q link hq => ?_, fun q j heard' hq => ?_⟩
  · rcases List.mem_or_eq_of_mem_set hx with hx | rfl
    · exact h.faithful x hx
    · exact ⟨hfaithful.lawful, htaken, hfaithful.offered, hfaithful.since, hfaithful.till⟩
  · obtain ⟨old, hold, rfl⟩ := lookup_modify hq
    split
    · rename_i hpq
      subst hpq
      obtain rfl := Option.some.inj (hold.symm.trans hlink)
      exact hall
    · exact h.heard q old hold
  · obtain ⟨old, hold, hnew⟩ := lookup_modify hq
    split at hnew
    · rename_i hpq
      subst hpq
      obtain rfl := Option.some.inj (hold.symm.trans hlink)
      cases hnew
      refine ⟨_, before, Objects.set_self hstream, hpage, ?_, hbefore⟩
      rw [hheard, List.append_assoc]
    · rename_i hpq
      subst hnew
      obtain ⟨other, before', hother, hq', hrest⟩ := h.source q j heard' hold
      -- a stream belongs to one page
      have hij : j ≠ i := by
        rintro rfl
        obtain rfl := Option.some.inj (hstream.symm.trans hother)
        exact hpq (hpage.symm.trans hq')
      exact ⟨other, before', Objects.set_kept hij hother, hq', hrest⟩

/-- Every registered stream is offered what is detected, at the end. -/
theorem View.Linked.detect {v : View} (h : v.Linked) (changes : List String) :
    View.Linked
      { v with
        streams := broadcastTopologyChange changes v.streams
        detections := v.detections ++ [changes] } where
  faithful x hx := by
    obtain ⟨stream, hstream, rfl⟩ := List.mem_map.mp hx
    exact (h.faithful stream hstream).detect changes
  heard p link hlink := (h.heard p link hlink).trans (List.sublist_append_left _ _)
  source p i heard hlink := by
    obtain ⟨stream, before, hstream, hp, hheard, hbefore⟩ := h.source p i heard hlink
    have hsome : (broadcastTopologyChange changes v.streams)[i]? =
        some (if stream.registered then { stream with channel := stream.channel.offer 8 changes }
          else stream) := by
      rw [broadcastTopologyChange, List.getElem?_map, hstream]
      rfl
    refine ⟨_, before, hsome, ?_, ?_, hbefore.trans ?_⟩
    · split
      · exact hp
      · exact hp
    · split
      · exact hheard
      · exact hheard
    · have hsince : (if stream.registered then { stream with channel := stream.channel.offer 8 changes }
          else stream).since = stream.since := by
        split
        · rfl
        · rfl
      rw [hsince]
      cases stream.since with
      | none =>
        show (v.detections.take v.detections.length).Sublist
          ((v.detections ++ [changes]).take (v.detections ++ [changes]).length)
        rw [List.take_length, List.take_length]
        exact List.sublist_append_left _ _
      | some lo =>
        show (v.detections.take lo).Sublist ((v.detections ++ [changes]).take lo)
        rw [List.take_append]
        exact List.sublist_append_left _ _

/-- **One step**, one case for each move. -/
theorem View.Linked.step {v w : View} (h : v.Linked) (hmoves : Moves v w) : w.Linked := by
  cases hmoves with
  | same => exact h
  | loads =>
    refine ⟨h.faithful, fun p link hlink => ?_, fun p i heard hlink => ?_⟩
    · rcases Objects.lookup_append.mp hlink with hold | ⟨-, rfl⟩
      · exact h.heard p link hold
      · exact List.nil_sublist _
    · rcases Objects.lookup_append.mp hlink with hold | ⟨-, hnew⟩
      · exact h.source p i heard hold
      · cases hnew
  | connects p heard hlink => exact h.connect p
  | closes p =>
    refine ⟨h.faithful, fun q link hlink => ?_, fun q i heard hlink => ?_⟩
    · obtain ⟨old, hold, rfl⟩ := lookup_modify hlink
      split
      · exact h.heard q old hold
      · exact h.heard q old hold
    · obtain ⟨old, hold, hnew⟩ := lookup_modify hlink
      split at hnew
      · cases hnew
      · exact h.source q i heard (hnew ▸ hold)
  | registers i stream hstream hsince =>
    have hfaithful := h.faithful stream (List.mem_of_getElem? hstream)
    exact h.set hstream (hfaithful.register hsince) rfl rfl (by rw [hsince]; rfl)
  | unregisters i stream hstream hregistered =>
    have hfaithful := h.faithful stream (List.mem_of_getElem? hstream)
    exact h.set hstream (hfaithful.unregister hregistered) rfl rfl rfl
  | writes i stream changes channel hstream htake =>
    have hfaithful := h.faithful stream (List.mem_of_getElem? hstream)
    exact h.set hstream (hfaithful.write htake) rfl rfl rfl
  | receives i p since till channel changes sent received heard hstream hlink =>
    exact h.receive hstream rfl rfl hlink
  | detects changes => exact h.detect changes

/-! ## What is shown -/

/-- The changes that an answer reports. -/
def SyncStatus.changes (status : SyncStatus) : Option (List String) :=
  if status.pendingChanges then some status.changesSummary else none

/-- A status names changes exactly if it reports some. -/
theorem changes_eq_some {status : SyncStatus} {c : List String} :
    status.changes = some c ↔ status.pendingChanges = true ∧ status.changesSummary = c := by
  rw [SyncStatus.changes, Option.ite_none_right_eq_some, Option.some_inj]

/-- The changes an answer on its way to a page reports. -/
def Request.changes : Request → Option (List String)
  | .passiveMode _ answer => answer.bind fun answer => answer.2.changes
  | .syncStatus _ answer => answer.bind SyncStatus.changes
  | .dismiss _ _ => none

/-- The changes are pending, reported by an answer under way, or in the dialog of a page. -/
def State.Shows (s : State) (c : List String) : Prop :=
  s.syncStatus.changes = some c ∨ (∃ request ∈ s.requests, request.changes = some c) ∨
    ∃ page ∈ s.pages, page.modal = some c

variable {s : State} {c : List String}

/-- A modal that shows changes showed them before, or the change of the page put them there. -/
theorem shows_modifyPage {f : Page → Page} {p : ℕ} {P : Prop} (h : (s.modifyPage p f).Shows c)
    (hf : ∀ page, (f page).modal = some c → page.modal = some c ∨ P) : s.Shows c ∨ P := by
  rcases h with hpending | hrequest | ⟨page, hpage, hmodal⟩
  · exact .inl (.inl hpending)
  · exact .inl (.inr (.inl hrequest))
  · rcases Objects.mem_of_mem_modify hpage with hold | ⟨old, hold, rfl⟩
    · exact .inl (.inr (.inr ⟨page, hold, hmodal⟩))
    · exact (hf old hmodal).imp_left fun hmodal => .inr (.inr ⟨old, hold, hmodal⟩)

theorem shows_modifyPage_kept {f : Page → Page} {p : ℕ} (h : (s.modifyPage p f).Shows c)
    (hf : ∀ page, (f page).modal = page.modal) : s.Shows c :=
  (shows_modifyPage (P := False) h fun page hmodal => .inl (hf page ▸ hmodal)).resolve_right id

/-- The requests are answered later. -/
theorem shows_requests (more : List Request) (h : { s with requests := s.requests ++ more }.Shows c)
    (hmore : ∀ request ∈ more, request.changes = none) : s.Shows c := by
  rcases h with hpending | ⟨request, hrequest, hchanges⟩ | hmodal
  · exact .inl hpending
  · rcases List.mem_append.mp hrequest with hold | hnew
    · exact .inr (.inl ⟨request, hold, hchanges⟩)
    · rw [hmore request hnew] at hchanges
      cases hchanges
  · exact .inr (.inr hmodal)

theorem shows_dismissChanges {p : ℕ} (h : (s.dismissChanges p).Shows c) : s.Shows c := by
  have hpage : (s.modifyPage p fun page =>
      { page with pendingTopologyChange := false, changesSummary := [] }).Shows c := by
    refine shows_requests [.dismiss p false] h fun request hrequest => ?_
    rw [List.mem_singleton.mp hrequest]
    rfl
  exact shows_modifyPage_kept hpage fun _ => rfl

theorem shows_refreshSyncStatus {p : ℕ} (h : (s.refreshSyncStatus p).Shows c) : s.Shows c := by
  refine shows_requests [.syncStatus p none] h fun request hrequest => ?_
  rw [List.mem_singleton.mp hrequest]
  rfl

/-- A notice shows the changes it is about. -/
theorem shows_onTopologyChange {p : ℕ} {changes : List String}
    (h : (s.onTopologyChange p changes).Shows c) : s.Shows c ∨ c = changes := by
  unfold State.onTopologyChange at h
  split at h
  · exact .inl h
  · split at h
    · exact shows_modifyPage (f := fun page => { page with modal := some changes }) h
        fun page hmodal => .inr (Option.some.inj hmodal).symm
    · have hpage : ((s.dismissChanges p).refreshSyncStatus p).Shows c := h
      exact .inl (shows_dismissChanges (shows_refreshSyncStatus hpage))

/-- A status shows the changes it reports. -/
theorem shows_takeStatus {p : ℕ} {status : SyncStatus} (h : (s.takeStatus p status).Shows c) :
    s.Shows c ∨ status.changes = some c := by
  have hpage : ∀ h : (s.modifyPage p fun page =>
      { page with
        pendingTopologyChange := status.pendingChanges
        changesSummary := status.changesSummary }).Shows c, s.Shows c :=
    fun h => shows_modifyPage_kept h fun _ => rfl
  unfold State.takeStatus at h
  dsimp only at h
  split at h
  · rename_i hchanges
    rw [Bool.and_eq_true] at hchanges
    rcases shows_onTopologyChange h with h | rfl
    · exact .inl (hpage h)
    · exact .inr (changes_eq_some.mpr ⟨hchanges.1, rfl⟩)
  · exact .inl (hpage h)

theorem shows_connectTopologyEvents {p : ℕ} (h : (s.connectTopologyEvents p).Shows c) :
    s.Shows c := by
  unfold State.connectTopologyEvents at h
  split at h
  · exact h
  · split at h
    · exact h
    · exact shows_modifyPage_kept
        (f := fun page => { page with sseSource := some s.streams.length }) h fun _ => rfl

/-- What an answer that has come shows was reported by it, or shown before. -/
theorem shows_answer {t : State} {request : Request} (h : Answers s request t) (hc : t.Shows c) :
    s.Shows c ∨ request.changes = some c := by
  cases h with
  | passiveMode p enabled status =>
    unfold State.loadPassiveModeConfig at hc
    dsimp only at hc
    have hpage : ∀ hc : (s.modifyPage p fun page => { page with passiveMode := enabled }).Shows c,
        s.Shows c :=
      fun hc => shows_modifyPage_kept hc fun _ => rfl
    refine (shows_takeStatus hc).imp_left fun hc => ?_
    split at hc
    · exact hpage (shows_connectTopologyEvents hc)
    · exact hpage hc
  | syncStatus p status => exact shows_takeStatus hc
  | dismiss p => exact .inl (shows_refreshSyncStatus hc)

/-- An answer reports what is pending. -/
theorem shows_serve {t : State} {r : ℕ} {request : Request} (h : Serves s r request t)
    (hc : t.Shows c) : s.Shows c := by
  have hset : ∀ {new : Request} {reported : ℕ}, new.changes = s.syncStatus.changes →
      { s with requests := s.requests.set r new, reported }.Shows c → s.Shows c := by
    intro new reported hnew hc
    rcases hc with hpending | ⟨other, hother, hchanges⟩ | hmodal
    · exact .inl hpending
    · rcases List.mem_or_eq_of_mem_set hother with hold | rfl
      · exact .inr (.inl ⟨other, hold, hchanges⟩)
      · exact .inl (hnew ▸ hchanges)
    · exact .inr (.inr hmodal)
  cases h with
  | passiveMode p => exact hset rfl hc
  | syncStatus p => exact hset rfl hc
  | dismiss p =>
    rcases hc with hpending | ⟨other, hother, hchanges⟩ | hmodal
    · cases hpending
    · rcases List.mem_or_eq_of_mem_set hother with hold | rfl
      · exact .inr (.inl ⟨other, hold, hchanges⟩)
      · cases hchanges
    · exact .inr (.inr hmodal)

/-- What is shown was detected. -/
def Shown (s : State) : Prop := ∀ c, s.Shows c → c ∈ s.detections

theorem shown_init : Shown init := by
  rintro c (hpending | ⟨request, hrequest, -⟩ | ⟨page, hpage, -⟩)
  · cases hpending
  · cases hrequest
  · cases hpage

/-- What was detected stays detected. -/
theorem detections_kept {v w : View} (h : Moves v w) : v.detections ⊆ w.detections := by
  cases h with
  | detects changes => exact List.subset_append_left _ _
  | _ => exact List.Subset.refl _

/-- What is pending after a comparison was pending before, or is what it detects. -/
theorem pending_compare (sync : System) (snap : TopologySnapshot) (now : ℕ)
    (hpending : (sync.compare snap now).state.pendingChanges = true) :
    (sync.state.pendingChanges = true ∧
      (sync.compare snap now).state.changesSummary = sync.state.changesSummary) ∨
      (sync.compare snap now).state.changesSummary ∈
        (sync.compare snap now).broadcasts.map fun c => compareSnapshots c.1 c.2 := by
  have hstate : (sync.compare snap now).state = _ := PassiveSync.compare_state sync.state snap now
  rw [detections_compare, hstate]
  rw [hstate] at hpending
  dsimp only at hpending ⊢
  by_cases hnone : (sync.state.compare snap now).2 = []
  · refine .inl ⟨?_, if_pos hnone⟩
    rw [hnone] at hpending
    simpa using hpending
  · rw [if_neg hnone, if_neg hnone]
    exact .inr (List.mem_append_right _ (List.mem_singleton_self _))

/-- What comes to be shown was shown before, or has been detected. -/
theorem shows_step {t : State} {a : Label} (hlinked : s.view.Linked) (h : step s a = some t)
    (hc : t.Shows c) : s.Shows c ∨ c ∈ t.detections := by
  have hkept := detections_kept (moves_of_step h)
  cases step_cases h with
  | take connected topology f sync hstate hbroadcasts =>
    rw [State.Shows, State.syncStatus, hstate] at hc
    exact .inl hc
  | compare i now snap hsnap =>
    rcases hc with hpending | hrest
    · obtain ⟨hchanges, rfl⟩ := changes_eq_some.mp hpending
      rcases pending_compare { s.sync with inFlight := s.sync.inFlight.eraseIdx i } snap now
        hchanges with ⟨hold, hsame⟩ | hnew
      · exact .inl (.inl (changes_eq_some.mpr ⟨hold, hsame.symm⟩))
      · exact .inr hnew
    · exact .inl (.inr hrest)
  | save enabled => exact .inl hc
  | load =>
    rcases hc with hpending | hrequest | ⟨page, hpage, hmodal⟩
    · exact .inl (.inl hpending)
    · exact .inl (.inr (.inl hrequest))
    · rcases List.mem_append.mp hpage with hold | hnew
      · exact .inl (.inr (.inr ⟨page, hold, hmodal⟩))
      · rw [List.mem_singleton.mp hnew] at hmodal
        cases hmodal
  | setStatusBadge p status => exact .inl (shows_modifyPage_kept hc fun _ => by rfl)
  | loadPassiveModeConfig p =>
    refine .inl (shows_requests [.passiveMode p none] hc fun request hrequest => ?_)
    rw [List.mem_singleton.mp hrequest]
    rfl
  | refreshSyncStatus p => exact .inl (shows_refreshSyncStatus hc)
  | toggled p enabled =>
    unfold State.toggled at hc
    dsimp only at hc
    refine .inl (shows_modifyPage_kept (p := p) (f := fun page => { page with passiveMode := enabled })
      ?_ fun _ => rfl)
    split at hc
    · exact shows_connectTopologyEvents hc
    · exact shows_modifyPage_kept hc fun _ => by rfl
  | timer p page hpage =>
    have hpage := shows_connectTopologyEvents hc
    exact .inl (shows_modifyPage_kept hpage fun _ => by rfl)
  | onerror p page hpage => exact .inl (shows_modifyPage_kept hc fun _ => by rfl)
  | button p page hpage hmodal =>
    have hpage := shows_dismissChanges hc
    refine .inl ((shows_modifyPage (P := False) hpage fun page hmodal => ?_).resolve_right id)
    cases hmodal
  | register i stream hstream hsince => exact .inl hc
  | unregister i stream hstream hregistered => exact .inl hc
  | write i stream changes channel hstream hregistered htake => exact .inl hc
  | onmessage i p since till channel changes sent received page hstream hpage hsource =>
    rcases shows_onTopologyChange hc with hold | rfl
    · exact .inl (shows_modifyPage_kept
        (f := fun page => { page with heard := page.heard ++ [changes] }) hold fun _ => rfl)
    · -- the message was on its way
      have hfaithful := hlinked.faithful _ (List.mem_of_getElem? hstream)
      have hmem : c ∈ received ++ c :: sent := List.mem_append_right _ List.mem_cons_self
      exact .inr (hkept (List.mem_of_mem_drop (hfaithful.carried.subset hmem)))
  | serve r request t hrequest hserve => exact .inl (shows_serve (serve_cases hserve) hc)
  | answer r request t hrequest hanswer =>
    rcases shows_answer (answer_cases hanswer) hc with hold | hchanges
    · refine .inl (hold.imp_right (Or.imp_left fun ⟨other, hother, hchanges⟩ => ?_))
      exact ⟨other, List.mem_of_mem_eraseIdx hother, hchanges⟩
    · exact .inl (.inr (.inl ⟨request, List.mem_of_getElem? hrequest, hchanges⟩))
  | fail r request hrequest =>
    have hold : { s with requests := s.requests.eraseIdx r }.Shows c := by
      cases request with
      | passiveMode p answer => exact hc
      | syncStatus p answer => exact hc
      | dismiss p answered =>
        exact shows_refreshSyncStatus (s := { s with
          requests := s.requests.eraseIdx r
          failed := if answered then s.failed else s.failed ++ [p] }) hc
    refine .inl (hold.imp_right (Or.imp_left fun ⟨other, hother, hchanges⟩ => ?_))
    exact ⟨other, List.mem_of_mem_eraseIdx hother, hchanges⟩

/-- **One step** shows nothing that was not detected. -/
theorem shown_step {t : State} {a : Label} (hshown : Shown s) (hlinked : s.view.Linked)
    (h : step s a = some t) : Shown t := by
  intro c hc
  rcases shows_step hlinked h hc with hold | hnew
  · exact detections_kept (moves_of_step h) (hshown c hold)
  · exact hnew

/-- **The order of the notices**: in every run a stream carries, in order and each once, what was
    detected while the server had its channel, but for what met eight messages waiting.  Whatever
    streams a page had, it heard of no change twice and of none before an earlier one; and what its
    dialog shows has been detected. -/
theorem notices_in_order {as : List Label} {s : State} (h : exec step init as = some s) :
    (∀ stream ∈ s.streams,
      stream.channel.offered.map Prod.fst = stream.window s.detections ∧
        stream.received ++ stream.sent ++ stream.channel.waiting =
          Queue.kept 8 stream.channel.offered ∧
        stream.channel.waiting.length ≤ 8) ∧
      ∀ page ∈ s.pages,
        page.heard.Sublist s.detections ∧
          (∀ i, page.sseSource = some i → ∃ stream before,
            s.streams[i]? = some stream ∧ page.heard = before ++ stream.received) ∧
          ∀ changes, page.modal = some changes → changes ∈ s.detections := by
  have hboth : s.view.Linked ∧ Shown s :=
    exec_invariant (I := fun s => s.view.Linked ∧ Shown s)
      (fun _ _ _ hinv hs => ⟨hinv.1.step (moves_of_step hs), shown_step hinv.2 hinv.1 hs⟩)
      ⟨linked_init, shown_init⟩ h
  obtain ⟨hlinked, hshown⟩ := hboth
  refine ⟨fun stream hstream => ?_, fun page hpage => ⟨?_, fun i hi => ?_, fun changes hmodal => ?_⟩⟩
  · have hfaithful := hlinked.faithful stream hstream
    refine ⟨hfaithful.offered, ?_, hfaithful.lawful.bound⟩
    rw [← hfaithful.taken]
    exact hfaithful.lawful.fifo
  · obtain ⟨p, hp⟩ := List.mem_iff_getElem?.mp hpage
    exact hlinked.heard p page.link (by rw [State.view, List.getElem?_map, hp]; rfl)
  · obtain ⟨p, hp⟩ := List.mem_iff_getElem?.mp hpage
    have hlink : s.view.links[p]? = some (some i, page.heard) := by
      rw [State.view, List.getElem?_map, hp, Option.map_some, Page.link, hi]
    obtain ⟨stream, before, hstream, -, hheard, -⟩ := hlinked.source p i page.heard hlink
    exact ⟨stream, before, hstream, hheard⟩
  · exact hshown changes (.inr (.inr ⟨page, hpage, hmodal⟩))

/-- A page that runs a simulation, and connects again between two changes. -/
def twoStreams : List Label :=
  exampleRun ++
    [.setStatusBadge 0 .running, .write 0, .onmessage 0, .onerror 0, .timer 0, .register 1,
      .take true (PassiveSync.withGateways []) .none, .compare 0 3, .write 0, .write 1, .onmessage 1]

theorem notices_in_order_twoStreams :
    ∃ s page, exec step init twoStreams = some s ∧ page ∈ s.pages ∧ page.heard = s.detections ∧
      s.detections = [["Yeni gateway eklendi: a"], ["Gateway silindi: a"]] ∧
      page.heard.Sublist s.detections := by
  have hrun : (exec step init twoStreams).map (fun s => (s.detections, s.pages.map Page.heard)) =
      some ([["Yeni gateway eklendi: a"], ["Gateway silindi: a"]],
        [[["Yeni gateway eklendi: a"], ["Gateway silindi: a"]]]) := by
    decide +kernel
  obtain ⟨s, hs, hboth⟩ := Option.map_eq_some_iff.mp hrun
  obtain ⟨hdetections, hpages⟩ := Prod.mk.inj hboth
  obtain ⟨page, hpage, hheard⟩ : ∃ page ∈ s.pages,
      page.heard = [["Yeni gateway eklendi: a"], ["Gateway silindi: a"]] :=
    List.mem_map.mp (hpages ▸ List.mem_singleton_self _)
  exact ⟨s, page, hs, hpage, hheard.trans hdetections.symm, hdetections,
    ((notices_in_order hs).2 page hpage).1⟩

end ChirpStackSimulator.TopologyNotices
