/-
  What becomes of the downlinks for a device (`downlinkEventHandler`, `downlinkLoop`, `downlinkData`).

  A queue of a device holds what its gateways offered while there was room: downlinks of its own
  session, and frames for others, which the device must tell apart by itself.

  1. **Readings** (`Reads`) — a frame is a genuine downlink of the session, or for someone else.
  2. **Sessions** (`Orderly`) — the genuine ones among some frames come with rising counters.
  3. **Handling** — what the downlink loop makes of the frames it has taken (`Handled`), while the uplink
     loop goes on beside it.
  4. **Conservation** (`calls_accounted`) — the calls made and the calls due are those of the genuine
     downlinks that found room, in order and each once; `downlinks_delivered` takes it back to the
     commands, if the handlers do not overlap and the queue was never full.
-/
import ChirpStackSimulator.Coverage

namespace ChirpStackSimulator.Coverage

open LoRaWAN Downlink Transition Buffers
open UplinkLoop (Slot LoopStep newSlot)
open DownlinkLoop (handleFrame handleItem callOf)
open Downstream (DownlinkFrame Gateway Ref)

/-! ## Readings -/

section
variable (lib : Library) (c : Crypto)

/-- The frame is for someone else: its first item is no message, or one of another session. -/
def Foreign (d : Device) (pl : DownlinkFrame) : Prop :=
  ∀ item rest, pl.items = item :: rest → ∀ phy, lib.unmarshalBinary item = .ok phy →
    match phy.mType with
    | .joinAccept => ∀ phy', lib.decryptJoinAcceptPayload d.appKey phy = .ok phy' →
      ∀ nonce, lib.validateDownlinkJoinMIC d.joinEUI nonce d.appKey phy' ≠ .ok true
    | .unconfirmedDataDown | .confirmedDataDown =>
      lib.validateDownlinkDataMIC d.nwkSKey phy ≠ .ok true
    | _ => True

/-- What a frame is to a device: a genuine downlink of its session, with no payload on port 0, or
    none of its business. -/
inductive Reads (d : Device) (pl : DownlinkFrame) : Option ShortDownlink → Prop where
  | genuine (g : ShortDownlink) (item : List UInt8) (rest : List (List UInt8))
      (hitems : pl.items = item :: rest)
      (hdecoded : lib.unmarshalBinary item = .ok (g.1.receivedBy c d))
      (hport : g.1.fPort.getD 0 ≠ 0 ∨ g.1.payload = []) : Reads d pl (some g)
  | foreign (h : Foreign lib d pl) : Reads d pl none

end

section
variable {lib : Library} {c : Crypto} {newCipher : AES128Key → Except String CipherBlock}

/-- A join-accept of another session is dropped, with at most an error. -/
theorem joinAccept_foreign {d : Device} {phy : PHYPayload}
    (h : ∀ phy', lib.decryptJoinAcceptPayload d.appKey phy = .ok phy' →
      lib.validateDownlinkJoinMIC d.joinEUI d.devNonce d.appKey phy' ≠ .ok true) :
    ∃ err, DownlinkLoop.joinAccept lib newCipher d phy = (d, err) := by
  unfold DownlinkLoop.joinAccept
  split
  · exact ⟨_, rfl⟩
  · rename_i phy' hdecrypted
    split
    · exact ⟨none, rfl⟩
    · exact ⟨none, rfl⟩
    · rename_i hvalid
      exact absurd hvalid (h phy' hdecrypted)

/-- So is a data downlink with a MIC of another session. -/
theorem downlinkData_foreign {d : Device} {phy : PHYPayload}
    (h : lib.validateDownlinkDataMIC d.nwkSKey phy ≠ .ok true) :
    downlinkData lib d phy = ⟨d, none, none⟩ := by
  unfold downlinkData
  split
  · rfl
  · rfl
  · rename_i hvalid
    exact absurd hvalid h

/-- **A frame for someone else is dropped without a trace.** -/
theorem handleFrame_foreign {d : Device} {pl : DownlinkFrame} (h : Foreign lib d pl) :
    (handleFrame lib newCipher d pl).device = d ∧ (handleFrame lib newCipher d pl).handled = none := by
  unfold handleFrame
  split
  · exact ⟨rfl, rfl⟩
  · rename_i item rest hitems
    unfold handleItem
    split
    · exact ⟨rfl, rfl⟩
    · rename_i phy hdecoded
      have hphy := h item rest hitems phy hdecoded
      cases htype : phy.mType with
      | joinAccept =>
        rw [htype] at hphy
        obtain ⟨err, herr⟩ := @joinAccept_foreign lib newCipher d phy
          fun phy' hphy' => hphy phy' hphy' d.devNonce
        dsimp only
        rw [herr]
        exact ⟨rfl, rfl⟩
      | unconfirmedDataDown =>
        rw [htype] at hphy
        dsimp only
        rw [downlinkData_foreign hphy]
        exact ⟨rfl, rfl⟩
      | confirmedDataDown =>
        rw [htype] at hphy
        dsimp only
        rw [downlinkData_foreign hphy]
        exact ⟨rfl, rfl⟩
      | _ => exact ⟨rfl, rfl⟩

/-- What a frame is to a device depends on the link alone. -/
theorem Reads.of_link {d d' : Device} {pl : DownlinkFrame} {r : Option ShortDownlink}
    (h : Reads lib c d pl r) (hlink : linkOf d' = linkOf d) : Reads lib c d' pl r := by
  have hjoinEUI : d'.joinEUI = d.joinEUI := congrArg Link.joinEUI hlink
  have happKey : d'.appKey = d.appKey := congrArg Link.appKey hlink
  have happSKey : d'.appSKey = d.appSKey := congrArg Link.appSKey hlink
  have hnwkSKey : d'.nwkSKey = d.nwkSKey := congrArg Link.nwkSKey hlink
  cases h with
  | genuine g item rest hitems hdecoded hport =>
    refine .genuine g item rest hitems ?_ hport
    rw [hdecoded, ServerDownlink.receivedBy, ServerDownlink.receivedBy, hnwkSKey, happSKey]
  | foreign h =>
    refine .foreign ?_
    unfold Foreign
    rw [hjoinEUI, happKey, hnwkSKey]
    exact h

/-! ## Sessions -/

/-- The genuine downlinks among some frames. -/
abbrev genuine (reading : DownlinkFrame → Option ShortDownlink) (pls : List DownlinkFrame) :
    List ShortDownlink := pls.filterMap reading

/-- The calls the handler owes to some frames. -/
def callsFor (reading : DownlinkFrame → Option ShortDownlink) (pls : List DownlinkFrame) :
    List HandlerCall := (genuine reading pls).map callOf

/-- The calls owed to more frames come after. -/
@[simp] theorem callsFor_append (reading : DownlinkFrame → Option ShortDownlink)
    (pls pls' : List DownlinkFrame) :
    callsFor reading (pls ++ pls') = callsFor reading pls ++ callsFor reading pls' := by
  rw [callsFor, genuine, List.filterMap_append, List.map_append]
  rfl

/-- The frames are what `reading` says, and the counters of the genuine ones rise, from the
    device's on. -/
structure Orderly (lib : Library) (c : Crypto) (reading : DownlinkFrame → Option ShortDownlink)
    (d : Device) (pls : List DownlinkFrame) : Prop where
  reads : ∀ pl ∈ pls, Reads lib c d pl (reading pl)
  rising : (genuine reading pls).Pairwise fun g g' => g.1.n.toNat < g'.1.n.toNat
  above : ∀ g ∈ genuine reading pls, d.fCntDown.toNat ≤ g.1.n.toNat

/-- Frames that get lost leave the others in order. -/
theorem Orderly.sublist {reading : DownlinkFrame → Option ShortDownlink} {d : Device}
    {pls pls' : List DownlinkFrame} (h : Orderly lib c reading d pls) (hsub : pls'.Sublist pls) :
    Orderly lib c reading d pls' where
  reads pl hpl := h.reads pl (hsub.subset hpl)
  rising := h.rising.sublist (hsub.filterMap reading)
  above g hg := h.above g ((hsub.filterMap reading).subset hg)

/-! ## Handling -/

/-- What has become of a device since it was `l`: the frames it has taken and was offered, and what
    came of the frames if they are orderly. -/
structure Handled (lib : Library) (c : Crypto) (reading : DownlinkFrame → Option ShortDownlink)
    (l l' : Listener) (frames : List DownlinkFrame) (new : List (DownlinkFrame × Nat)) : Prop where
  taken : l'.queue.taken = l.queue.taken ++ frames
  offered : l'.queue.offered = l.queue.offered ++ new
  calls : Orderly lib c reading l.slot.device frames →
    l'.calls = l.calls ++ callsFor reading frames
  link : Orderly lib c reading l.slot.device frames →
    linkOf l'.slot.device = linkOf l.slot.device
  counter : Orderly lib c reading l.slot.device frames →
    l'.slot.device.fCntDown = l.slot.device.fCntDown ∨
      ∃ g ∈ genuine reading frames, l'.slot.device.fCntDown = g.1.n

/-- Nothing has become of it yet. -/
theorem handled_refl (reading : DownlinkFrame → Option ShortDownlink) (l : Listener) :
    Handled lib c reading l l [] [] where
  taken := (List.append_nil _).symm
  offered := (List.append_nil _).symm
  calls _ := (List.append_nil _).symm
  link _ := rfl
  counter _ := Or.inl rfl

/-- One orderly frame: the counter follows it, and the handler is called if it is genuine. -/
theorem handleFrame_orderly (hlib : Conforms lib c) {reading : DownlinkFrame → Option ShortDownlink}
    {d d' : Device} {frames : List DownlinkFrame} {pl : DownlinkFrame}
    (hhandler : d.downlinkHandlerFunc = true) (hlink : linkOf d' = linkOf d)
    (hcounter : d'.fCntDown = d.fCntDown ∨ ∃ g ∈ genuine reading frames, d'.fCntDown = g.1.n)
    (horderly : Orderly lib c reading d (frames ++ [pl])) :
    (handleFrame lib newCipher d' pl).handled.toList = callsFor reading [pl] ∧
      linkOf (handleFrame lib newCipher d' pl).device = linkOf d' ∧
      ((handleFrame lib newCipher d' pl).device.fCntDown = d'.fCntDown ∨
        ∃ g ∈ genuine reading [pl],
          (handleFrame lib newCipher d' pl).device.fCntDown = g.1.n) := by
  have hreads := (horderly.reads pl (List.mem_append_right frames List.mem_cons_self)).of_link hlink
  have hrising := horderly.rising
  have habove := horderly.above
  rw [genuine, List.filterMap_append] at hrising habove
  have hpl : ∀ r, reading pl = r → genuine reading [pl] = r.toList := by
    intro r hr
    cases r <;> simp [genuine, hr]
  cases hr : reading pl with
  | none =>
    rw [hr] at hreads
    cases hreads with
    | foreign hforeign =>
      obtain ⟨hdevice, hcall⟩ := @handleFrame_foreign lib newCipher d' pl hforeign
      refine ⟨?_, by rw [hdevice], Or.inl (by rw [hdevice])⟩
      rw [hcall, callsFor, hpl none hr]
      rfl
  | some g =>
    rw [hr] at hreads
    have hg : genuine reading [pl] = [g] := hpl (some g) hr
    have hgmem : g ∈ genuine reading [pl] := hg ▸ List.mem_singleton.mpr rfl
    -- the counter the device has is not above the one of the frame
    have hle : d'.fCntDown.toNat ≤ g.1.n.toNat := by
      rcases hcounter with hsame | ⟨g', hg', hlast⟩
      · rw [hsame]
        exact habove g (List.mem_append_right _ hgmem)
      · rw [hlast]
        exact Nat.le_of_lt ((List.pairwise_append.mp hrising).2.2 g' hg' g hgmem)
    have hhandler' : d'.downlinkHandlerFunc = true :=
      (congrArg Link.downlinkHandlerFunc hlink).trans hhandler
    cases hreads with
    | genuine _ item rest hitems hdecoded hport =>
      have hn := g.2
      have hdelivered : Delivered d' g.1 (handleFrame lib newCipher d' pl) := by
        rw [DownlinkLoop.handleFrame_genuine hitems hdecoded]
        exact delivered_of_carried hlib d' hhandler' g.1 hle (by omega) (Or.inl hn) hport
      obtain ⟨hdevice, hcall⟩ := hdelivered
      refine ⟨?_, by rw [hdevice]; rfl, Or.inr ⟨g, hgmem, by rw [hdevice]⟩⟩
      rw [hcall, callsFor, hg]
      rfl

/-- **What a step makes of what was handled.** -/
theorem Handled.moves (hlib : Conforms lib c) {reading : DownlinkFrame → Option ShortDownlink}
    {l l' l'' : Listener} {frames : List DownlinkFrame} {new : List (DownlinkFrame × Nat)}
    (hhandler : l.slot.device.downlinkHandlerFunc = true)
    (h : Handled lib c reading l l' frames new) (hmoves : Moves lib newCipher l' l'') :
    ∃ frames' new', Handled lib c reading l l'' frames' new' := by
  cases hmoves with
  | same => exact ⟨frames, new, h⟩
  | offered pl =>
    refine ⟨frames, new ++ [(pl, l'.queue.waiting.length)], h.taken, ?_, h.calls, h.link, h.counter⟩
    rw [Listener.offer, Queue.offer_offered, h.offered, List.append_assoc]
  | handled pl queue htake =>
    obtain ⟨-, htaken, hoffered⟩ := Queue.take_eq_some htake
    have hframe := fun horderly : Orderly lib c reading l.slot.device (frames ++ [pl]) =>
      have hbefore := horderly.sublist (List.sublist_append_left frames [pl])
      @handleFrame_orderly lib c newCipher hlib reading l.slot.device l'.slot.device frames pl
        hhandler (h.link hbefore) (h.counter hbefore) horderly
    refine ⟨frames ++ [pl], new, ?_, hoffered.trans h.offered, fun horderly => ?_,
      fun horderly => ?_, fun horderly => ?_⟩
    · show queue.taken = _
      rw [htaken, h.taken, List.append_assoc]
    · have hbefore := horderly.sublist (List.sublist_append_left frames [pl])
      show l'.calls ++ (handleFrame lib newCipher l'.slot.device pl).handled.toList = _
      rw [(hframe horderly).1, h.calls hbefore, callsFor_append, List.append_assoc]
    · have hbefore := horderly.sublist (List.sublist_append_left frames [pl])
      exact (hframe horderly).2.1.trans (h.link hbefore)
    · have hbefore := horderly.sublist (List.sublist_append_left frames [pl])
      rw [genuine, List.filterMap_append]
      rcases (hframe horderly).2.2 with hsame | ⟨g, hg, hn⟩
      · rcases h.counter hbefore with hold | ⟨g, hg, hn⟩
        · exact Or.inl (hsame.trans hold)
        · exact Or.inr ⟨g, List.mem_append_left _ hg, hsame.trans hn⟩
      · exact Or.inr ⟨g, List.mem_append_right _ hg, hn⟩
  | left => exact ⟨frames, new, h.taken, h.offered, h.calls, h.link, h.counter⟩
  | uplink a slot ha hslot =>
    obtain ⟨hlink, hcounter⟩ := keepsLink_uplink ha hslot
    refine ⟨frames, new, h.taken, h.offered, h.calls, fun horderly => ?_, fun horderly => ?_⟩
    · exact hlink.trans (h.link horderly)
    · rcases h.counter horderly with hold | ⟨g, hg, hn⟩
      · exact Or.inl (hcounter.trans hold)
      · exact Or.inr ⟨g, hg, hcounter.trans hn⟩

/-! ## Conservation -/

variable {unmarshal : List UInt8 → DownlinkFrame × Option String}

/-- **Every run**, by induction on its steps. -/
theorem handled_run (hlib : Conforms lib c) (reading : DownlinkFrame → Option ShortDownlink)
    {s t : State} {as : List Label} (h : exec (step lib newCipher unmarshal) s as = some t)
    {ref : Ref} {l : Listener} (hl : s.listeners ref = some l)
    (hhandler : l.slot.device.downlinkHandlerFunc = true) :
    ∃ l', t.listeners ref = some l' ∧ ∃ frames new, Handled lib c reading l l' frames new :=
  listener_run (I := fun l' => ∃ frames new, Handled lib c reading l l' frames new)
    (fun _ _ ⟨_, _, hI⟩ hmoves => hI.moves hlib hhandler hmoves) h
    ⟨l, hl, [], [], handled_refl reading l⟩

/-- What was taken and what waits now is what waited then and what was kept since. -/
theorem Handled.fifo {reading : DownlinkFrame → Option ShortDownlink} {l l' : Listener}
    {frames : List DownlinkFrame} {new : List (DownlinkFrame × Nat)}
    (h : Handled lib c reading l l' frames new) (hl : l.queue.Lawful 100)
    (hl' : l'.queue.Lawful 100) :
    frames ++ l'.queue.waiting = l.queue.waiting ++ Queue.kept 100 new := by
  have hkept : Queue.kept 100 (l.queue.offered ++ new)
      = Queue.kept 100 l.queue.offered ++ Queue.kept 100 new := by
    rw [Queue.kept, List.filter_append, List.map_append]
    rfl
  have hfifo := hl'.fifo
  rw [h.taken, h.offered, hkept, ← hl.fifo, List.append_assoc, List.append_assoc] at hfifo
  exact List.append_cancel_left hfifo

/-- **The calls are accounted for**: along any run from any reachable state, the calls of the handler
    and those due for the frames that wait are, in order and each once, those of the genuine downlinks
    that waited or found room since, if the frames are orderly: each is genuine or foreign, and the
    counters of the genuine ones rise from the device's own on. -/
theorem calls_accounted (hlib : Conforms lib c) {s t : State} {bs as : List Label}
    (hs : exec (step lib newCipher unmarshal) init bs = some s)
    (ht : exec (step lib newCipher unmarshal) s as = some t) {ref : Ref} {l : Listener}
    (hl : s.listeners ref = some l) (hhandler : l.slot.device.downlinkHandlerFunc = true) :
    ∃ l' new, t.listeners ref = some l' ∧ l'.queue.offered = l.queue.offered ++ new ∧
      l'.queue.waiting.length ≤ 100 ∧
      ∀ reading,
        Orderly lib c reading l.slot.device (l.queue.waiting ++ Queue.kept 100 new) →
        l'.calls ++ callsFor reading l'.queue.waiting
          = l.calls ++ callsFor reading (l.queue.waiting ++ Queue.kept 100 new) := by
  obtain ⟨l', hl', frames, new, hhandled⟩ :=
    handled_run hlib (fun _ => none) ht hl hhandler
  have hqueues := lawfulQueues_run lawfulQueues_init hs
  have hlawful := hqueues ref l hl
  have hlawful' := lawfulQueues_run hqueues ht ref l' hl'
  refine ⟨l', new, hl', hhandled.offered, hlawful'.bound, fun reading horderly => ?_⟩
  obtain ⟨l'', hl'', frames', new', hhandled'⟩ := handled_run hlib reading ht hl hhandler
  obtain rfl := Option.some.inj (hl'.symm.trans hl'')
  obtain rfl : new = new' :=
    List.append_cancel_left (hhandled.offered.symm.trans hhandled'.offered)
  have hfifo := hhandled'.fifo hlawful hlawful'
  rw [← hfifo] at horderly ⊢
  rw [hhandled'.calls (horderly.sublist (List.sublist_append_left _ _)), callsFor_append,
    List.append_assoc]

/-- **Downlinks are delivered**: if the handlers do not overlap, and since a state the queue of a device
    was never full, then the calls made, those due for the frames that wait and those due for the
    commands under way are the calls for every command since, in the order of the commands, if the
    frames are orderly. -/
theorem downlinks_delivered (hlib : Conforms lib c) {s t : State} {bs as : List Label}
    (hs : exec (step lib newCipher unmarshal) init bs = some s)
    (ht : exec (step lib newCipher unmarshal) s as = some t)
    (hserial : Always (step lib newCipher unmarshal) Serial init bs)
    (hserial' : Always (step lib newCipher unmarshal) Serial s as) {ref : Ref} {l : Listener}
    (hl : s.listeners ref = some l) (hhandler : l.slot.device.downlinkHandlerFunc = true) :
    ∃ l' since, t.listeners ref = some l' ∧ t.commanded ref = s.commanded ref ++ since ∧
      ∀ reading,
        Orderly lib c reading l.slot.device (l.queue.waiting ++ s.pending ref ++ since) →
        (∀ offer ∈ l'.queue.offered.drop l.queue.offered.length, offer.2 < 100) →
        l'.calls ++ callsFor reading (l'.queue.waiting ++ t.pending ref)
          = l.calls ++ callsFor reading (l.queue.waiting ++ s.pending ref ++ since) := by
  obtain ⟨l', new, hl', hnew, -, hcalls⟩ := calls_accounted hlib hs ht hl hhandler
  obtain ⟨since, hsince⟩ := commanded_run ht ref
  obtain ⟨hcovered, horder⟩ := inOrder_run covered_init inOrder_init hserial hs
  obtain ⟨-, horder'⟩ := inOrder_run hcovered horder hserial' ht
  refine ⟨l', since, hl', hsince, fun reading horderly hroom => ?_⟩
  -- what was offered since is what was pending and what was commanded since, but for what is pending
  have hoffers : new.map Prod.fst ++ t.pending ref = s.pending ref ++ since := by
    have hthen := horder.offers ref l hl
    have hnow := horder'.offers ref l' hl'
    rw [Listener.offers, hnew, List.map_append, hsince, ← hthen, List.append_assoc,
      List.append_assoc] at hnow
    exact List.append_cancel_left hnow
  have hkept : Queue.kept 100 new = new.map Prod.fst := by
    rw [hnew, List.drop_left] at hroom
    rw [Queue.kept, List.filter_eq_self.mpr fun offer hoffer => decide_eq_true (hroom offer hoffer)]
  rw [List.append_assoc, ← hoffers, ← List.append_assoc] at horderly
  have hmade := hcalls reading (hkept ▸ horderly.sublist (List.sublist_append_left _ _))
  rw [hkept] at hmade
  rw [callsFor_append, ← List.append_assoc, hmade, List.append_assoc, ← callsFor_append,
    List.append_assoc, hoffers, List.append_assoc]

end

/-! ### A run -/

/-- The downlink of `downlinkOn10` as its device gets it, whatever the bytes. -/
def oneDownlink : ShortDownlink := ⟨downlinkOn10 1 [5], by decide⟩

/-- A device with a downlink handler. -/
def listeningDevice : Device := { Device.zero with downlinkHandlerFunc := true }

/-- A library that decodes every frame to one downlink of the session. -/
def oneDownlinkLib : Library :=
  { libraryOf counterCrypto with
    unmarshalBinary := fun _ => .ok (oneDownlink.1.receivedBy counterCrypto listeningDevice) }

/-- It conforms, as it encrypts nothing. -/
theorem conforms_oneDownlinkLib : Conforms oneDownlinkLib counterCrypto :=
  have h := conforms_libraryOf counterCrypto
  ⟨h.validate, h.decrypt_nil, h.decrypt_data⟩

/-- Every command is a frame with one item. -/
def oneFrame (_ : List UInt8) : DownlinkFrame × Option String := (⟨7, [[1]]⟩, none)

/-- A gateway and a device on it. -/
def oneDevice : List Label :=
  [.newGateway (0, 0) (Vector.replicate 8 1),
    .newDevice (0, 0) ⟨listeningDevice, rfl, rfl, rfl, rfl, rfl, rfl, rfl, rfl, rfl⟩ "" false,
    .addDevice (0, 0) (0, 0)]

/-- One command, forwarded and handled. -/
def oneCommand : List Label :=
  [.command (0, 0) [] [(0, 0)], .forward 0, .uplink (0, 0) .go, .receive (0, 0), .returns 0]

abbrev oneStep : State → Label → Option State := step oneDownlinkLib Join.plainCipher oneFrame

theorem orderly_oneDownlink : Orderly oneDownlinkLib counterCrypto (fun _ => some oneDownlink)
    listeningDevice [⟨7, [[1]]⟩] where
  reads pl hpl := by
    obtain rfl := List.mem_singleton.mp hpl
    exact .genuine oneDownlink [1] [] rfl rfl (Or.inl (by decide))
  rising := List.pairwise_singleton ..
  above g hg := by
    obtain rfl := List.mem_singleton.mp hg
    decide

theorem offered_once_oneCommand : ∃ s l, exec oneStep init (oneDevice ++ oneCommand) = some s ∧
    s.listeners (0, 0) = some l ∧ (l.offers ++ s.pending (0, 0)).Perm (s.commanded (0, 0)) :=
  ⟨_, _, rfl, rfl,
    @offered_once oneDownlinkLib Join.plainCipher oneFrame _ (oneDevice ++ oneCommand) rfl (0, 0) _
      rfl⟩

theorem calls_accounted_oneCommand : ∃ s t l', exec oneStep init oneDevice = some s ∧
    exec oneStep s oneCommand = some t ∧ t.listeners (0, 0) = some l' ∧
    l'.calls ++ callsFor (fun _ => some oneDownlink) l'.queue.waiting = [callOf oneDownlink] := by
  refine ⟨_, _, _, rfl, rfl, rfl, ?_⟩
  obtain ⟨l', new, hl', hnew, -, hcalls⟩ :=
    @calls_accounted oneDownlinkLib counterCrypto Join.plainCipher oneFrame conforms_oneDownlinkLib _ _
      oneDevice oneCommand rfl rfl (0, 0) _ rfl rfl
  obtain rfl := Option.some.inj hl'
  obtain rfl : [(⟨7, [[1]]⟩, 0)] = new := hnew
  exact hcalls (fun _ => some oneDownlink) orderly_oneDownlink

theorem downlinks_delivered_oneCommand : ∃ s t l', exec oneStep init oneDevice = some s ∧
    exec oneStep s oneCommand = some t ∧ t.listeners (0, 0) = some l' ∧
    l'.calls ++ callsFor (fun _ => some oneDownlink) (l'.queue.waiting ++ t.pending (0, 0))
      = [callOf oneDownlink] := by
  refine ⟨_, _, _, rfl, rfl, rfl, ?_⟩
  obtain ⟨l', since, hl', hsince, hcalls⟩ :=
    @downlinks_delivered oneDownlinkLib counterCrypto Join.plainCipher oneFrame
      conforms_oneDownlinkLib _ _ oneDevice oneCommand rfl rfl (by decide) (by decide) (0, 0) _ rfl rfl
  obtain rfl := Option.some.inj hl'
  obtain rfl : [⟨7, [[1]]⟩] = since := hsince
  exact hcalls (fun _ => some oneDownlink) orderly_oneDownlink (by decide)

end ChirpStackSimulator.Coverage
