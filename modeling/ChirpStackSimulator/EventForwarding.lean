/-
  Events forwarded to the backend (`handleIntegrationMessage` and `forwardToBackend` in
  `internal/as/api.go`).

  Every MQTT client that `Setup` has left connected and subscribed gets each event of ChirpStack, and
  its handler hands the uplinks to the backend's webhook.  So an uplink is forwarded once for each such
  client, and clients that nobody holds any longer count too.

  1. `handleIntegrationMessage_isSome_iff` says which messages are forwarded, by what their topic looks
     like.
  2. Each message published is in the inbox of a client, forwarded or dropped, once for each client it
     was delivered to (`Accounted.step`).
  3. `events_accounted`: in every state of every run this holds of every uplink, nothing else is
     forwarded, and no message was delivered to more clients than one and the calls of `Setup` that
     overlapped.
-/
import ChirpStackSimulator.Connections
import ChirpStackSimulator.Lib.Parts

namespace ChirpStackSimulator.Connections

open Transition Handover

/-! ## Topics -/

/-- `application/…/device/…/event/up`, which more levels may follow. -/
def IsUplink (topic : String) : Prop :=
  ∃ app dev more : List Char, '/' ∉ app ∧ '/' ∉ dev ∧ (more = [] ∨ ∃ m, more = '/' :: m) ∧
    topic.toList = "application/".toList ++ app ++ "/device/".toList ++ dev ++ "/event/up".toList ++ more

section Topics

variable {Payload : Type} {unmarshal : Payload → Option DeviceInfo} {msg : Message Payload}

/-- The parts of an uplink's topic. -/
def UplinkParts (parts : List (List Char)) : Prop :=
  ∃ app dev rest, parts = "application".toList :: app :: "device".toList :: dev :: "event".toList ::
    "up".toList :: rest

/-- A text, by its characters. -/
theorem ofList_eq_iff {l : List Char} {t : String} : String.ofList l = t ↔ l = t.toList := by
  constructor
  · rintro rfl
    exact String.toList_ofList.symm
  · rintro rfl
    exact String.ofList_toList

/-- What the handler asks of the parts of the topic. -/
theorem handleIntegrationMessage_isSome :
    (handleIntegrationMessage unmarshal msg).isSome = true ↔
      UplinkParts (msg.topic.toList.splitOn '/') ∧ (unmarshal msg.payload).isSome = true := by
  unfold handleIntegrationMessage UplinkParts
  generalize msg.topic.toList.splitOn '/' = parts
  match parts with
  | [] => simp
  | [_] => simp
  | [_, _] => simp
  | [_, _, _] => simp
  | [_, _, _, _] => simp
  | [_, _, _, _, _] => simp
  | a :: app :: b :: dev :: c :: d :: rest =>
    have hsplit : (∃ app' dev' rest', a :: app :: b :: dev :: c :: d :: rest
          = "application".toList :: app' :: "device".toList :: dev' :: "event".toList ::
            "up".toList :: rest') ↔
        a = "application".toList ∧ b = "device".toList ∧ c = "event".toList ∧
          d = "up".toList := by
      constructor
      · rintro ⟨app', dev', rest', h⟩
        simp only [List.cons.injEq] at h
        exact ⟨h.1, h.2.2.1, h.2.2.2.2.1, h.2.2.2.2.2.1⟩
      · rintro ⟨rfl, rfl, rfl, rfl⟩
        exact ⟨app, dev, rest, rfl⟩
    rw [hsplit]
    simp only [List.map_cons, List.length_cons, List.getElem?_cons_zero, List.getElem?_cons_succ,
      ne_eq, Option.some.injEq, ofList_eq_iff]
    by_cases ha : a = "application".toList
    · by_cases hb : b = "device".toList
      · by_cases hc : c = "event".toList
        · rw [if_neg (by rw [ha, hb, hc]; simp)]
          cases hu : unmarshal msg.payload with
          | none => simp
          | some info =>
            by_cases hd : d = "up".toList
            · simp only [hd, if_true]
              simp [ha, hb, hc]
            · simp only [hd, if_false]
              simp
        · simp only [hc, not_false_eq_true, or_true, if_true, false_and, and_false]
          simp
      · simp only [hb, not_false_eq_true, or_true, true_or, if_true, false_and, and_false]
        simp
    · simp only [ha, not_false_eq_true, or_true, true_or, if_true, false_and]
      simp

/-- The parts, put together. -/
theorem uplinkParts_iff {topic : String} :
    UplinkParts (topic.toList.splitOn '/') ↔ IsUplink topic := by
  constructor
  · rintro ⟨app, dev, rest, h⟩
    obtain ⟨-, l₁, h₁, h⟩ := Parts.splitOn_eq_cons.mp h
    obtain ⟨happ, l₂, h₂, h⟩ := Parts.splitOn_eq_cons.mp h
    obtain ⟨-, l₃, h₃, h⟩ := Parts.splitOn_eq_cons.mp h
    obtain ⟨hdev, l₄, h₄, h⟩ := Parts.splitOn_eq_cons.mp h
    obtain ⟨-, l₅, h₅, h⟩ := Parts.splitOn_eq_cons.mp h
    rw [h₂, h₃, h₄, h₅] at h₁
    obtain ⟨-, rfl | ⟨m, rfl⟩⟩ := Parts.splitOn_head.mp ⟨rest, h⟩
    · exact ⟨app, dev, [], happ, hdev, Or.inl rfl, by simpa using h₁⟩
    · exact ⟨app, dev, '/' :: m, happ, hdev, Or.inr ⟨m, rfl⟩, by simpa using h₁⟩
  · rintro ⟨app, dev, more, happ, hdev, hmore, h⟩
    have hup : ∃ rest, ("up".toList ++ more).splitOn '/' = "up".toList :: rest := by
      refine Parts.splitOn_head.mpr ⟨by decide, ?_⟩
      rcases hmore with rfl | ⟨m, rfl⟩
      · exact Or.inl (List.append_nil _)
      · exact Or.inr ⟨m, rfl⟩
    obtain ⟨rest, hrest⟩ := hup
    -- one level after the other, from the last one back
    have h₄ := Parts.splitOn_eq_cons.mpr
      ⟨(by decide : '/' ∉ "event".toList), _, rfl, hrest⟩
    have h₃ := Parts.splitOn_eq_cons.mpr ⟨hdev, _, rfl, h₄⟩
    have h₂ := Parts.splitOn_eq_cons.mpr ⟨(by decide : '/' ∉ "device".toList), _, rfl, h₃⟩
    have h₁ := Parts.splitOn_eq_cons.mpr ⟨happ, _, rfl, h₂⟩
    refine ⟨app, dev, rest, Parts.splitOn_eq_cons.mpr ⟨by decide, _, ?_, h₁⟩⟩
    rw [h]
    simp

/-- **What is forwarded**: the uplink events whose payload decodes. -/
theorem handleIntegrationMessage_isSome_iff :
    (handleIntegrationMessage unmarshal msg).isSome = true ↔
      IsUplink msg.topic ∧ (unmarshal msg.payload).isSome = true := by
  rw [handleIntegrationMessage_isSome, uplinkParts_iff]

end Topics

/-! ## One entry for each delivery -/

variable {Payload : Type} {unmarshal : Payload → Option DeviceInfo} {w w' : World Payload}
  {i k m : Nat} {c c' : Client}

/-- How often a message stands in the inboxes. -/
def waiting (w : World Payload) (m : Nat) : Nat := (w.clients.map fun c => c.inbox.count m).sum

/-- The deliveries of a message, by what became of them. -/
def entries (w : World Payload) (m : Nat) : Nat :=
  w.forwarded.count m + w.dropped.count m + waiting w m

variable (unmarshal) in
/-- Every delivery of an uplink event is in one place, no message is delivered to more clients than
    overlapping calls explain, and nothing else is forwarded. -/
structure Accounted (w : World Payload) : Prop where
  unpublished : ∀ m, w.messages.length ≤ m → entries w m = 0
  bounded : ∀ x ∈ w.messages, x.2 ≤ w.overlapped + 1
  uplink : ∀ m msg copies, w.messages[m]? = some (msg, copies) →
    (handleIntegrationMessage unmarshal msg).isSome = true → entries w m = copies
  other : ∀ m msg copies, w.messages[m]? = some (msg, copies) →
    handleIntegrationMessage unmarshal msg = none → w.forwarded.count m = 0

theorem init_accounted : Accounted unmarshal (init : World Payload) :=
  ⟨fun _ _ => rfl, fun _ h => (List.not_mem_nil h).elim, fun _ _ _ h => (nomatch h),
    fun _ _ _ h => (nomatch h)⟩

/-- The inbox of one client changes. -/
theorem waiting_set (hc : w.clients[i]? = some c) (c' : Client) (m : Nat) :
    waiting { w with clients := w.clients.set i c' } m + c.inbox.count m
      = waiting w m + c'.inbox.count m :=
  Tally.sum_map_set (fun c => c.inbox.count m) c' hc

/-- Nothing is published, delivered or handled. -/
theorem Accounted.frame (hw : Accounted unmarshal w) (hmessages : w'.messages = w.messages)
    (hforwarded : w'.forwarded = w.forwarded) (hdropped : w'.dropped = w.dropped)
    (hwaiting : ∀ m, waiting w' m = waiting w m) (hover : w.overlapped ≤ w'.overlapped) :
    Accounted unmarshal w' := by
  have hentries : ∀ m, entries w' m = entries w m := fun m => by
    unfold entries
    rw [hforwarded, hdropped, hwaiting]
  constructor
  · intro m hm
    rw [hentries]
    exact hw.unpublished m (hmessages ▸ hm)
  · intro x hx
    rw [hmessages] at hx
    exact Nat.le_trans (hw.bounded x hx) (Nat.add_le_add_right hover 1)
  · intro m msg copies hmsg hsome
    rw [hentries]
    exact hw.uplink m msg copies (hmessages ▸ hmsg) hsome
  · intro m msg copies hmsg hnone
    rw [hforwarded]
    exact hw.other m msg copies (hmessages ▸ hmsg) hnone

/-- A client changes, but not its inbox. -/
theorem Accounted.set (hw : Accounted unmarshal w) (hc : w.clients[i]? = some c)
    (hbox : c'.inbox = c.inbox) :
    Accounted unmarshal { w with clients := w.clients.set i c' } := by
  refine hw.frame rfl rfl rfl (fun m => ?_) (Nat.le_refl _)
  have hset := waiting_set hc c' m
  rw [hbox] at hset
  exact Nat.add_right_cancel hset

/-- The phase of a call does not enter the account. -/
theorem Accounted.goto {p : Phase} (hw : Accounted unmarshal w) : Accounted unmarshal (w.goto k p) :=
  hw.frame rfl rfl rfl (fun _ => rfl) (Nat.le_refl _)

/-- What has been delivered stays in the inbox of a client that is disconnected. -/
theorem disconnect_inbox : c.disconnect.inbox = c.inbox := by
  unfold Client.disconnect
  split <;> rfl

theorem connectDone_inbox {ok : Bool} : (c.connectDone ok).inbox = c.inbox := by
  unfold Client.connectDone
  split
  · cases ok <;> rfl
  · rfl

/-- A set-up makes clients, whose inboxes are empty. -/
theorem Accounted.setup {p : Phase} {ok : Bool} (hw : Accounted unmarshal w)
    (h : w.setup k ok p = some w') : Accounted unmarshal w' := by
  cases p with
  | disconnect =>
    obtain rfl := Option.some.inj h
    refine Accounted.goto ?_
    unfold World.disconnectClient
    split
    · exact hw
    · split
      · exact hw
      · next hc => exact hw.set hc disconnect_inbox
  | checkConn =>
    obtain rfl := Option.some.inj h
    exact hw.goto
  | closeConn =>
    dsimp only [World.setup] at h
    split at h <;> obtain rfl := Option.some.inj h
    · exact hw.goto
    · exact hw.frame rfl rfl rfl (fun _ => rfl) (Nat.le_refl _)
  | clearConn =>
    obtain rfl := Option.some.inj h
    exact hw.frame rfl rfl rfl (fun _ => rfl) (Nat.le_refl _)
  | dial =>
    obtain rfl := Option.some.inj h
    exact hw.goto
  | keepConn =>
    obtain rfl := Option.some.inj h
    exact hw.frame rfl rfl rfl (fun _ => rfl) (Nat.le_refl _)
  | newClient =>
    obtain rfl := Option.some.inj h
    refine hw.frame rfl rfl rfl (fun m => ?_) (Nat.le_refl _)
    show ((w.clients ++ [Client.new]).map fun c => c.inbox.count m).sum = waiting w m
    rw [List.map_append, List.sum_append]
    rfl
  | connect i =>
    dsimp only [World.setup] at h
    split at h
    · cases h
    · next hc =>
      obtain rfl := Option.some.inj h
      exact (hw.set hc connectDone_inbox).goto
  | returned ok => cases h
  | panicked => cases h

/-- A message no client has had before is delivered. -/
theorem waiting_publish (msg : Message Payload) (m : Nat) :
    waiting (w.publish msg) m
      = waiting w m + if m = w.messages.length then w.clients.countP Client.receives else 0 := by
  have hdeliver : ∀ c : Client, (c.deliver w.messages.length).inbox.count m
      = c.inbox.count m + if c.receives = true ∧ m = w.messages.length then 1 else 0 := by
    intro c
    unfold Client.deliver
    by_cases hc : c.receives
    · rw [if_pos hc, List.count_append, List.count_singleton]
      by_cases hm : m = w.messages.length
      · simp [hc, hm]
      · simp [hm, Ne.symm hm]
    · simp [hc]
  show ((w.clients.map (·.deliver w.messages.length)).map fun c => c.inbox.count m).sum = _
  rw [List.map_map]
  show (w.clients.map fun c => (c.deliver w.messages.length).inbox.count m).sum = _
  rw [List.map_congr_left fun c _ => hdeliver c]
  by_cases hm : m = w.messages.length
  · simp only [hm, and_true, if_true]
    exact Tally.sum_map_add_ite _ _ _
  · simp only [hm, and_false, if_false, Nat.add_zero]
    rfl

/-- No message is delivered to more clients than are alive. -/
theorem receives_le (hw : Kept w) : w.clients.countP Client.receives ≤ w.overlapped + 1 := by
  have halive : w.clients.countP Client.receives ≤ (clientSlot w).alive := by
    unfold Slot.alive clientSlot
    rw [List.countP_map]
    refine List.countP_mono_left fun c _ hc => ?_
    have hcon : c.status = .connected := by
      unfold Client.receives at hc
      exact of_decide_eq_true (Bool.and_eq_true_iff.mp hc).1
    show c.alive = true
    unfold Client.alive
    rw [hcon]
    rfl
  have hspare := spare_add_held (clientSlot w)
  have hheld : (clientSlot w).held.toNat ≤ 1 := Bool.toNat_le _
  have hle : (clientSlot w).spare ≤ w.overlapped := hw.clients.surplus
  omega

/-- A message is new, and is delivered to no more clients than are alive. -/
theorem Accounted.publish (hw : Accounted unmarshal w) (hk : Kept w) (msg : Message Payload) :
    Accounted unmarshal (w.publish msg) := by
  have hentries : ∀ m, entries (w.publish msg) m
      = entries w m + if m = w.messages.length then w.clients.countP Client.receives else 0 := by
    intro m
    unfold entries
    rw [waiting_publish]
    exact (Nat.add_assoc _ _ _).symm
  constructor
  · intro m hm
    have hlen : w.messages.length < m := by
      have : (w.publish msg).messages.length = w.messages.length + 1 := List.length_append
      omega
    rw [hentries, if_neg (Nat.ne_of_gt hlen)]
    exact hw.unpublished m (Nat.le_of_lt hlen)
  · intro x hx
    rcases List.mem_append.mp hx with hold | hnew
    · exact hw.bounded x hold
    · obtain rfl := List.mem_singleton.mp hnew
      exact receives_le hk
  · intro m msg' copies hmsg hsome
    rw [hentries]
    rcases Objects.lookup_append.mp hmsg with hold | ⟨rfl, heq⟩
    · rw [if_neg (Nat.ne_of_lt (List.getElem?_eq_some_iff.mp hold).1)]
      exact hw.uplink m msg' copies hold hsome
    · rw [if_pos rfl, hw.unpublished _ (Nat.le_refl _), Nat.zero_add]
      exact (Prod.ext_iff.mp heq).2.symm
  · intro m msg' copies hmsg hnone
    rcases Objects.lookup_append.mp hmsg with hold | ⟨rfl, heq⟩
    · exact hw.other m msg' copies hold hnone
    · have hzero := hw.unpublished _ (Nat.le_refl _)
      unfold entries at hzero
      show w.forwarded.count _ = 0
      omega

/-- The first message of an inbox leaves it. -/
theorem waiting_take {m₀ : Nat} {rest : List Nat} (hc : w.clients[i]? = some c)
    (hbox : c.inbox = m₀ :: rest) (m : Nat) :
    waiting { w with clients := w.clients.set i { c with inbox := rest } } m
      + (if m = m₀ then 1 else 0) = waiting w m := by
  have hset := waiting_set hc { c with inbox := rest } m
  rw [hbox, List.count_cons] at hset
  by_cases hm : m = m₀
  · subst hm
    simp only [beq_self_eq_true, if_true] at hset ⊢
    omega
  · simp only [beq_eq_false_iff_ne.mpr (Ne.symm hm), Bool.false_eq_true, if_false, hm] at hset ⊢
    omega

/-- One more number at the end of a list. -/
theorem count_snoc (l : List Nat) (m₀ m : Nat) :
    (l ++ [m₀]).count m = l.count m + if m = m₀ then 1 else 0 := by
  rw [List.count_append, List.count_singleton]
  by_cases hm : m = m₀
  · simp [hm]
  · simp [hm, Ne.symm hm]

/-- A message was published before it was delivered. -/
theorem mem_inbox_lt (hw : Accounted unmarshal w) {m₀ : Nat} {rest : List Nat}
    (hc : w.clients[i]? = some c) (hbox : c.inbox = m₀ :: rest) : m₀ < w.messages.length := by
  refine Nat.lt_of_not_le fun hle => ?_
  have hzero := hw.unpublished m₀ hle
  have htake := waiting_take hc hbox m₀
  rw [if_pos rfl] at htake
  unfold entries at hzero
  omega

/-- What is lost leaves the inbox and is counted. -/
theorem Accounted.drop (hw : Accounted unmarshal w) (h : w.drop i = some w') :
    Accounted unmarshal w' := by
  obtain ⟨c, m₀, rest, hc, hbox, rfl⟩ := drop_eq_some h
  have hentries : ∀ m, entries { w with
      clients := w.clients.set i { c with inbox := rest }
      dropped := w.dropped ++ [m₀] } m = entries w m := by
    intro m
    have htake := waiting_take hc hbox m
    unfold entries
    dsimp only
    rw [count_snoc]
    unfold waiting at htake ⊢
    dsimp only at htake ⊢
    omega
  exact ⟨fun m hm => (hentries m).trans (hw.unpublished m hm), hw.bounded,
    fun m msg copies hmsg hsome => (hentries m).trans (hw.uplink m msg copies hmsg hsome), hw.other⟩

/-- What is handled leaves the inbox, and is forwarded if it is an uplink event. -/
theorem Accounted.handle (hw : Accounted unmarshal w) (h : w.handle unmarshal i = some w') :
    Accounted unmarshal w' := by
  obtain ⟨c, m₀, rest, msg₀, copies₀, hc, hbox, hmsg₀, rfl⟩ := handle_eq_some h
  have hlt := mem_inbox_lt hw hc hbox
  have htake := waiting_take hc hbox
  unfold waiting at htake
  dsimp only at htake
  cases hsome₀ : handleIntegrationMessage unmarshal msg₀ with
  | some payload =>
    have hentries : ∀ m, entries { w with
        clients := w.clients.set i { c with inbox := rest }
        forwarded := w.forwarded ++ [m₀] } m = entries w m := by
      intro m
      have := htake m
      unfold entries waiting
      dsimp only
      rw [count_snoc]
      omega
    refine ⟨fun m hm => (hentries m).trans (hw.unpublished m hm), hw.bounded,
      fun m msg copies hmsg hsome => (hentries m).trans (hw.uplink m msg copies hmsg hsome), ?_⟩
    intro m msg copies hmsg hnone
    -- it is another message
    have hne : m ≠ m₀ := by
      rintro rfl
      obtain ⟨rfl, -⟩ := Prod.ext_iff.mp (Option.some.inj (hmsg.symm.trans hmsg₀))
      exact nomatch hnone.symm.trans hsome₀
    show (w.forwarded ++ [m₀]).count m = 0
    rw [count_snoc, if_neg hne]
    exact hw.other m msg copies hmsg hnone
  | none =>
    have hentries : ∀ m, m ≠ m₀ → entries { w with
        clients := w.clients.set i { c with inbox := rest }
        forwarded := w.forwarded ++ [] } m = entries w m := by
      intro m hm
      have := htake m
      rw [if_neg hm] at this
      unfold entries waiting
      dsimp only
      rw [List.append_nil]
      omega
    constructor
    · intro m hm
      exact (hentries m (Nat.ne_of_gt (Nat.lt_of_lt_of_le hlt hm))).trans (hw.unpublished m hm)
    · exact hw.bounded
    · intro m msg copies hmsg hsome
      have hne : m ≠ m₀ := by
        rintro rfl
        obtain ⟨rfl, -⟩ := Prod.ext_iff.mp (Option.some.inj (hmsg.symm.trans hmsg₀))
        rw [hsome₀] at hsome
        exact nomatch hsome
      exact (hentries m hne).trans (hw.uplink m msg copies hmsg hsome)
    · intro m msg copies hmsg hnone
      show (w.forwarded ++ []).count m = 0
      rw [List.append_nil]
      exact hw.other m msg copies hmsg hnone

/-- **One step**: only `publish`, `handle` and `drop` change where a delivery is. -/
theorem Accounted.step {a : Label Payload} (hw : Accounted unmarshal w) (hk : Kept w)
    (h : step unmarshal w a = some w') : Accounted unmarshal w' := by
  cases a with
  | begin =>
    obtain rfl := Option.some.inj h
    exact hw.frame rfl rfl rfl (fun _ => rfl) (Nat.le_add_right _ _)
  | setup k ok =>
    obtain ⟨p, -, hstep⟩ := Option.bind_eq_some_iff.mp h
    exact hw.setup hstep
  | lose i =>
    obtain ⟨c, c', hc, hc', rfl⟩ := onClient_eq_some.mp h
    refine hw.set hc ?_
    unfold Client.lose at hc'
    split at hc'
    · obtain rfl := Option.some.inj hc'
      rfl
    · cases hc'
  | reconnect i =>
    obtain ⟨c, c', hc, hc', rfl⟩ := onClient_eq_some.mp h
    refine hw.set hc ?_
    unfold Client.reconnect at hc'
    split at hc'
    · obtain rfl := Option.some.inj hc'
      rfl
    · cases hc'
  | subscribe i granted =>
    obtain ⟨c, c', hc, hc', rfl⟩ := onClient_eq_some.mp h
    refine hw.set hc ?_
    unfold Client.subscribe at hc'
    split at hc'
    · cases hc'
    · obtain rfl := Option.some.inj hc'
      rfl
  | publish msg =>
    obtain rfl := Option.some.inj h
    exact hw.publish hk msg
  | handle i => exact hw.handle h
  | drop i => exact hw.drop h

/-! ## Uplinks forwarded -/

/-- Along every run the account and the connections hold together. -/
theorem reachable_accounted {as : List (Label Payload)}
    (h : exec (step unmarshal) init as = some w) : Kept w ∧ Accounted unmarshal w :=
  exec_invariant (I := fun w => Kept w ∧ Accounted unmarshal w)
    (fun _ _ _ hw hstep => ⟨hw.1.step hstep, hw.2.step hw.1 hstep⟩)
    ⟨init_kept, init_accounted⟩ h

/-- **Every uplink once for each delivery, and nothing else.**  An event whose topic is that of an
    uplink and whose payload decodes has been forwarded, dropped or is waiting, once for each client it
    was delivered to; any other message is not forwarded.  No message was delivered to more clients
    than one and the calls of `Setup` that began while another was running. -/
theorem events_accounted (unmarshal : Payload → Option DeviceInfo) {as : List (Label Payload)}
    {w : World Payload} (h : exec (step unmarshal) init as = some w) {m : Nat}
    {msg : Message Payload} {copies : Nat} (hm : w.messages[m]? = some (msg, copies)) :
    copies ≤ w.overlapped + 1 ∧
      (IsUplink msg.topic ∧ (unmarshal msg.payload).isSome = true →
        w.forwarded.count m + w.dropped.count m + waiting w m = copies) ∧
      (¬(IsUplink msg.topic ∧ (unmarshal msg.payload).isSome = true) → m ∉ w.forwarded) := by
  obtain ⟨-, hw⟩ := reachable_accounted h
  refine ⟨hw.bounded _ (List.mem_of_getElem? hm), fun hup => ?_, fun hup => ?_⟩
  · exact hw.uplink m msg copies hm (handleIntegrationMessage_isSome_iff.mpr hup)
  · rw [← handleIntegrationMessage_isSome_iff, Bool.not_eq_true, Option.isSome_eq_false_iff,
      Option.isNone_iff_eq_none] at hup
    exact List.count_eq_zero.mp (hw.other m msg copies hm hup)

/-- An uplink that two clients get, one of which has handled it. -/
theorem events_accounted_twoClients :
    ∃ w : World Unit, exec (step fun _ => some ⟨"", ""⟩) init
        ([.begin, .begin] ++ (List.replicate 6 [.setup 0 true, .setup 1 true]).flatten ++
          [.subscribe 0 true, .subscribe 1 true,
            .publish ⟨"application/1/device/0a/event/up", ()⟩, .handle 1]) = some w ∧
      w.forwarded = [0] ∧ waiting w 0 = 1 ∧
      (2 ≤ w.overlapped + 1 ∧
        (IsUplink "application/1/device/0a/event/up" ∧
            ((fun _ : Unit => some (⟨"", ""⟩ : DeviceInfo)) ()).isSome = true →
          w.forwarded.count 0 + w.dropped.count 0 + waiting w 0 = 2) ∧
        (¬(IsUplink "application/1/device/0a/event/up" ∧
            ((fun _ : Unit => some (⟨"", ""⟩ : DeviceInfo)) ()).isSome = true) →
          0 ∉ w.forwarded)) :=
  ⟨_, rfl, by decide, by decide,
    @events_accounted Unit (fun _ => some ⟨"", ""⟩)
      ([.begin, .begin] ++ (List.replicate 6 [.setup 0 true, .setup 1 true]).flatten ++
        [.subscribe 0 true, .subscribe 1 true,
          .publish ⟨"application/1/device/0a/event/up", ()⟩, .handle 1]) _ rfl 0 _ 2 rfl⟩

end ChirpStackSimulator.Connections
