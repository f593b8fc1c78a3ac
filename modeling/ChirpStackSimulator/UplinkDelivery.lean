/-
  What becomes of the frames of a device (`sendUplink`, `SendUplinkFrame`).

  1. **What a step does to the parcels** (`Travels`) — none, a new one, or one goes on.
  2. **Parcels and the broker** (`Filed`) — a parcel is with the broker once exactly if its stage
     says so, and a gateway has counted the calls.
  3. **Order** (`Ordered`) — without a latency a gateway publishes the frames of a device in the
     order they were handed over, since the loop calls for one parcel at a time (`ordered_step`).
  4. **Runs** — every frame is accounted for (`parcels_accounted`), and a device that loses nothing
     delivers everything (`lossless_delivers`).  All invariants together are `Sound`.
  5. **Counters** — of the data frames of a device no gateway publishes one counter twice, and
     without a latency the counters increase (`counters_increase`): what is handed over or sealed is
     in the log of the loop, in its order (`Logged`), and the log counts.
-/
import ChirpStackSimulator.FrameCounter
import ChirpStackSimulator.Transport

namespace ChirpStackSimulator.Transport

open LoRaWAN DataUp UplinkLoop Transition

section
variable {lib : Library} {marshal : PHYPayload → Except String (List UInt8)}

/-! ## What a step does to the parcels -/

/-- How a parcel can go on. -/
inductive Onward : Stage → Stage → Prop where
  | fires : Onward .waiting .delayed
  | timerReturns (sent : Bool) : Onward .delayed (outcome sent)
  | loopReturns (sent : Bool) : Onward .inLine (outcome sent)

/-- A new parcel is dropped only by a device that loses frames, and waits only for one with a
    latency. -/
inductive Fresh (d : Sender) : Stage → Prop where
  | lost (h : 0 < d.packetLoss) : Fresh d .lost
  | waiting (h : 0 < d.latencyMs) : Fresh d .waiting
  | inLine (h : ¬ 0 < d.latencyMs) : Fresh d .inLine

/-- What a step can do to the parcels, the broker and the counters. -/
inductive Travels (s t : State) : Prop where
  | none (hparcels : t.parcels = s.parcels) (hbroker : t.broker = s.broker)
      (hcount : t.uplinkCount = s.uplinkCount)
  | leaves (p : Parcel) (stage : Stage) (d : Sender) (hd : s.senders[p.device]? = some d)
      (hfresh : Fresh d stage) (hparcels : t.parcels = s.parcels ++ [(p, stage)])
      (hbroker : t.broker = s.broker)
      (hcount : t.uplinkCount =
        if stage.Called then (s.count p.gateway).uplinkCount else s.uplinkCount)
  | goesOn (i : Nat) (p : Parcel) (stage stage' : Stage) (hp : s.parcels[i]? = some (p, stage))
      (honward : Onward stage stage') (hparcels : t.parcels = s.parcels.set i (p, stage'))
      (hbroker : t.broker = if stage' = .published then s.broker ++ [p] else s.broker)
      (hcount : t.uplinkCount =
        if stage = .waiting then (s.count p.gateway).uplinkCount else s.uplinkCount)

/-- The broker gets a parcel exactly if it is published. -/
theorem broker_deliver (s : State) (p : Parcel) (sent : Bool) :
    (s.deliver p sent).broker = if outcome sent = .published then s.broker ++ [p] else s.broker := by
  cases sent <;> rfl

/-- Every step is one of these. -/
theorem travels_of_step {s t : State} {a : Label} (hs : Loops s)
    (h : step lib marshal s a = some t) : Travels s t := by
  cases step_cases lib marshal h with
  | newDevice d tenantID otaaDelay gateways packetLoss latencyMs => exact .none rfl rfl rfl
  | slot k a d slot hd hfree hslot => exact .none rfl rfl rfl
  | lost k draw d g rest hd hsending hloss =>
    exact .leaves ⟨k, d.handed.length - 1, g⟩ .lost d hd (.lost hloss) rfl rfl rfl
  | waits k draw d g rest hd hsending hlatency =>
    exact .leaves ⟨k, d.handed.length - 1, g⟩ .waiting d hd (.waiting hlatency) rfl rfl rfl
  | calls k draw d g rest hd hsending hlatency =>
    exact .leaves ⟨k, d.handed.length - 1, g⟩ .inLine d hd (.inLine hlatency) rfl rfl rfl
  | published k sent d rest i p stage hd hsending hp =>
    obtain ⟨q, hq, -⟩ := hs.calling k d rest i hd hsending
    rw [hp] at hq
    obtain ⟨rfl, rfl⟩ := Prod.mk.inj (Option.some.inj hq)
    exact .goesOn i p .inLine (outcome sent) hp (.loopReturns sent) (parcels_deliver _ _ _)
      (broker_deliver _ _ _) (uplinkCount_deliver _ _ _)
  | sentAll k d hd hsending => exact .none rfl rfl rfl
  | fire i p hp => exact .goesOn i p .waiting .delayed hp .fires rfl rfl rfl
  | delayedPublished i sent p hp =>
    exact .goesOn i p .delayed (outcome sent) hp (.timerReturns sent) (parcels_deliver _ _ _)
      (broker_deliver _ _ _) (uplinkCount_deliver _ _ _)

/-- A device keeps its gateways, its packet loss and its latency. -/
theorem senders_kept {s t : State} {a : Label} (h : step lib marshal s a = some t) {k : Nat}
    {d : Sender} (hd : s.senders[k]? = some d) : ∃ d' : Sender, t.senders[k]? = some d' ∧
      d'.gateways = d.gateways ∧ d'.packetLoss = d.packetLoss ∧ d'.latencyMs = d.latencyMs := by
  have hset : ∀ {j : Nat} {e e' : Sender}, s.senders[j]? = some e → e'.gateways = e.gateways →
      e'.packetLoss = e.packetLoss → e'.latencyMs = e.latencyMs →
      ∃ d' : Sender, (s.senders.set j e')[k]? = some d' ∧
        d'.gateways = d.gateways ∧ d'.packetLoss = d.packetLoss ∧ d'.latencyMs = d.latencyMs := by
    intro j e e' he hgateways hloss hlatency
    by_cases hk : k = j
    · subst hk
      rw [hd] at he
      cases he
      exact ⟨e', Objects.set_self hd, hgateways, hloss, hlatency⟩
    · exact ⟨d, Objects.set_kept hk hd, rfl, rfl, rfl⟩
  cases step_cases lib marshal h with
  | newDevice e tenantID otaaDelay gateways packetLoss latencyMs =>
    exact ⟨d, Objects.append_kept hd _, rfl, rfl, rfl⟩
  | slot j a e slot he hfree hslot =>
    rcases sendUplink_cases marshal { e with slot := slot } (transmitted lib e.slot a) with
      hnone | ⟨phy, -, hsome⟩
    · rw [hnone]
      exact hset he rfl rfl rfl
    · rw [hsome]
      exact hset he rfl rfl rfl
  | lost j draw e g rest he hsending hloss => exact hset he rfl rfl rfl
  | waits j draw e g rest he hsending hlatency => exact hset he rfl rfl rfl
  | calls j draw e g rest he hsending hlatency => exact hset he rfl rfl rfl
  | published j sent e rest i p stage he hsending hp =>
    rw [senders_deliver]
    exact hset he rfl rfl rfl
  | sentAll j e he hsending => exact hset he rfl rfl rfl
  | fire i p hp => exact ⟨d, hd, rfl, rfl, rfl⟩
  | delayedPublished i sent p hp =>
    rw [senders_deliver]
    exact ⟨d, hd, rfl, rfl, rfl⟩

/-! ## Parcels and the broker -/

/-- A parcel is in one stage. -/
theorem Addressed.stage_unique {s : State} (hs : Addressed s) {p : Parcel} {stage stage' : Stage}
    (h : (p, stage) ∈ s.parcels) (h' : (p, stage') ∈ s.parcels) : stage = stage' := by
  have heq := List.inj_on_of_nodup_map hs.nodup h h' rfl
  exact congrArg Prod.snd heq

/-- What the parcels' stages say is what the broker and the gateways say. -/
structure Filed (s : State) : Prop where
  nodup : s.broker.Nodup
  mem : ∀ p, p ∈ s.broker ↔ (p, .published) ∈ s.parcels
  late : ∀ p, (p, .waiting) ∈ s.parcels ∨ (p, .delayed) ∈ s.parcels →
    ∃ d : Sender, s.senders[p.device]? = some d ∧ 0 < d.latencyMs
  lossy : ∀ p, (p, .lost) ∈ s.parcels →
    ∃ d : Sender, s.senders[p.device]? = some d ∧ 0 < d.packetLoss
  count : ∀ g, s.uplinkCount g =
    UInt32.ofNat (s.parcels.countP fun x => x.1.gateway = g ∧ x.2.Called)

/-- Nothing was delivered yet. -/
theorem filed_init : Filed init where
  nodup := List.nodup_nil
  mem p := by simp [init]
  late p hp := by simp [init] at hp
  lossy p hp := by simp [init] at hp
  count g := rfl

/-- A parcel that is published or lost goes no further. -/
theorem Onward.from_open {stage stage' : Stage} (h : Onward stage stage') :
    stage ≠ .published ∧ stage ≠ .lost := by
  cases h <;> exact ⟨Stage.noConfusion, Stage.noConfusion⟩

/-- A parcel that goes on has been called, and only one that waited was not before. -/
theorem Onward.to_called {stage stage' : Stage} (h : Onward stage stage') :
    stage'.Called ∧ (stage.Called ↔ stage ≠ .waiting) := by
  cases h with
  | fires => exact ⟨trivial, iff_of_false id fun h => h rfl⟩
  | timerReturns sent => exact ⟨by cases sent <;> trivial, iff_of_true trivial Stage.noConfusion⟩
  | loopReturns sent => exact ⟨by cases sent <;> trivial, iff_of_true trivial Stage.noConfusion⟩

/-- One parcel goes on: the others stay in their stages. -/
theorem mem_goesOn {parcels : List (Parcel × Stage)} {i : Nat} {p : Parcel} {stage stage' : Stage}
    (hp : parcels[i]? = some (p, stage)) {q : Parcel} {other : Stage} (hne : other ≠ stage) :
    (q, other) ∈ parcels.set i (p, stage') ↔ (q, other) ∈ parcels ∨ (q = p ∧ other = stage') := by
  constructor
  · intro h
    rcases List.mem_or_eq_of_mem_set h with hold | heq
    · exact Or.inl hold
    · exact Or.inr (Prod.mk.inj heq)
  · rintro (hold | ⟨rfl, rfl⟩)
    · rcases Objects.eq_or_mem_set hp (p, stage') hold with heq | hkept
      · exact absurd (Prod.mk.inj heq).2 hne
      · exact hkept
    · exact List.mem_of_getElem? (Objects.set_self hp)

/-- **One step**: the broker and the counters follow the parcels. -/
theorem filed_of_travels {s t : State} (haddressed : Addressed s) (hs : Filed s)
    (hkept : ∀ (k : Nat) (d : Sender), s.senders[k]? = some d → ∃ d' : Sender,
      t.senders[k]? = some d' ∧ d'.packetLoss = d.packetLoss ∧ d'.latencyMs = d.latencyMs)
    (h : Travels s t) : Filed t := by
  have hlate : ∀ {k : Nat}, (∃ d : Sender, s.senders[k]? = some d ∧ 0 < d.latencyMs) →
      ∃ d : Sender, t.senders[k]? = some d ∧ 0 < d.latencyMs := by
    rintro k ⟨d, hd, hlatency⟩
    obtain ⟨d', hd', -, heq⟩ := hkept k d hd
    exact ⟨d', hd', heq ▸ hlatency⟩
  have hlossy : ∀ {k : Nat}, (∃ d : Sender, s.senders[k]? = some d ∧ 0 < d.packetLoss) →
      ∃ d : Sender, t.senders[k]? = some d ∧ 0 < d.packetLoss := by
    rintro k ⟨d, hd, hloss⟩
    obtain ⟨d', hd', heq, -⟩ := hkept k d hd
    exact ⟨d', hd', heq ▸ hloss⟩
  cases h with
  | none hparcels hbroker hcount =>
    refine ⟨?_, ?_, fun p hp => hlate (hs.late p ?_), fun p hp => hlossy (hs.lossy p ?_), ?_⟩
    · rw [hbroker]
      exact hs.nodup
    · rw [hbroker, hparcels]
      exact hs.mem
    · rwa [hparcels] at hp
    · rwa [hparcels] at hp
    · rw [hcount, hparcels]
      exact hs.count
  | leaves p stage d hd hfresh hparcels hbroker hcount =>
    refine ⟨?_, fun q => ?_, fun q hq => ?_, fun q hq => ?_, fun g => ?_⟩
    · rw [hbroker]
      exact hs.nodup
    · rw [hbroker, hs.mem q, hparcels, List.mem_append, List.mem_singleton]
      refine (or_iff_left fun heq => ?_).symm
      cases (Prod.mk.inj heq).2
      cases hfresh
    · simp only [hparcels, List.mem_append, List.mem_singleton] at hq
      rcases hq with (hold | heq) | hold | heq
      · exact hlate (hs.late q (Or.inl hold))
      · obtain ⟨rfl, rfl⟩ := Prod.mk.inj heq
        cases hfresh with
        | waiting hlatency => exact hlate ⟨d, hd, hlatency⟩
      · exact hlate (hs.late q (Or.inr hold))
      · obtain ⟨rfl, rfl⟩ := Prod.mk.inj heq
        cases hfresh
    · rw [hparcels, List.mem_append, List.mem_singleton] at hq
      rcases hq with hold | heq
      · exact hlossy (hs.lossy q hold)
      · obtain ⟨rfl, rfl⟩ := Prod.mk.inj heq
        cases hfresh with
        | lost hloss => exact hlossy ⟨d, hd, hloss⟩
    · have hold := hs.count g
      rw [hcount, hparcels, List.countP_append, List.countP_singleton]
      by_cases hcalled : stage.Called
      · rw [if_pos hcalled]
        by_cases hg : g = p.gateway
        · subst hg
          simp [State.count, hcalled, hold, ofNat_succ]
        · have hg' : ¬ p.gateway = g := fun h => hg h.symm
          simpa [State.count, hg, hg'] using hold
      · simpa [hcalled] using hold
  | goesOn i p stage stage' hp honward hparcels hbroker hcount =>
    obtain ⟨hopen, hnotLost⟩ := honward.from_open
    have hpub : ∀ q, (q, .published) ∈ t.parcels ↔
        (q, .published) ∈ s.parcels ∨ (q = p ∧ .published = stage') := by
      intro q
      rw [hparcels]
      exact mem_goesOn hp (Ne.symm hopen)
    refine ⟨?_, fun q => ?_, fun q hq => ?_, fun q hq => ?_, fun g => ?_⟩
    · rw [hbroker]
      split
      · -- the parcel was not there, for it was in another stage
        refine List.nodup_append.mpr ⟨hs.nodup, List.nodup_singleton p, ?_⟩
        rintro q hq r hr rfl
        obtain rfl := List.mem_singleton.mp hr
        exact hopen (haddressed.stage_unique (List.mem_of_getElem? hp) ((hs.mem q).mp hq))
      · exact hs.nodup
    · rw [hpub, ← hs.mem q, hbroker]
      by_cases hpublished : stage' = .published
      · simp [hpublished]
      · simp [hpublished, Ne.symm hpublished]
    · have hdelayed : ∀ other, other = .waiting ∨ other = .delayed → (q, other) ∈ t.parcels →
          (q, .waiting) ∈ s.parcels ∨ (q, .delayed) ∈ s.parcels := by
        intro other hother hmem
        rw [hparcels] at hmem
        rcases List.mem_or_eq_of_mem_set hmem with hold | heq
        · rcases hother with rfl | rfl
          · exact Or.inl hold
          · exact Or.inr hold
        · obtain ⟨rfl, rfl⟩ := Prod.mk.inj heq
          cases honward with
          | fires => exact Or.inl (List.mem_of_getElem? hp)
          | timerReturns sent => exact Or.inr (List.mem_of_getElem? hp)
          | loopReturns sent => cases sent <;> simp [outcome] at hother
      rcases hq with hq | hq
      · exact hlate (hs.late q (hdelayed .waiting (Or.inl rfl) hq))
      · exact hlate (hs.late q (hdelayed .delayed (Or.inr rfl) hq))
    · rw [hparcels] at hq
      rcases (mem_goesOn hp (Ne.symm hnotLost)).mp hq with hold | ⟨-, heq⟩
      · exact hlossy (hs.lossy q hold)
      · obtain ⟨hcalled, -⟩ := honward.to_called
        rw [← heq] at hcalled
        exact absurd hcalled id
    · have hold := hs.count g
      obtain ⟨hcalled', hcalled⟩ := honward.to_called
      have hset := Tally.countP_set_add (fun x : Parcel × Stage => decide (x.1.gateway = g ∧ x.2.Called))
        (p, stage') hp
      simp only [hcalled', and_true, hcalled, decide_eq_true_eq] at hset
      rw [hcount, hparcels]
      by_cases hwaiting : stage = .waiting
      · rw [if_pos hwaiting]
        by_cases hg : g = p.gateway
        · subst hg
          simp only [hwaiting, ne_eq, not_true_eq_false, and_false, if_false, if_true] at hset
          rw [show (s.parcels.set i (p, stage')).countP _ = _ + 1 from hset]
          simp [State.count, hold, ofNat_succ]
        · have hg' : ¬ p.gateway = g := fun h => hg h.symm
          simp only [hg', false_and, if_false, Nat.add_zero] at hset
          rw [hset]
          simpa [State.count, hg] using hold
      · rw [if_neg hwaiting]
        simp only [ne_eq, hwaiting, not_false_eq_true, and_true] at hset
        rw [Nat.add_right_cancel hset]
        exact hold

/-! ### Order -/

/-- The numbers of the frames of a device that a gateway has published, in this order. -/
def State.numbersAt (s : State) (k g : Nat) : List Nat :=
  (s.broker.filter fun p => p.device = k ∧ p.gateway = g).map Parcel.number

/-- Without a latency they increase. -/
def Ordered (s : State) : Prop :=
  ∀ (k : Nat) (d : Sender), s.senders[k]? = some d → ¬ 0 < d.latencyMs →
    ∀ g, (s.numbersAt k g).Pairwise (· < ·)

/-- What the broker has of a device and a gateway was handed over. -/
theorem handed_of_published {s : State} (haddressed : Addressed s) (hfiled : Filed s) {k g n : Nat}
    (hn : n ∈ s.numbersAt k g) : ∃ d, s.senders[k]? = some d ∧ n < d.handed.length := by
  obtain ⟨p, hp, rfl⟩ := List.mem_map.mp hn
  obtain ⟨hmem, hat⟩ := List.mem_filter.mp hp
  obtain ⟨rfl, -⟩ := of_decide_eq_true hat
  obtain ⟨d, hd, hreached⟩ := (haddressed.mem p).mp (List.mem_map_of_mem ((hfiled.mem p).mp hmem))
  exact ⟨d, hd, hreached.1⟩

/-- No frame is published twice by a gateway. -/
theorem nodup_numbersAt {s : State} (hfiled : Filed s) (k g : Nat) : (s.numbersAt k g).Nodup := by
  refine List.Nodup.map_on (fun p hp q hq heq => ?_) (hfiled.nodup.filter _)
  obtain ⟨hpk, hpg⟩ := of_decide_eq_true (List.mem_filter.mp hp).2
  obtain ⟨hqk, hqg⟩ := of_decide_eq_true (List.mem_filter.mp hq).2
  obtain ⟨k', n, g'⟩ := p
  obtain ⟨k'', m, g''⟩ := q
  cases hpk
  cases hpg
  cases hqk
  cases hqg
  cases heq
  rfl

/-- What the broker has after a step was on its way before. -/
theorem parcel_of_published {s t : State} (hfiled : Filed s) (h : Travels s t) {p : Parcel}
    (hp : p ∈ t.broker) : p ∈ s.parcels.map Prod.fst := by
  have hold : ∀ {q : Parcel}, q ∈ s.broker → q ∈ s.parcels.map Prod.fst := fun hq =>
    List.mem_map_of_mem (f := Prod.fst) ((hfiled.mem _).mp hq)
  cases h with
  | none hparcels hbroker hcount =>
    rw [hbroker] at hp
    exact hold hp
  | leaves q stage d hd hfresh hparcels hbroker hcount =>
    rw [hbroker] at hp
    exact hold hp
  | goesOn i q stage stage' hq honward hparcels hbroker hcount =>
    rw [hbroker] at hp
    split at hp
    · rcases List.mem_append.mp hp with hmem | hmem
      · exact hold hmem
      · obtain rfl := List.mem_singleton.mp hmem
        exact List.mem_map_of_mem (f := Prod.fst) (List.mem_of_getElem? hq)
    · exact hold hp

/-- **One step**: a loop calls for one parcel at a time, so they come in order. -/
theorem ordered_step {s t : State} {a : Label} (haddressed : Addressed s) (hloops : Loops s)
    (hfiled : Filed s) (hfiled' : Filed t) (hs : Ordered s) (h : step lib marshal s a = some t) :
    Ordered t := by
  intro k d hd hlatency g
  cases hk : s.senders[k]? with
  | none =>
    -- a new device has published nothing
    have hempty : t.numbersAt k g = [] := by
      refine List.eq_nil_iff_forall_not_mem.mpr fun n hn => ?_
      obtain ⟨p, hp, rfl⟩ := List.mem_map.mp hn
      obtain ⟨hmem, hat⟩ := List.mem_filter.mp hp
      obtain ⟨rfl, -⟩ := of_decide_eq_true hat
      have hparcel := parcel_of_published hfiled (travels_of_step hloops h) hmem
      obtain ⟨e, he, -⟩ := (haddressed.mem p).mp hparcel
      rw [hk] at he
      cases he
    rw [hempty]
    exact List.Pairwise.nil
  | some e =>
    obtain ⟨d', hd', -, -, hsame⟩ := senders_kept h hk
    rw [hd] at hd'
    cases hd'
    have hold := hs k e hk (hsame ▸ hlatency) g
    cases travels_of_step hloops h with
    | none hparcels hbroker hcount =>
      rw [State.numbersAt, hbroker]
      exact hold
    | leaves p stage e' he' hfresh hparcels hbroker hcount =>
      rw [State.numbersAt, hbroker]
      exact hold
    | goesOn i p stage stage' hp honward hparcels hbroker hcount =>
      by_cases hat : stage' = .published ∧ p.device = k ∧ p.gateway = g
      · obtain ⟨hpublished, rfl, rfl⟩ := hat
        rw [if_pos hpublished] at hbroker
        have happend : t.numbersAt p.device p.gateway
            = s.numbersAt p.device p.gateway ++ [p.number] := by
          rw [State.numbersAt, hbroker, List.filter_append, List.map_append]
          simp [State.numbersAt]
        have hnodup := nodup_numbersAt hfiled' p.device p.gateway
        rw [happend] at hnodup ⊢
        refine List.pairwise_append.mpr ⟨hold, List.pairwise_singleton _ _, ?_⟩
        intro n hn m hm
        obtain rfl := List.mem_singleton.mp hm
        -- the loop publishes the frame handed over last
        have hlast : p.number + 1 = e.handed.length := by
          have hinLine : stage = .inLine := by
            cases honward with
            | fires => cases hpublished
            | timerReturns sent =>
              obtain ⟨e', he', hlate⟩ := hfiled.late p (Or.inr (List.mem_of_getElem? hp))
              rw [hk] at he'
              cases he'
              exact absurd hlate (hsame ▸ hlatency)
            | loopReturns sent => rfl
          subst hinLine
          obtain ⟨e', rest, he', hcalling⟩ := hloops.inLine i p hp
          obtain ⟨q, hq, -, hnumber⟩ := hloops.calling p.device e' rest i he' hcalling
          rw [hk] at he'
          cases he'
          rw [hp] at hq
          cases hq
          exact hnumber
        obtain ⟨e', he', hlt⟩ := handed_of_published haddressed hfiled hn
        rw [hk] at he'
        cases he'
        have hne : n ≠ p.number := fun heq =>
          (List.nodup_append.mp hnodup).2.2 n hn p.number (List.mem_singleton_self _) heq
        omega
      · have hsame' : t.numbersAt k g = s.numbersAt k g := by
          rw [State.numbersAt, hbroker]
          split
          · next hpublished =>
            have hnot : ¬ (p.device = k ∧ p.gateway = g) := fun h => hat ⟨hpublished, h⟩
            simp [State.numbersAt, List.filter_append, hnot]
          · rfl
        rw [hsame']
        exact hold

/-! ## Runs -/

/-- Everything that holds between two steps. -/
structure Sound (s : State) : Prop where
  addressed : Addressed s
  loops : Loops s
  filed : Filed s
  ordered : Ordered s

theorem sound_init : Sound init :=
  ⟨addressed_init, loops_init, filed_init, fun k d hd => by simp [init] at hd⟩

/-- **One step** keeps all the invariants. -/
theorem sound_step (s : State) (a : Label) (t : State) (hs : Sound s)
    (h : step lib marshal s a = some t) : Sound t := by
  have hfiled : Filed t := by
    refine filed_of_travels hs.addressed hs.filed (fun k d hd => ?_) (travels_of_step hs.loops h)
    obtain ⟨d', hd', -, hloss, hlatency⟩ := senders_kept h hd
    exact ⟨d', hd', hloss, hlatency⟩
  exact ⟨addressed_step s a t hs.addressed h, loops_step s a t ⟨hs.addressed, hs.loops⟩ h, hfiled,
    ordered_step hs.addressed hs.loops hs.filed hfiled hs.ordered h⟩

/-- **Every frame is accounted for.**  After any interleaving of the uplink loops, the commands, the
    timers and the publications: each frame that a device has handed over has set out once to each of
    the device's gateways but those its loop has still to turn to, and is in one stage on the way;
    the broker was given the published parcels, each of them once; and a gateway has counted, modulo
    2^32, the calls made with it. -/
theorem parcels_accounted (labels : List Label) {s : State}
    (hrun : exec (step lib marshal) init labels = some s) :
    (∀ (k : Nat) (d : Sender) (n g : Nat), s.senders[k]? = some d → n < d.handed.length →
      g ∈ d.gateways.1 → (s.parcels.map Prod.fst).count ⟨k, n, g⟩
        = if n + 1 = d.handed.length ∧ g ∈ d.sending.rest then 0 else 1) ∧
      (∀ p : Parcel, s.broker.count p = s.parcels.count (p, .published)) ∧
      ∀ g, s.uplinkCount g =
        UInt32.ofNat (s.parcels.countP fun x => x.1.gateway = g ∧ x.2.Called) := by
  have hs : Sound s := exec_invariant sound_step sound_init hrun
  refine ⟨fun k d n g hd hn hg => ?_, fun p => ?_, hs.filed.count⟩
  · have hmem := hs.addressed.mem ⟨k, n, g⟩
    rw [List.Nodup.count hs.addressed.nodup]
    by_cases hcoming : n + 1 = d.handed.length ∧ g ∈ d.sending.rest
    · rw [if_pos hcoming, if_neg]
      rintro hin
      obtain ⟨e, he, hreached⟩ := hmem.mp hin
      rw [hd] at he
      cases he
      exact hreached.2.2 hcoming
    · rw [if_neg hcoming, if_pos]
      exact hmem.mpr ⟨d, hd, hn, hg, hcoming⟩
  · have hnodup : s.parcels.Nodup := List.Nodup.of_map _ hs.addressed.nodup
    rw [List.Nodup.count hs.filed.nodup, List.Nodup.count hnodup]
    simp only [hs.filed.mem p]

/-- **A device that loses nothing delivers everything.**  Once its loop is out of `sendUplink`, no
    timer of its frames is running and no call is under way, a device without packet loss whose calls
    all succeeded has published every frame it handed over at each of its gateways, each once, and
    without a latency in their order. -/
theorem lossless_delivers (labels : List Label) {s : State}
    (hrun : exec (step lib marshal) init labels = some s) {k : Nat} {d : Sender}
    (hd : s.senders[k]? = some d) (hloss : ¬ 0 < d.packetLoss) (hno : d.sending = .no)
    (hquiet : ∀ x ∈ s.parcels, x.1.device = k →
      x.2 ≠ .waiting ∧ x.2 ≠ .delayed ∧ x.2 ≠ .failed) {g : Nat} (hg : g ∈ d.gateways.1) :
    (s.numbersAt k g).Perm (List.range d.handed.length) ∧
      (¬ 0 < d.latencyMs → s.numbersAt k g = List.range d.handed.length) := by
  have hs : Sound s := exec_invariant sound_step sound_init hrun
  have hmem : ∀ n, n ∈ s.numbersAt k g ↔ n ∈ List.range d.handed.length := by
    intro n
    rw [List.mem_range]
    constructor
    · intro hn
      obtain ⟨e, he, hlt⟩ := handed_of_published hs.addressed hs.filed hn
      rw [hd] at he
      cases he
      exact hlt
    · intro hn
      have hreached : d.Reached n g := ⟨hn, hg, by simp [hno, Sending.rest]⟩
      obtain ⟨⟨p, stage⟩, hx, rfl⟩ :=
        List.mem_map.mp ((hs.addressed.mem ⟨k, n, g⟩).mpr ⟨d, hd, hreached⟩)
      obtain ⟨hwaiting, hdelayed, hfailed⟩ := hquiet _ hx rfl
      have hpublished : stage = .published := by
        cases stage with
        | lost =>
          obtain ⟨e, he, hlossy⟩ := hs.filed.lossy _ hx
          rw [hd] at he
          cases he
          exact absurd hlossy hloss
        | inLine =>
          obtain ⟨i, hi⟩ := List.mem_iff_getElem?.mp hx
          obtain ⟨e, rest, he, hcalling⟩ := hs.loops.inLine i _ hi
          rw [hd] at he
          cases he
          cases hno.symm.trans hcalling
        | waiting => exact absurd rfl hwaiting
        | delayed => exact absurd rfl hdelayed
        | published => rfl
        | failed => exact absurd rfl hfailed
      subst hpublished
      refine List.mem_map.mpr ⟨⟨k, n, g⟩, List.mem_filter.mpr ⟨(hs.filed.mem _).mpr hx, ?_⟩, rfl⟩
      simp
  have hperm := (List.perm_ext_iff_of_nodup (nodup_numbersAt hs.filed k g) List.nodup_range).mpr hmem
  refine ⟨hperm, fun hlatency => ?_⟩
  exact List.Perm.eq_of_pairwise (fun a b _ _ hab hba => absurd hab (Nat.lt_asymm hba))
    (hs.ordered k d hd hlatency g) List.pairwise_lt_range hperm

/-! ## Counters -/

/-- The counter of a frame, if it is a data frame. -/
def dataFCnt (phy : PHYPayload) : Option UInt32 :=
  match phy.body with
  | .mac pl => some pl.fhdr.fCnt
  | _ => none

/-- What is assumed of the library: encrypting a frame and setting its MIC leave its counter alone. -/
structure KeepsCounter (lib : Library) : Prop where
  join : ∀ key phy phy', lib.setUplinkJoinMIC key phy = .ok phy' → dataFCnt phy' = dataFCnt phy
  encrypt : ∀ key phy phy', lib.encryptFRMPayload key phy = .ok phy' → dataFCnt phy' = dataFCnt phy
  sign : ∀ key phy phy', lib.setUplinkDataMIC key phy = .ok phy' → dataFCnt phy' = dataFCnt phy

/-- Sealing keeps the counter, if the library does. -/
theorem dataFCnt_sealFrame (hkeeps : KeepsCounter lib) {d : Device} {phy : PHYPayload}
    (h : sealFrame lib d = .ok phy) : dataFCnt phy = some d.fCntUp := by
  unfold sealFrame at h
  split at h
  · cases h
  · next phy' hencrypt =>
    rw [hkeeps.sign _ _ _ h, hkeeps.encrypt _ _ _ hencrypt]
    rfl

/-- The counter of the frame that is sealed and not yet sent. -/
def sealedFCnt (s : Slot) : List UInt32 :=
  match s.loop with
  | .inDataUp (.sealed _ phy) => (dataFCnt phy).toList
  | _ => []

/-- Outside of `dataUp` no frame is sealed. -/
theorem sealedFCnt_outside {s : Slot} (h : ∀ pc, s.loop ≠ .inDataUp pc) : sealedFCnt s = [] := by
  unfold sealedFCnt
  split
  · next hloop => exact absurd hloop (h _)
  · rfl

/-- What a step of the loop sends and what it has sealed after it are new frames of the log, or what
    was sealed before. -/
theorem sent_of_step (hkeeps : KeepsCounter lib) {s s' : Slot} {a : LoopStep}
    (h : s.step lib a = some s') : ∃ added, fCnts s'.log = fCnts s.log ++ added ∧
      (transmitted lib s a).toList.filterMap dataFCnt ++ sealedFCnt s' = sealedFCnt s ++ added := by
  cases Slot.step_cases h with
  | go loop hmoves =>
    obtain ⟨hfrom, hto⟩ := hmoves.outside
    refine ⟨[], by simp, ?_⟩
    rw [sealedFCnt_outside hfrom, sealedFCnt_outside (s := { s with loop := loop }) hto]
    rfl
  | done hcancelled hselects =>
    refine ⟨[], by simp, ?_⟩
    rw [sealedFCnt_outside hselects.outside]
    rfl
  | joinRequest rand hloop =>
    refine ⟨[], by simp, ?_⟩
    have hbefore : sealedFCnt s = [] := sealedFCnt_outside (by simp [hloop])
    have hjoin : (transmitted lib s (.joinRequest rand)).toList.filterMap dataFCnt = [] := by
      unfold transmitted
      dsimp only
      split
      · rfl
      · next phy hmic =>
        have hnone : dataFCnt phy = none := hkeeps.join _ _ _ hmic
        simp [hnone]
    rw [hjoin, hbefore]
    rfl
  | choose r hloop =>
    refine ⟨[], by simp, ?_⟩
    rw [sealedFCnt_outside (s := s) (by simp [hloop])]
    rfl
  | next runScript nowNs pc hloop =>
    have hcases := Slot.next_cases lib s runScript nowNs pc
    cases pc with
    | idle =>
      generalize s.next lib runScript nowNs .idle = s'' at hcases ⊢
      cases hcases
      exact ⟨[], by simp, by simp [transmitted, sealedFCnt, hloop]⟩
    | chosen c =>
      generalize s.next lib runScript nowNs (.chosen c) = s'' at hcases ⊢
      cases hcases with
      | dropped _ hdrop =>
        exact ⟨[], by simp [fCnts], by simp [transmitted, sealedFCnt, hloop]⟩
      | repeated _ hdrop hflat => exact ⟨[], by simp, by simp [transmitted, sealedFCnt, hloop]⟩
      | notRepeated _ hdrop hflat => exact ⟨[], by simp, by simp [transmitted, sealedFCnt, hloop]⟩
    | flatlined c =>
      generalize s.next lib runScript nowNs (.flatlined c) = s'' at hcases ⊢
      cases hcases
      exact ⟨[], by simp, by simp [transmitted, sealedFCnt, hloop]⟩
    | driftRead c drift =>
      generalize s.next lib runScript nowNs (.driftRead c drift) = s'' at hcases ⊢
      cases hcases
      exact ⟨[], by simp, by simp [transmitted, sealedFCnt, hloop]⟩
    | built c =>
      generalize s.next lib runScript nowNs (.built c) = s'' at hcases ⊢
      cases hcases with
      | notSealed _ e hseal => exact ⟨[], by simp, by simp [transmitted, sealedFCnt, hloop]⟩
      | sealed _ phy hseal =>
        refine ⟨[s.device.fCntUp], by simp [fCnts], ?_⟩
        simp [transmitted, sealedFCnt, hloop, dataFCnt_sealFrame hkeeps hseal]
    | sealed c phy =>
      generalize s.next lib runScript nowNs (.sealed c phy) = s'' at hcases ⊢
      cases hcases
      refine ⟨[], by simp, ?_⟩
      cases hcnt : dataFCnt phy <;> simp [transmitted, sealedFCnt, hloop, hcnt]
  | refused req => exact ⟨[], by simp, by simp [transmitted]⟩
  | command req anomalyType active => exact ⟨[], by simp, by simp [transmitted, sealedFCnt]⟩
  | session f => exact ⟨[], by simp, by simp [transmitted, sealedFCnt]⟩
  | cancelledLate hloop => exact ⟨[], by simp, by simp [transmitted]⟩
  | cancel hloop => exact ⟨[], by simp, by simp [transmitted, sealedFCnt]⟩

/-- The data frames of a device that are handed over or sealed are frames of its log, in its order. -/
structure Logged (d : Sender) : Prop where
  counted : Counted d.slot
  fCnts : (d.handed.filterMap dataFCnt ++ sealedFCnt d.slot).Sublist (fCnts d.slot.log)

/-- What a step of the loop hands over or seals comes from its log. -/
theorem logged_slot (hkeeps : KeepsCounter lib) {d : Sender} {a : LoopStep} {slot : Slot}
    (hd : Logged d) (hslot : d.slot.step lib a = some slot) :
    Logged ({ d with slot := slot }.sendUplink marshal (transmitted lib d.slot a)) := by
  have hcounted : Counted slot := (stepCounts_step hd.counted hslot).counted
  obtain ⟨added, hlog, hsent⟩ := sent_of_step hkeeps hslot
  have hsub : (d.handed.filterMap dataFCnt ++ ((transmitted lib d.slot a).toList.filterMap dataFCnt
      ++ sealedFCnt slot)).Sublist (UplinkLoop.fCnts slot.log) := by
    rw [hsent, hlog, ← List.append_assoc]
    exact hd.fCnts.append (List.Sublist.refl added)
  rcases sendUplink_cases marshal { d with slot := slot } (transmitted lib d.slot a) with
    hnone | ⟨phy, hphy, hsome⟩
  · -- a frame that cannot be marshalled is left out
    rw [hnone]
    refine ⟨hcounted, List.Sublist.trans ?_ hsub⟩
    exact (List.Sublist.refl _).append (List.sublist_append_right _ _)
  · rw [hsome]
    refine ⟨hcounted, ?_⟩
    rw [hphy] at hsub
    simpa [List.filterMap_append] using hsub

/-- **One step** keeps every device logged. -/
theorem logged_step (hkeeps : KeepsCounter lib) (s : State) (a : Label) (t : State)
    (hs : ∀ d ∈ s.senders, Logged d) (h : step lib marshal s a = some t) :
    ∀ d ∈ t.senders, Logged d := by
  have hset : ∀ {k : Nat} {e e' : Sender}, s.senders[k]? = some e → (Logged e → Logged e') →
      ∀ d ∈ s.senders.set k e', Logged d := by
    intro k e e' he hlogged d hd
    rcases List.mem_or_eq_of_mem_set hd with hold | rfl
    · exact hs d hold
    · exact hlogged (hs e (List.mem_of_getElem? he))
  cases step_cases lib marshal h with
  | newDevice e tenantID otaaDelay gateways packetLoss latencyMs =>
    intro d hd
    rcases List.mem_append.mp hd with hold | hnew
    · exact hs d hold
    · obtain rfl := List.mem_singleton.mp hnew
      refine ⟨counted_newSlot e tenantID otaaDelay, ?_⟩
      rw [sealedFCnt_outside (by cases otaaDelay <;> simp [newSlot])]
      exact List.nil_sublist _
  | slot k a e slot he hfree hslot => exact hset he fun hlogged => logged_slot hkeeps hlogged hslot
  | lost k draw e g rest he hsending hloss => exact hset he fun h => ⟨h.counted, h.fCnts⟩
  | waits k draw e g rest he hsending hlatency => exact hset he fun h => ⟨h.counted, h.fCnts⟩
  | calls k draw e g rest he hsending hlatency => exact hset he fun h => ⟨h.counted, h.fCnts⟩
  | published k sent e rest i p stage he hsending hp =>
    rw [senders_deliver]
    exact hset he fun h => ⟨h.counted, h.fCnts⟩
  | sentAll k e he hsending => exact hset he fun h => ⟨h.counted, h.fCnts⟩
  | fire i p hp => exact hs
  | delayedPublished i sent p hp =>
    rw [senders_deliver]
    exact hs

/-- The counters of the data frames of a device that a gateway has published, in this order. -/
def State.countersAt (s : State) (k g : Nat) : List UInt32 :=
  match s.senders[k]? with
  | none => []
  | some d => (s.numbersAt k g).filterMap fun n => d.handed[n]?.bind dataFCnt

/-- The counters of frames with increasing numbers increase. -/
theorem counters_of_increasing {d : Sender} (hd : Logged d) (hbound : d.slot.log.length < 2 ^ 32)
    {numbers : List Nat} (h : numbers.Pairwise (· < ·)) :
    (numbers.filterMap fun n => d.handed[n]?.bind dataFCnt).Pairwise (· < ·) := by
  have hlog := (fCnts_increasing d.slot.log 0 (hd.counted.numbered hbound)).2
  have hhanded : (d.handed.filterMap dataFCnt).Pairwise (· < ·) :=
    (hlog.sublist hd.fCnts).sublist (List.sublist_append_left _ _)
  have hplaces : (numbers.filterMap fun n => d.handed[n]?).Sublist d.handed :=
    Objects.lookups_sublist h
  have hsub := hplaces.filterMap dataFCnt
  rw [List.filterMap_filterMap] at hsub
  exact hhanded.sublist hsub

/-- **Counters increase.**  In any run in which a device has made fewer than 2^32 uplinks: of its data
    frames no gateway publishes one counter twice, and without a latency every gateway publishes them
    in increasing order, whatever is lost, fails or comes in between. -/
theorem counters_increase (hkeeps : KeepsCounter lib) (labels : List Label) {s : State}
    (hrun : exec (step lib marshal) init labels = some s) {k : Nat} {d : Sender}
    (hd : s.senders[k]? = some d) (hbound : d.slot.log.length < 2 ^ 32) (g : Nat) :
    (s.countersAt k g).Nodup ∧ (¬ 0 < d.latencyMs → (s.countersAt k g).Pairwise (· < ·)) := by
  have hs : Sound s := exec_invariant sound_step sound_init hrun
  have hlogged : Logged d :=
    exec_invariant (I := fun s => ∀ d ∈ s.senders, Logged d) (logged_step hkeeps) (by simp [init])
      hrun d (List.mem_of_getElem? hd)
  rw [State.countersAt, hd]
  refine ⟨?_, fun hlatency => counters_of_increasing hlogged hbound (hs.ordered k d hd hlatency g)⟩
  -- put in order, they increase
  let sorted := (List.range d.handed.length).filter fun n => n ∈ s.numbersAt k g
  have hsorted : sorted.Pairwise (· < ·) := List.pairwise_lt_range.filter _
  have hperm : sorted.Perm (s.numbersAt k g) := by
    refine (List.perm_ext_iff_of_nodup (List.nodup_range.filter _)
      (nodup_numbersAt hs.filed k g)).mpr fun n => ?_
    rw [List.mem_filter, List.mem_range, decide_eq_true_eq]
    refine and_iff_right_of_imp fun hn => ?_
    obtain ⟨e, he, hlt⟩ := handed_of_published hs.addressed hs.filed hn
    rw [hd] at he
    cases he
    exact hlt
  have hincreasing := counters_of_increasing hlogged hbound hsorted
  have hnodup : (sorted.filterMap fun n => d.handed[n]?.bind dataFCnt).Nodup :=
    hincreasing.imp fun hlt => UInt32.ne_of_lt hlt
  exact (hperm.filterMap _).nodup_iff.mp hnodup

end

/-! ### A run -/

/-- The plain library changes no counter. -/
theorem keepsCounter_plain : KeepsCounter .plain where
  join key phy phy' h := by cases h; rfl
  encrypt key phy phy' h := by cases h; rfl
  sign key phy phy' h := by cases h; rfl

/-- Any frame can be marshalled. -/
def anyBytes : PHYPayload → Except String (List UInt8) := fun _ => .ok []

/-- One uplink of a device with two gateways and no latency. -/
def oneUplink : List Label :=
  [.newDevice scriptedDevice "tenant" false ⟨[0, 1], by decide⟩ 0 0, .slot 0 (.session activated)] ++
    ([LoopStep.go, .choose ⟨0, 0, 0⟩] ++
      List.replicate 5 (LoopStep.next (fun _ _ => .nil) 0)).map (Label.slot 0) ++
    [.toGateway 0 0, .published 0 true, .toGateway 0 0, .published 0 true, .sentAll 0]

theorem parcels_accounted_oneUplink : ∃ s, exec (step .plain anyBytes) init oneUplink = some s ∧
    ∀ p : Parcel, s.broker.count p = s.parcels.count (p, .published) :=
  ⟨_, rfl, (@parcels_accounted .plain anyBytes oneUplink _ rfl).2.1⟩

theorem lossless_delivers_oneUplink : ∃ s, exec (step .plain anyBytes) init oneUplink = some s ∧
    (s.numbersAt 0 1).Perm (List.range 1) :=
  ⟨_, rfl, (@lossless_delivers .plain anyBytes oneUplink _ rfl 0 _ rfl (by decide) rfl (by decide) 1
    (by decide)).1⟩

theorem counters_increase_oneUplink : ∃ s, exec (step .plain anyBytes) init oneUplink = some s ∧
    (s.countersAt 0 1).Pairwise (· < ·) :=
  ⟨_, rfl, (@counters_increase .plain anyBytes keepsCounter_plain oneUplink _ rfl 0 _ rfl (by decide)
    1).2 (by decide)⟩

end ChirpStackSimulator.Transport
