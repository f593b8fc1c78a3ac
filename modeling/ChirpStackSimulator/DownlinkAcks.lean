/-
  How downlink commands are acknowledged (`downlinkEventHandler` in `simulator/gateway.go`).

  The gateway counts the commands, and starts again from zero when the count meets the rate; that
  command gets the status `COLLISION_PACKET`.  The counter is an `int` of 64 bits.

  1. **Runs** - the commands are handled one after another (`handleAll`).
  2. **The counter** - after `k` commands it is `k` modulo `period`, which is the rate, or for the rate
     zero the number of values of an `int` (`handleAll_acks`).
  3. **The law of the rate** (`nack_law_iff`) - for the rate zero it ends where the counter has gone all
     the way round.
  4. **Commands that do not decode** (`undecodable_has_effect`) - the error is logged and the frame
     handled as any other; the statuses of what follows change for every rate but one
     (`pattern_kept_iff`).
-/
import ChirpStackSimulator.Gateway

namespace ChirpStackSimulator.Downstream

open LoRaWAN

/-! ## Runs -/

section
variable (unmarshal : List UInt8 → DownlinkFrame × Option String)

/-- The commands are handled one after another by the gateway object `ref`. -/
def Network.handleAll (n : Network) (ref : Ref) (payloads : List (List UInt8)) : Network :=
  payloads.foldl (fun n payload => n.downlinkEventHandler unmarshal ref payload) n

/-- The acknowledgement of a command. -/
def ackOf (gatewayID : EUI64) (payload : List UInt8) (status : TxAckStatus) :
    String × DownlinkTxAck :=
  (topic gatewayID "event" "ack", ⟨Hex.encode gatewayID.toList, (unmarshal payload).1.downlinkID,
    (unmarshal payload).1.items.map fun _ => status⟩)

/-- The acknowledgements of a run after `c` commands, if those numbered by `nack` are refused. -/
def acksOf (gatewayID : EUI64) (nack : Nat → Bool) (c : Nat) (payloads : List (List UInt8)) :
    List (String × DownlinkTxAck) :=
  payloads.mapIdx fun k payload =>
    ackOf unmarshal gatewayID payload (if nack (c + k + 1) then .collisionPacket else .ok)

end

variable {unmarshal : List UInt8 → DownlinkFrame × Option String}

theorem acksOf_cons (gatewayID : EUI64) (nack : Nat → Bool) (c : Nat) (payload : List UInt8)
    (payloads : List (List UInt8)) : acksOf unmarshal gatewayID nack c (payload :: payloads) =
      ackOf unmarshal gatewayID payload (if nack (c + 1) then .collisionPacket else .ok) ::
        acksOf unmarshal gatewayID nack (c + 1) payloads := by
  unfold acksOf
  rw [List.mapIdx_cons]
  congr 1
  refine List.mapIdx_eq_mapIdx_iff.mpr fun k hk => ?_
  rw [show c + (k + 1) + 1 = c + 1 + k + 1 by omega]

/-- The status of an acknowledgement is seen at its items. -/
theorem ackOf_eq_iff {gatewayID : EUI64} {payload : List UInt8} {a b : TxAckStatus} :
    ackOf unmarshal gatewayID payload a = ackOf unmarshal gatewayID payload b ↔
      ((unmarshal payload).1.items = [] ∨ a = b) := by
  unfold ackOf
  cases (unmarshal payload).1.items with
  | nil => simp
  | cons item items =>
    constructor
    · intro h
      have hitems := congrArg (fun ack => ack.2.items) h
      exact Or.inr (List.cons.inj hitems).1
    · rintro (h | rfl)
      · cases h
      · rfl

/-- Two patterns give the same acknowledgements if they agree where there are items. -/
theorem acksOf_eq_iff {gatewayID : EUI64} {nack nack' : Nat → Bool} {c c' : Nat}
    {payloads : List (List UInt8)} :
    acksOf unmarshal gatewayID nack c payloads = acksOf unmarshal gatewayID nack' c' payloads ↔
      ∀ k payload, payloads[k]? = some payload →
        ((unmarshal payload).1.items = [] ∨ nack (c + k + 1) = nack' (c' + k + 1)) := by
  have hstatus : ∀ x y : Bool, ((if x then TxAckStatus.collisionPacket else .ok) =
      if y then TxAckStatus.collisionPacket else .ok) ↔ x = y := by decide
  unfold acksOf
  rw [List.mapIdx_eq_mapIdx_iff]
  constructor
  · intro h k payload hk
    obtain ⟨hlt, rfl⟩ := List.getElem?_eq_some_iff.mp hk
    rw [← hstatus]
    exact ackOf_eq_iff.mp (h k hlt)
  · intro h k hlt
    rw [ackOf_eq_iff, hstatus]
    exact h k _ (List.getElem?_eq_getElem hlt)

/-! ## The counter -/

theorem ofNat_eq_iff {a b : Nat} :
    Int64.ofNat a = Int64.ofNat b ↔ a % 2 ^ 64 = b % 2 ^ 64 := by
  rw [← Int64.toBitVec_inj, Int64.toBitVec_ofNat', Int64.toBitVec_ofNat', ← BitVec.toNat_inj,
    BitVec.toNat_ofNat, BitVec.toNat_ofNat]

/-- After so many commands the counter is where it was. -/
def period (rate : Nat) : Nat := if rate = 0 then 2 ^ 64 else rate

theorem period_pos (rate : Nat) : 0 < period rate := by
  unfold period
  split
  · omega
  · omega

theorem succ_mod_of_not_dvd {c m : Nat} (hm : 0 < m) (h : ¬ m ∣ c + 1) : (c + 1) % m = c % m + 1 := by
  have hlt := Nat.mod_lt c hm
  rw [← Nat.mod_add_mod c m 1, Nat.mod_eq_of_lt]
  by_contra hge
  refine h (Nat.dvd_iff_mod_eq_zero.mpr ?_)
  rw [← Nat.mod_add_mod c m 1, show c % m + 1 = m by omega, Nat.mod_self]

/-- The counter meets the rate at the end of a period. -/
theorem succ_eq_rate_iff {rate k : Nat} (hrate : rate < 2 ^ 63) :
    Int64.ofNat (k % period rate) + 1 = Int64.ofNat rate ↔ period rate ∣ k + 1 := by
  rw [show Int64.ofNat (k % period rate) + 1 = Int64.ofNat (k % period rate + 1) from
    (Int64.ofNat_add _ _).symm, ofNat_eq_iff]
  unfold period
  split
  · omega
  · next hne =>
    have hlt : k % rate < rate := Nat.mod_lt _ (Nat.pos_of_ne_zero hne)
    rw [Nat.mod_eq_of_lt (by omega : k % rate + 1 < 2 ^ 64),
      Nat.mod_eq_of_lt (by omega : rate < 2 ^ 64)]
    constructor
    · intro h
      refine Nat.dvd_iff_mod_eq_zero.mpr ?_
      rw [← Nat.mod_add_mod k rate 1, h, Nat.mod_self]
    · intro h
      have hzero := Nat.dvd_iff_mod_eq_zero.mp h
      by_contra hsucc
      rw [← Nat.mod_add_mod k rate 1, Nat.mod_eq_of_lt (by omega)] at hzero
      omega

variable (unmarshal) in
/-- What a command does to the gateway and to the acknowledgements. -/
theorem handle_one {n : Network} {ref : Ref} {g : Gateway} {rate c : Nat} (hrate : rate < 2 ^ 63)
    (hg : n.gateways ref = some g) (hgrate : g.downlinkTxNAckRate = Int64.ofNat rate)
    (hcounter : g.downlinkTxCounter = Int64.ofNat (c % period rate)) (payload : List UInt8) :
    ∃ g', (n.downlinkEventHandler unmarshal ref payload).gateways ref = some g' ∧
      g'.gatewayID = g.gatewayID ∧ g'.downlinkTxNAckRate = Int64.ofNat rate ∧
      g'.downlinkTxCounter = Int64.ofNat ((c + 1) % period rate) ∧
      (n.downlinkEventHandler unmarshal ref payload).acks = n.acks ++
        [ackOf unmarshal g.gatewayID payload
          (if decide (period rate ∣ c + 1) then .collisionPacket else .ok)] := by
  have hnack : g.downlinkTxCounter + 1 = g.downlinkTxNAckRate ↔ period rate ∣ c + 1 := by
    rw [hcounter, hgrate]
    exact succ_eq_rate_iff hrate
  simp only [Network.downlinkEventHandler, hg]
  refine ⟨_, Function.update_self _ _ _, rfl, hgrate, ?_, ?_⟩
  · show (if g.downlinkTxCounter + 1 = g.downlinkTxNAckRate then 0 else g.downlinkTxCounter + 1) = _
    by_cases hdvd : period rate ∣ c + 1
    · rw [if_pos (hnack.mpr hdvd), Nat.mod_eq_zero_of_dvd hdvd]
      rfl
    · rw [if_neg (mt hnack.mp hdvd), hcounter]
      rw [succ_mod_of_not_dvd (period_pos rate) hdvd]
      exact (Int64.ofNat_add _ _).symm
  · simp only [decide_eq_true_eq, hnack]
    rfl

/-- **A run.**  The commands at the ends of the periods are refused. -/
theorem handleAll_acks {ref : Ref} {rate : Nat} (hrate : rate < 2 ^ 63)
    {payloads : List (List UInt8)} : ∀ {n : Network} {g : Gateway} {c : Nat},
      n.gateways ref = some g → g.downlinkTxNAckRate = Int64.ofNat rate →
      g.downlinkTxCounter = Int64.ofNat (c % period rate) →
        (n.handleAll unmarshal ref payloads).acks = n.acks ++
          acksOf unmarshal g.gatewayID (fun k => period rate ∣ k) c payloads := by
  induction payloads with
  | nil =>
    intro n g c _ _ _
    exact (List.append_nil _).symm
  | cons payload payloads ih =>
    intro n g c hg hgrate hcounter
    obtain ⟨g', hg', hid, hgrate', hcounter', hacks⟩ :=
      handle_one unmarshal hrate hg hgrate hcounter payload
    show ((n.downlinkEventHandler unmarshal ref payload).handleAll unmarshal ref payloads).acks = _
    rw [ih hg' hgrate' hcounter', hacks, hid, acksOf_cons, List.append_assoc]
    rfl

/-! ## The law of the rate -/

/-- Every `rate`-th command is refused, and for the rate zero none; each acknowledgement has the id of
    its command, and one item with the status for each item of it. -/
def NackLaw (unmarshal : List UInt8 → DownlinkFrame × Option String) (n : Network) (ref : Ref)
    (g : Gateway) (payloads : List (List UInt8)) : Prop :=
  (n.handleAll unmarshal ref payloads).acks = n.acks ++ acksOf unmarshal g.gatewayID
    (fun k => 0 < g.downlinkTxNAckRate.toInt ∧ g.downlinkTxNAckRate.toInt ∣ (k : Int)) 0 payloads

/-- A rate that is not negative, as a natural number. -/
theorem exists_rate {r : Int64} (h : 0 ≤ r.toInt) :
    ∃ rate : Nat, rate < 2 ^ 63 ∧ r = Int64.ofNat rate ∧ r.toInt = rate := by
  have hlt := r.toInt_lt
  have heq : (r.toInt.toNat : Int) = r.toInt := Int.toNat_of_nonneg h
  refine ⟨r.toInt.toNat, by omega, ?_, heq.symm⟩
  rw [← Int64.ofInt_eq_ofNat, heq, Int64.ofInt_toInt]

/-- The two patterns agree but for the rate zero, at the multiples of `2 ^ 64`. -/
theorem pattern_eq_iff {rate k : Nat} :
    (decide (period rate ∣ k) = decide (0 < (rate : Int) ∧ (rate : Int) ∣ (k : Int))) ↔
      (0 < rate ∨ ¬ 2 ^ 64 ∣ k) := by
  rw [decide_eq_decide]
  unfold period
  split
  · next hzero =>
    subst hzero
    simp
  · next hne =>
    refine iff_of_true ?_ (Or.inl (Nat.pos_of_ne_zero hne))
    rw [Int.natCast_dvd_natCast]
    exact ⟨fun h => ⟨by omega, h⟩, fun h => h.2⟩

/-- **The law of the rate**, for every rate that is not negative and every run of commands on a new
    gateway: it holds if the rate is positive, and for the rate zero as long as no command with items
    comes where the counter has gone all the way round. -/
theorem nack_law_iff {n : Network} {ref : Ref} {g : Gateway} (hg : n.gateways ref = some g)
    (hrate : 0 ≤ g.downlinkTxNAckRate.toInt) (hnew : g.downlinkTxCounter = 0)
    (payloads : List (List UInt8)) : NackLaw unmarshal n ref g payloads ↔
      (0 < g.downlinkTxNAckRate.toInt ∨ ∀ k payload, payloads[k]? = some payload →
        2 ^ 64 ∣ k + 1 → (unmarshal payload).1.items = []) := by
  obtain ⟨rate, hlt, hofNat, htoInt⟩ := exists_rate hrate
  have hcounter : g.downlinkTxCounter = Int64.ofNat (0 % period rate) := by
    rw [hnew, Nat.zero_mod]
    rfl
  unfold NackLaw
  rw [handleAll_acks hlt hg hofNat hcounter, List.append_cancel_left_eq, acksOf_eq_iff, htoInt]
  constructor
  · intro h
    by_cases hpos : 0 < (rate : Int)
    · exact Or.inl hpos
    · refine Or.inr fun k payload hk hdvd => (h k payload hk).resolve_right fun heq => ?_
      rw [Nat.zero_add, pattern_eq_iff] at heq
      rcases heq with heq | heq
      · omega
      · exact heq hdvd
  · intro h k payload hk
    rw [Nat.zero_add, pattern_eq_iff]
    rcases h with hpos | h
    · exact Or.inr (Or.inl (by omega))
    · by_cases hdvd : 2 ^ 64 ∣ k + 1
      · exact Or.inl (h k payload hk hdvd)
      · exact Or.inr (Or.inr hdvd)

/-- A gateway with the rate, and the commands that have one item each. -/
def rated (rate : Int64) : Network :=
  { Network.empty with
    gateways := fun _ => some ⟨Vector.replicate 8 0, [], rate, 0, 0⟩ }

def oneItem (_ : List UInt8) : DownlinkFrame × Option String := (⟨7, [[0x60]]⟩, none)

/-- The rate 2, and three commands. -/
theorem nack_law_iff_two : NackLaw oneItem (rated 2) (0, 0) ⟨Vector.replicate 8 0, [], 2, 0, 0⟩
    [[], [], []] :=
  (nack_law_iff rfl (by decide) rfl _).mpr (Or.inl (by decide))

theorem rated_zero_acks (payloads : List (List UInt8)) :
    ((rated 0).handleAll oneItem (0, 0) payloads).acks = (rated 0).acks ++
      acksOf oneItem (Vector.replicate 8 0) (fun k => period 0 ∣ k) 0 payloads := by
  have hg : (rated 0).gateways (0, 0) = some ⟨Vector.replicate 8 0, [], 0, 0, 0⟩ := rfl
  have hrate : (0 : Int64) = Int64.ofNat 0 := rfl
  have hcounter : (0 : Int64) = Int64.ofNat (0 % period 0) := by
    rw [Nat.zero_mod]
    exact hrate
  exact handleAll_acks (g := ⟨Vector.replicate 8 0, [], 0, 0, 0⟩) (by omega) hg hrate hcounter

/-- As many commands as there are values of the counter. -/
def wholeRound : List (List UInt8) := List.replicate (2 ^ 64) []

theorem wholeRound_last : wholeRound[2 ^ 64 - 1]? = some [] := by
  unfold wholeRound
  rw [List.getElem?_replicate, if_pos (by omega)]

/-- The rate 0, and `2 ^ 64` commands: the last is refused. -/
theorem not_nackLaw_zero :
    ¬ NackLaw oneItem (rated 0) (0, 0) ⟨Vector.replicate 8 0, [], 0, 0, 0⟩ wholeRound := by
  intro h
  unfold NackLaw at h
  rw [rated_zero_acks, List.append_cancel_left_eq, acksOf_eq_iff] at h
  rcases h _ _ wholeRound_last with hitems | hpattern
  · cases hitems
  · exact absurd hpattern (by decide)

/-! ## Commands that do not decode -/

/-- The message has no effect: nothing is put on a queue, nothing is acknowledged, the counter is as it
    was, and the commands that follow are acknowledged as if it had not come. -/
structure NoEffect (unmarshal : List UInt8 → DownlinkFrame × Option String) (n : Network) (ref : Ref)
    (payload : List UInt8) : Prop where
  queues : (n.downlinkEventHandler unmarshal ref payload).queues = n.queues
  acks : (n.downlinkEventHandler unmarshal ref payload).acks = n.acks
  counter : ((n.downlinkEventHandler unmarshal ref payload).gateways ref).map
    Gateway.downlinkTxCounter = (n.gateways ref).map Gateway.downlinkTxCounter
  following : ∀ payloads, (∀ p ∈ payloads, (unmarshal p).2 = none) →
    ∃ acks, (n.handleAll unmarshal ref payloads).acks = n.acks ++ acks ∧
      ((n.downlinkEventHandler unmarshal ref payload).handleAll unmarshal ref payloads).acks =
        (n.downlinkEventHandler unmarshal ref payload).acks ++ acks

/-- The commands that follow are acknowledged as if the message had not come exactly if the rate is
    one. -/
theorem pattern_kept_iff {n : Network} {ref : Ref} {g : Gateway} {rate c : Nat}
    (hrate : rate < 2 ^ 63) (hg : n.gateways ref = some g)
    (hgrate : g.downlinkTxNAckRate = Int64.ofNat rate)
    (hcounter : g.downlinkTxCounter = Int64.ofNat (c % period rate)) (payload : List UInt8)
    {p : List UInt8} (hitems : (unmarshal p).1.items ≠ []) :
    (∀ m : Nat, ∃ acks, (n.handleAll unmarshal ref (List.replicate m p)).acks = n.acks ++ acks ∧
      ((n.downlinkEventHandler unmarshal ref payload).handleAll unmarshal ref
        (List.replicate m p)).acks =
          (n.downlinkEventHandler unmarshal ref payload).acks ++ acks) ↔ rate = 1 := by
  obtain ⟨g', hg', hid, hgrate', hcounter', -⟩ :=
    handle_one unmarshal hrate hg hgrate hcounter payload
  have hwithout : ∀ ps, (n.handleAll unmarshal ref ps).acks = n.acks ++
      acksOf unmarshal g.gatewayID (fun k => period rate ∣ k) c ps :=
    fun ps => handleAll_acks hrate hg hgrate hcounter
  have hwith : ∀ ps, ((n.downlinkEventHandler unmarshal ref payload).handleAll unmarshal ref ps).acks =
      (n.downlinkEventHandler unmarshal ref payload).acks ++
        acksOf unmarshal g'.gatewayID (fun k => period rate ∣ k) (c + 1) ps :=
    fun ps => handleAll_acks hrate hg' hgrate' hcounter'
  constructor
  · intro h
    -- without the message the last of these commands ends a period
    obtain ⟨acks, h1, h2⟩ := h ((period rate - 1) * (c + 1) + 1)
    rw [hwithout, List.append_cancel_left_eq] at h1
    rw [hwith, List.append_cancel_left_eq, hid, ← h1, acksOf_eq_iff] at h2
    have hlast := List.getElem?_replicate (a := p) (n := (period rate - 1) * (c + 1) + 1)
      (i := (period rate - 1) * (c + 1))
    rw [if_pos (by omega)] at hlast
    have hend : c + (period rate - 1) * (c + 1) + 1 = period rate * (c + 1) := by
      obtain ⟨q, hq⟩ := Nat.exists_eq_succ_of_ne_zero (Nat.ne_of_gt (period_pos rate))
      rw [hq, Nat.succ_sub_one, Nat.succ_mul]
      omega
    have hdvd := (h2 _ p hlast).resolve_left hitems
    rw [show c + 1 + (period rate - 1) * (c + 1) + 1 = period rate * (c + 1) + 1 by omega, hend,
      decide_eq_decide] at hdvd
    have hone : period rate ∣ 1 :=
      (Nat.dvd_add_right (Nat.dvd_mul_right _ _)).mp (hdvd.mpr (Nat.dvd_mul_right _ _))
    have hperiod := Nat.dvd_one.mp hone
    unfold period at hperiod
    split at hperiod
    · omega
    · exact hperiod
  · rintro rfl m
    refine ⟨_, hwithout _, ?_⟩
    rw [hwith, List.append_cancel_left_eq, hid, acksOf_eq_iff]
    intro k payload _
    have hperiod : period 1 = 1 := rfl
    refine Or.inr ?_
    rw [hperiod, decide_eq_decide]
    exact iff_of_true (Nat.one_dvd _) (Nat.one_dvd _)

/-- **A command that does not decode** is acknowledged, in every state of every gateway. -/
theorem undecodable_has_effect {n : Network} {ref : Ref} {g : Gateway}
    (hg : n.gateways ref = some g) {payload : List UInt8} {e : String}
    (_hundecodable : (unmarshal payload).2 = some e) : ¬ NoEffect unmarshal n ref payload := by
  intro h
  have hacks := h.acks
  simp only [Network.downlinkEventHandler, hg] at hacks
  have hlength := congrArg List.length hacks
  rw [List.length_append, List.length_singleton] at hlength
  omega

/-- The rate 0, and a message that is not a frame. -/
theorem undecodable_has_effect_zero :
    ¬ NoEffect (fun _ => (⟨0, []⟩, some "unexpected EOF")) (rated 0) (0, 0) [0xff] :=
  undecodable_has_effect (g := ⟨Vector.replicate 8 0, [], 0, 0, 0⟩) rfl rfl

/-- It is acknowledged with the id zero. -/
theorem undecodable_acknowledged :
    ((rated 0).downlinkEventHandler (fun _ => (⟨0, []⟩, some "unexpected EOF")) (0, 0) [0xff]).acks =
      [(topic (Vector.replicate 8 0) "event" "ack", ⟨"0000000000000000", 0, []⟩)] ∧
    ¬ NoEffect (fun _ => (⟨0, []⟩, some "unexpected EOF")) (rated 0) (0, 0) [0xff] := by
  refine ⟨rfl, fun h => ?_⟩
  cases h.acks

end ChirpStackSimulator.Downstream
