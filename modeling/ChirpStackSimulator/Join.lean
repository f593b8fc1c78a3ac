/-
  Joining (`Device.joinRequest`, `Device.joinAccept`).

  Two goroutines work on one device without a lock: the uplink loop draws a new `devNonce` for every
  join-request it sends, the downlink loop derives the session keys of an accept from whatever
  `devNonce` is there.  Nothing ties an accept to its request — in LoRaWAN 1.0 the MIC of an accept
  does not cover the nonce.

  1. **`joinAccept`** as its steps, one for each access to the device, and the system around it: the
     uplink loop, the server's answers, their arrival in any order and any number.
  2. **Agreement** — an activated device holds what the server derived for one of its answers.
  3. `agreed_of_timely`: agreement holds in every state of a run in which both keys of an accept are
     derived while the nonce of its request is still the current one, and an activated device is
     only given the accept it was activated by.
-/
import ChirpStackSimulator.Device
import ChirpStackSimulator.Lib.Run
import ChirpStackSimulator.SessionKeys

namespace ChirpStackSimulator.Join

open LoRaWAN Transition

/-! ## The join-accept handler -/

/-- Where `joinAccept` stands in the downlink loop. -/
inductive Handling where
  | received (phy : PHYPayload)
  /-- The MIC is valid and the payload is a join-accept. -/
  | validated (ja : JoinAcceptPayload)
  | appKeyed (ja : JoinAcceptPayload)
  | nwkKeyed (ja : JoinAcceptPayload)
  | addressed (ja : JoinAcceptPayload)
  deriving DecidableEq

/-- After a step `joinAccept` goes on, or returns, with an error or without. -/
inductive Progress where
  | next (h : Handling)
  | returned (err : Option String)
  deriving DecidableEq

section
variable (lib : Library) (newCipher : AES128Key → Except String CipherBlock)

/-- One step of `joinAccept`: everything up to the next access to a field the other loop writes. -/
def joinAcceptStep (d : Device) : Handling → Device × Progress
  | .received phy =>
    match lib.decryptJoinAcceptPayload d.appKey phy with
    | .error e => (d, .returned (some ("decrypt join-accept payload error: " ++ e)))
    | .ok phy =>
      match lib.validateDownlinkJoinMIC d.joinEUI d.devNonce d.appKey phy with
      -- the frame of another device is no error
      | .error _ => (d, .returned none)
      | .ok false => (d, .returned none)
      | .ok true =>
        match phy.body with
        | .joinAccept ja => (d, .next (.validated ja))
        | _ => (d, .returned (some "expected *lorawan.JoinAcceptPayload"))
  | .validated ja =>
    match getAppSKey lib newCipher ja.optNeg d.appKey ja.homeNetID d.joinEUI ja.joinNonce
        d.devNonce with
    -- the key is assigned before the error is looked at
    | .error e =>
      ({ d with appSKey := Vector.replicate 16 0 }, .returned (some ("get AppSKey error: " ++ e)))
    | .ok key => ({ d with appSKey := key }, .next (.appKeyed ja))
  | .appKeyed ja =>
    match getFNwkSIntKey lib newCipher ja.optNeg d.appKey ja.homeNetID d.joinEUI ja.joinNonce
        d.devNonce with
    | .error e =>
      ({ d with nwkSKey := Vector.replicate 16 0 }, .returned (some ("get NwkSKey error: " ++ e)))
    | .ok key => ({ d with nwkSKey := key }, .next (.nwkKeyed ja))
  | .nwkKeyed ja => ({ d with devAddr := ja.devAddr }, .next (.addressed ja))
  | .addressed _ => (d.setState .activated, .returned none)

end

/-- `getDevNonce`; `rand` are the two bytes it reads. -/
def getDevNonce (d : Device) (rand : UInt16) : Device :=
  { d with devNonce := if d.randomDevNonce then rand else d.devNonce + 1 }

/-! ## The system -/

/-- A join-accept of the server, with the nonce of the request it answers. -/
structure Answer where
  devNonce : DevNonce
  accept : JoinAcceptPayload
  deriving DecidableEq

/-- Where the uplink loop stands. -/
inductive UplinkPhase where
  | polling
  /-- It has seen `deviceStateOTAA` and is in `joinRequest`. -/
  | joining
  deriving DecidableEq

structure Net where
  device : Device
  uplink : UplinkPhase
  /-- The nonces of the join-requests sent. -/
  requests : List DevNonce
  answers : List Answer
  /-- What the downlink loop is working on. -/
  handling : Option (Answer × Handling)
  /-- The answer the device was last activated by. -/
  installed : Option Answer

def start (d : Device) : Net := ⟨d, .polling, [], [], none, none⟩

inductive Label where
  /-- `getState` in the uplink loop. -/
  | poll
  /-- `getDevNonce` and the request. -/
  | request (rand : UInt16)
  /-- The server answers the `r`-th request. -/
  | answer (r : Nat) (accept : JoinAcceptPayload)
  /-- The `i`-th answer arrives, for the first time or again. -/
  | deliver (i : Nat)
  /-- The downlink loop goes on. -/
  | handle

section
variable (lib : Library) (newCipher : AES128Key → Except String CipherBlock)
  (sealAccept : AES128Key → JoinAcceptPayload → PHYPayload)

/-- `joinRequest` in the uplink loop: the nonce is drawn whether or not the request can be sent. -/
def joinRequest (s : Net) (rand : UInt16) : Net :=
  let d := getDevNonce s.device rand
  let phy : PHYPayload :=
    ⟨.joinRequest, .joinRequest ⟨d.joinEUI, d.devEUI, d.devNonce⟩, Vector.replicate 4 0⟩
  match lib.setUplinkJoinMIC d.appKey phy with
  | .error _ => { s with device := d, uplink := .polling }
  | .ok _ => { s with device := d, uplink := .polling, requests := s.requests ++ [d.devNonce] }

/-- The downlink loop goes on with the accept of the answer `a`. -/
def handleOn (s : Net) (a : Answer) (h : Handling) : Net :=
  match joinAcceptStep lib newCipher s.device h with
  | (d, .next h') => { s with device := d, handling := some (a, h') }
  | (d, .returned _) =>
    { s with
      device := d
      handling := none
      installed :=
        match h with
        | .addressed _ => some a
        | _ => s.installed }

/-- One step of the system. -/
def step (s : Net) : Label → Option Net
  | .poll =>
    match s.uplink, s.device.state with
    | .polling, .otaa => some { s with uplink := .joining }
    | .polling, .activated => some s
    | .joining, _ => none
  | .request rand =>
    match s.uplink with
    | .polling => none
    | .joining => some (joinRequest lib s rand)
  | .answer r accept =>
    match s.requests[r]? with
    | none => none
    | some devNonce => some { s with answers := s.answers ++ [⟨devNonce, accept⟩] }
  | .deliver i =>
    match s.handling, s.answers[i]? with
    | none, some a =>
      some { s with handling := some (a, .received (sealAccept s.device.appKey a.accept)) }
    | _, _ => none
  | .handle =>
    match s.handling with
    | none => none
    | some (a, h) => some (handleOn lib newCipher s a h)

end

/-! ## Agreement -/

/-- The library opens what the server seals. -/
def Opens (lib : Library) (sealAccept : AES128Key → JoinAcceptPayload → PHYPayload) : Prop :=
  ∀ key ja, ∃ phy, lib.decryptJoinAcceptPayload key (sealAccept key ja) = .ok phy ∧
    phy.body = .joinAccept ja

section
variable (lib : Library) (newCipher : AES128Key → Except String CipherBlock)

/-- The AppSKey of the device is the one the server derived for the answer `a`. -/
def HoldsAppSKey (d : Device) (a : Answer) : Prop :=
  getAppSKey lib newCipher a.accept.optNeg d.appKey a.accept.homeNetID d.joinEUI a.accept.joinNonce
    a.devNonce = .ok d.appSKey

/-- The same for the NwkSKey. -/
def HoldsNwkSKey (d : Device) (a : Answer) : Prop :=
  getFNwkSIntKey lib newCipher a.accept.optNeg d.appKey a.accept.homeNetID d.joinEUI
    a.accept.joinNonce a.devNonce = .ok d.nwkSKey

/-- The device holds the triple of the answer `a`, derived with the nonce of its request. -/
structure Holds (d : Device) (a : Answer) : Prop where
  appSKey : HoldsAppSKey lib newCipher d a
  nwkSKey : HoldsNwkSKey lib newCipher d a
  devAddr : d.devAddr = a.accept.devAddr

/-- **Key agreement**: an activated device holds the triple of one of the server's answers. -/
def Agreed (s : Net) : Prop :=
  s.device.state = .activated → ∃ a ∈ s.answers, Holds lib newCipher s.device a

end

/-- `joinAccept` is about to derive a key. -/
def Handling.Deriving : Handling → Prop
  | .validated _ | .appKeyed _ => True
  | _ => False

instance : DecidablePred Handling.Deriving
  | .received _ => instDecidableFalse
  | .validated _ => instDecidableTrue
  | .appKeyed _ => instDecidableTrue
  | .nwkKeyed _ => instDecidableFalse
  | .addressed _ => instDecidableFalse

/-- A key is derived while the nonce is still that of the request, and on an activated device only
    for the accept that activated it. -/
def Timely (s : Net) : Label → Prop
  | .handle => ∀ p ∈ s.handling, p.2.Deriving →
      s.device.devNonce = p.1.devNonce ∧ (s.device.state = .activated → s.installed = some p.1)
  | _ => True

instance (s : Net) : DecidablePred (Timely s)
  | .poll => instDecidableTrue
  | .request _ => instDecidableTrue
  | .answer _ _ => instDecidableTrue
  | .deliver _ => instDecidableTrue
  | .handle => inferInstanceAs (Decidable (∀ p ∈ s.handling, p.2.Deriving →
      s.device.devNonce = p.1.devNonce ∧ (s.device.state = .activated → s.installed = some p.1)))

section
variable {lib : Library} {newCipher : AES128Key → Except String CipherBlock}
  {sealAccept : AES128Key → JoinAcceptPayload → PHYPayload}

/-- What the device holds of the answer `a` once `joinAccept` has come to `h`. -/
def Reached (lib : Library) (newCipher : AES128Key → Except String CipherBlock)
    (sealAccept : AES128Key → JoinAcceptPayload → PHYPayload) (d : Device) (a : Answer) :
    Handling → Prop
  | .received phy => phy = sealAccept d.appKey a.accept
  | .validated ja => ja = a.accept
  | .appKeyed ja => ja = a.accept ∧ HoldsAppSKey lib newCipher d a
  | .nwkKeyed ja =>
    ja = a.accept ∧ HoldsAppSKey lib newCipher d a ∧ HoldsNwkSKey lib newCipher d a
  | .addressed ja => ja = a.accept ∧ Holds lib newCipher d a

/-- From the first derived key on, an activated device is at the accept that activated it. -/
def Handling.Committed : Handling → Prop
  | .received _ | .validated _ => False
  | _ => True

/-- The invariant of timely runs. -/
structure Paired (lib : Library) (newCipher : AES128Key → Except String CipherBlock)
    (sealAccept : AES128Key → JoinAcceptPayload → PHYPayload) (s : Net) : Prop where
  activated : s.device.state = .activated →
    ∃ a, s.installed = some a ∧ a ∈ s.answers ∧ Holds lib newCipher s.device a
  answered : ∀ a h, s.handling = some (a, h) → a ∈ s.answers
  reached : ∀ a h, s.handling = some (a, h) → Reached lib newCipher sealAccept s.device a h
  committed : ∀ a h, s.handling = some (a, h) → h.Committed → s.device.state = .activated →
    s.installed = some a

theorem paired_start (d : Device) (hd : d.state = .otaa) :
    Paired lib newCipher sealAccept (start d) := by
  refine ⟨fun h => ?_, by simp [start], by simp [start], by simp [start]⟩
  have h' : d.state = .activated := h
  rw [hd] at h'
  exact absurd h' (by decide)

/-- On an activated device, a key that is timely is the one it already holds. -/
theorem Paired.holds {s : Net} (hs : Paired lib newCipher sealAccept s) {a : Answer}
    (hact : s.device.state = .activated) (hinst : s.installed = some a) :
    Holds lib newCipher s.device a := by
  obtain ⟨a', ha', -, hholds⟩ := hs.activated hact
  obtain rfl : a = a' := Option.some.inj (hinst.symm.trans ha')
  exact hholds

/-- The downlink loop's step, seen from the pieces of the invariant: the device may change only so
    that the installed answer is still held, and what is handled next is reached. -/
theorem paired_next {s : Net} (hs : Paired lib newCipher sealAccept s) {a : Answer} {h h' : Handling}
    {d : Device} (ha : s.handling = some (a, h)) (hstate : d.state = s.device.state)
    (hkeep : d.state = .activated → d = s.device)
    (hreached : Reached lib newCipher sealAccept d a h')
    (hcommitted : h'.Committed → d.state = .activated → s.installed = some a) :
    Paired lib newCipher sealAccept { s with device := d, handling := some (a, h') } := by
  refine ⟨fun hact => ?_, fun b k hb => ?_, fun b k hb => ?_, fun b k hb hk hact => ?_⟩
  · obtain ⟨b, hb, hmem, hholds⟩ := hs.activated (hstate ▸ hact)
    exact ⟨b, hb, hmem, by rw [hkeep hact]; exact hholds⟩
  · obtain ⟨rfl, rfl⟩ : a = b ∧ h' = k := by simpa using hb
    exact hs.answered a h ha
  · obtain ⟨rfl, rfl⟩ : a = b ∧ h' = k := by simpa using hb
    exact hreached
  · obtain ⟨rfl, rfl⟩ : a = b ∧ h' = k := by simpa using hb
    exact hcommitted hk hact

/-- `joinAccept` returns without having activated the device. -/
theorem paired_returned {s : Net} (hs : Paired lib newCipher sealAccept s) {d : Device}
    (hstate : d.state = s.device.state) (hkeep : d.state = .activated → d = s.device) :
    Paired lib newCipher sealAccept { s with device := d, handling := none } := by
  refine ⟨fun hact => ?_, by simp, by simp, by simp⟩
  obtain ⟨b, hb, hmem, hholds⟩ := hs.activated (hstate ▸ hact)
  exact ⟨b, hb, hmem, by rw [hkeep hact]; exact hholds⟩

theorem paired_handle (hopen : Opens lib sealAccept) {s : Net}
    (hs : Paired lib newCipher sealAccept s) {a : Answer} {h : Handling}
    (ha : s.handling = some (a, h)) (htimely : Timely s .handle) :
    Paired lib newCipher sealAccept (handleOn lib newCipher s a h) := by
  have hreached := hs.reached a h ha
  have hcomm := hs.committed a h ha
  have htime := htimely (a, h) ha
  cases h with
  | received phy =>
    obtain rfl : phy = sealAccept s.device.appKey a.accept := hreached
    obtain ⟨phy, hdec, hbody⟩ := hopen s.device.appKey a.accept
    simp only [handleOn, joinAcceptStep, hdec, hbody]
    cases lib.validateDownlinkJoinMIC s.device.joinEUI s.device.devNonce s.device.appKey phy with
    | error e => exact paired_returned hs rfl fun _ => rfl
    | ok valid =>
      cases valid with
      | false => exact paired_returned hs rfl fun _ => rfl
      | true => exact paired_next hs ha rfl (fun _ => rfl) rfl fun hc => hc.elim
  | validated ja =>
    obtain rfl : ja = a.accept := hreached
    obtain ⟨hnonce, hinst⟩ := htime trivial
    simp only [handleOn, joinAcceptStep]
    cases hkey : getAppSKey lib newCipher a.accept.optNeg s.device.appKey a.accept.homeNetID
        s.device.joinEUI a.accept.joinNonce s.device.devNonce with
    | error e =>
      -- on an activated device this derivation has succeeded before
      rw [hnonce] at hkey
      refine paired_returned hs rfl fun hact => ?_
      have hheld : _ = _ := (hs.holds hact (hinst hact)).appSKey
      rw [hkey] at hheld
      exact absurd hheld (by simp)
    | ok key =>
      rw [hnonce] at hkey
      refine paired_next hs ha rfl (fun hact => ?_) ⟨rfl, hkey⟩ fun _ hact => hinst hact
      have hheld : _ = _ := (hs.holds hact (hinst hact)).appSKey
      rw [hkey] at hheld
      rw [Except.ok.inj hheld]
  | appKeyed ja =>
    obtain ⟨rfl, happ⟩ := hreached
    obtain ⟨hnonce, hinst⟩ := htime trivial
    simp only [handleOn, joinAcceptStep]
    cases hkey : getFNwkSIntKey lib newCipher a.accept.optNeg s.device.appKey a.accept.homeNetID
        s.device.joinEUI a.accept.joinNonce s.device.devNonce with
    | error e =>
      rw [hnonce] at hkey
      refine paired_returned hs rfl fun hact => ?_
      have hheld : _ = _ := (hs.holds hact (hinst hact)).nwkSKey
      rw [hkey] at hheld
      exact absurd hheld (by simp)
    | ok key =>
      rw [hnonce] at hkey
      refine paired_next hs ha rfl (fun hact => ?_) ⟨rfl, happ, hkey⟩ fun _ hact => hinst hact
      have hheld : _ = _ := (hs.holds hact (hinst hact)).nwkSKey
      rw [hkey] at hheld
      rw [Except.ok.inj hheld]
  | nwkKeyed ja =>
    obtain ⟨rfl, happ, hnwk⟩ := hreached
    refine paired_next hs ha rfl (fun hact => ?_) ⟨rfl, happ, hnwk, rfl⟩
      fun _ hact => hcomm trivial hact
    rw [← (hs.holds hact (hcomm trivial hact)).devAddr]
  | addressed ja =>
    obtain ⟨rfl, hholds⟩ := hreached
    exact ⟨fun _ => ⟨a, rfl, hs.answered a _ ha, hholds.appSKey, hholds.nwkSKey, hholds.devAddr⟩,
      by simp [handleOn, joinAcceptStep], by simp [handleOn, joinAcceptStep],
      by simp [handleOn, joinAcceptStep]⟩

/-- Drawing a nonce changes nothing the invariant speaks of. -/
theorem paired_getDevNonce {s : Net} (hs : Paired lib newCipher sealAccept s) (rand : UInt16)
    (uplink : UplinkPhase) (requests : List DevNonce) :
    Paired lib newCipher sealAccept
      { s with device := getDevNonce s.device rand, uplink := uplink, requests := requests } := by
  refine ⟨fun hact => ?_, hs.answered, fun a h ha => ?_, hs.committed⟩
  · obtain ⟨a, ha, hmem, hholds⟩ := hs.activated hact
    exact ⟨a, ha, hmem, hholds.appSKey, hholds.nwkSKey, hholds.devAddr⟩
  · have hreached := hs.reached a h ha
    cases h with
    | received phy => exact hreached
    | validated ja => exact hreached
    | appKeyed ja => exact hreached
    | nwkKeyed ja => exact hreached
    | addressed ja =>
      exact ⟨hreached.1, hreached.2.appSKey, hreached.2.nwkSKey, hreached.2.devAddr⟩

theorem paired_step (hopen : Opens lib sealAccept) {s s' : Net} {l : Label}
    (hs : Paired lib newCipher sealAccept s) (htimely : Timely s l)
    (h : step lib newCipher sealAccept s l = some s') : Paired lib newCipher sealAccept s' := by
  cases l with
  | poll =>
    -- only the uplink loop moves
    simp only [step] at h
    split at h
    · obtain rfl := Option.some.inj h
      exact ⟨hs.activated, hs.answered, hs.reached, hs.committed⟩
    · obtain rfl := Option.some.inj h
      exact hs
    · exact absurd h (by simp)
  | request rand =>
    simp only [step] at h
    split at h
    · exact absurd h (by simp)
    · obtain rfl := Option.some.inj h
      unfold joinRequest
      dsimp only
      split
      · exact paired_getDevNonce hs rand .polling s.requests
      · exact paired_getDevNonce hs rand .polling _
  | answer r accept =>
    -- one answer more to choose from
    simp only [step] at h
    split at h
    · exact absurd h (by simp)
    · obtain rfl := Option.some.inj h
      refine ⟨fun hact => ?_, fun a k ha => List.mem_append_left _ (hs.answered a k ha),
        hs.reached, hs.committed⟩
      obtain ⟨a, ha, hmem, hholds⟩ := hs.activated hact
      exact ⟨a, ha, List.mem_append_left _ hmem, hholds⟩
  | deliver i =>
    simp only [step] at h
    split at h
    · -- the downlink loop was idle and begins with a sealed accept
      rename_i a hidle hi
      obtain rfl := Option.some.inj h
      have hmem : a ∈ s.answers := List.mem_of_getElem? hi
      refine ⟨hs.activated, fun b k hb => ?_, fun b k hb => ?_, fun b k hb hk => ?_⟩
      all_goals obtain ⟨rfl, rfl⟩ : a = b ∧ _ = k := by simpa using hb
      · exact hmem
      · rfl
      · exact hk.elim
    · exact absurd h (by simp)
  | handle =>
    simp only [step] at h
    split at h
    · exact absurd h (by simp)
    · rename_i a k ha
      obtain rfl := Option.some.inj h
      exact paired_handle hopen hs ha htimely

/-- **Timely runs agree on the keys**: whatever is sent, answered, delayed or duplicated, as long as
    every key is derived while the nonce of its request is current. -/
theorem agreed_of_timely (hopen : Opens lib sealAccept) (d : Device) (hd : d.state = .otaa)
    (labels : List Label) (s : Net)
    (htimely : Always (step lib newCipher sealAccept) Timely (start d) labels)
    (hexec : exec (step lib newCipher sealAccept) (start d) labels = some s) :
    Agreed lib newCipher s := by
  have hpaired : Paired lib newCipher sealAccept s :=
    exec_invariant_of_always (fun s l s' hs ht h => paired_step hopen hs ht h)
      (paired_start d hd) htimely hexec
  intro hact
  obtain ⟨a, -, hmem, hholds⟩ := hpaired.activated hact
  exact ⟨a, hmem, hholds⟩

end

/-! ## A library to run the model with -/

/-- A cipher that leaves the block as it is. -/
def plainCipher (_ : AES128Key) : Except String CipherBlock :=
  .ok ⟨16, fun b => Vector.ofFn fun i => b.getD i 0⟩

def plainSeal (_ : AES128Key) (ja : JoinAcceptPayload) : PHYPayload :=
  ⟨.joinAccept, .joinAccept ja, Vector.replicate 4 0⟩

theorem opens_plain : Opens Library.plain plainSeal := fun _ _ => ⟨_, rfl, rfl⟩

/-- A device that joins with random nonces. -/
def joiningDevice : Device := { Device.zero with randomDevNonce := true }

/-- A LoRaWAN 1.0 join-accept. -/
def accept10 : JoinAcceptPayload := ⟨1, Vector.replicate 3 0, Vector.replicate 4 1, false⟩

/-- A request, its accept, and nothing in between. -/
def promptJoin : List Label :=
  [.poll, .request 7, .answer 0 accept10, .deliver 0, .handle, .handle, .handle, .handle, .handle]

theorem agreed_of_timely_promptJoin :
    ∃ s, exec (step Library.plain plainCipher plainSeal) (start joiningDevice) promptJoin = some s ∧
      s.device.state = .activated ∧ Agreed Library.plain plainCipher s :=
  ⟨_, rfl, rfl, agreed_of_timely opens_plain joiningDevice rfl promptJoin _ (by decide) rfl⟩

/-- The accept of the first request arrives after the second request. -/
theorem late_accept_not_agreed :
    ∃ s, exec (step Library.plain plainCipher plainSeal) (start joiningDevice)
        [.poll, .request 7, .answer 0 accept10, .poll, .request 9, .deliver 0, .handle, .handle,
          .handle, .handle, .handle] = some s ∧ ¬ Agreed Library.plain plainCipher s := by
  refine ⟨_, rfl, fun hagreed => ?_⟩
  obtain ⟨a, ha, hholds⟩ := hagreed rfl
  obtain rfl : a = ⟨7, accept10⟩ := List.mem_singleton.mp ha
  have hkey := hholds.appSKey
  unfold HoldsAppSKey at hkey
  revert hkey
  decide

end ChirpStackSimulator.Join
