/-
  Data downlinks (`Device.downlinkData`).

  The device keeps a 32-bit counter, a frame carries the lower 16 bits.  `downlinkData` adds the gap
  between the two residues, so it finds every counter of the next 2^16 again — but it validates and
  decrypts the frame before, with the 16 bits the frame brought, and it does not refuse a gap that
  only a late frame can have.

  1. **Model** — `downlinkData` over the library parameter, and what it leaves behind.
  2. **The server's frames** — `ServerDownlink`, and `Conforms`: what is assumed of the library, a
     MIC and a key stream, both taken at `FHDR.FCnt` as it stands.
  3. **One frame** (`delivered_iff`): a frame of the window is delivered exactly when its counter is
     below 2^16 and its port is not 0.
  4. **Histories** (`tracks_iff`): with counters below 2^16 the device counts and filters as it
     should exactly when the frames arrive in order.
-/
import ChirpStackSimulator.Device
import ChirpStackSimulator.Lib.Counter
import ChirpStackSimulator.Lib.Run

namespace ChirpStackSimulator.Downlink

open LoRaWAN Transition

/-! ## `downlinkData` -/

/-- A call of `downlinkHandlerFunc`. -/
structure HandlerCall where
  confirmed : Bool
  ack : Bool
  fCntDown : UInt32
  fPort : UInt8
  data : List UInt8
  deriving DecidableEq

/-- What one frame leaves behind: the device, the handler call it made and the error returned. -/
structure Outcome where
  device : Device
  handled : Option HandlerCall
  error : Option String
  deriving DecidableEq

/-- `uint16(macPL.FHDR.FCnt) - uint16(d.fCntDown%(1<<16))`, widened. -/
def gap (fCntDown fCnt : UInt32) : UInt32 :=
  (fCnt.toUInt16 - (fCntDown % 65536).toUInt16).toUInt32

section
variable (lib : Library)

/-- The data handed to the handler: nothing on port 0, else the first decrypted item. -/
def frmData (appSKey : AES128Key) (phy : PHYPayload) (fPort : UInt8) : Except String (List UInt8) :=
  if fPort = 0 then .ok [] else
  match lib.decryptFRMPayload appSKey phy with
  | .error e => .error ("decrypt frmpayload error: " ++ e)
  | .ok [] => .ok []
  | .ok (.dataPayload bytes :: _) => .ok bytes
  | .ok (.macCommand _ :: _) => .error "expected *lorawan.DataPayload, got: *lorawan.MACCommand"

/-- `downlinkData` once the MIC is valid and the payload is a `MACPayload`: the counter moves
    first, the handler is called last. -/
def acceptData (d : Device) (phy : PHYPayload) (macPL : MACPayload) : Outcome :=
  -- the frame itself keeps its 16 bits, also for the decryption below
  let fCntDown := d.fCntDown + gap d.fCntDown macPL.fhdr.fCnt
  let fPort := macPL.fPort.getD 0
  match frmData lib d.appSKey phy fPort with
  | .error e => ⟨{ d with fCntDown }, none, some e⟩
  | .ok data =>
    ⟨{ d with fCntDown },
      if d.downlinkHandlerFunc then
        some ⟨phy.mType = .confirmedDataDown, macPL.fhdr.fCtrl.ack, fCntDown, fPort, data⟩
      else none,
      none⟩

/-- `downlinkData`. -/
def downlinkData (d : Device) (phy : PHYPayload) : Outcome :=
  match lib.validateDownlinkDataMIC d.nwkSKey phy with
  | .error _ => ⟨d, none, none⟩
  | .ok false => ⟨d, none, none⟩
  | .ok true =>
    match phy.body with
    | .mac macPL => acceptData lib d phy macPL
    | body => ⟨d, none, some ("expected *lorawan.MACPayload, got: " ++ body.typeName)⟩

end

/-- **A data downlink changes nothing of the device but the counter.** -/
theorem downlinkData_device (lib : Library) (d : Device) (phy : PHYPayload) :
    ∃ n, (downlinkData lib d phy).device = { d with fCntDown := n } := by
  unfold downlinkData
  split
  · exact ⟨d.fCntDown, rfl⟩
  · exact ⟨d.fCntDown, rfl⟩
  · split
    · rename_i macPL _
      refine ⟨d.fCntDown + gap d.fCntDown macPL.fhdr.fCnt, ?_⟩
      unfold acceptData
      dsimp only
      split <;> rfl
    · exact ⟨d.fCntDown, rfl⟩

/-- The counter moves to the next number with the 16 bits of the frame. -/
theorem toNat_add_gap (fCntDown fCnt : UInt32) :
    (fCntDown + gap fCntDown fCnt).toNat
      = Counter.advance 65536 fCntDown.toNat (fCnt.toNat % 65536) % 2 ^ 32 := by
  have hlt : fCntDown.toNat % 65536 < 65536 := Nat.mod_lt _ (by decide)
  have hgap : (gap fCntDown fCnt).toNat
      = (fCnt.toNat % 65536 + 65536 - fCntDown.toNat % 65536) % 65536 := by
    simp only [gap, UInt16.toNat_toUInt32, UInt16.toNat_sub, UInt32.toNat_toUInt16,
      UInt32.toNat_mod, UInt32.reduceToNat, Nat.reducePow, Nat.mod_mod]
    omega
  rw [UInt32.toNat_add, hgap, Counter.advance]

/-! ## The frames of the server -/

/-- A data downlink as the server builds it: the full counter `n` and the plaintext. -/
structure ServerDownlink where
  confirmed : Bool
  devAddr : DevAddr
  fCtrl : FCtrl
  fOpts : List UInt8
  n : UInt32
  fPort : Option UInt8
  payload : List UInt8
  /-- A payload needs a port. -/
  port_of_payload : payload ≠ [] → fPort ≠ none

/-- What the server and the library share: the frame MIC and the key stream of the payload, each
    computed with a full counter. -/
structure Crypto where
  dataMIC : AES128Key → MType → MACPayload → MIC
  keyStream : AES128Key → DevAddr → UInt32 → Nat → UInt8

/-- A payload under a key stream; doing it twice undoes it. -/
def cryptFRM (stream : Nat → UInt8) (bytes : List UInt8) : List UInt8 :=
  bytes.mapIdx fun i b => b ^^^ stream i

@[simp] theorem cryptFRM_nil (stream : Nat → UInt8) : cryptFRM stream [] = [] := rfl

@[simp] theorem cryptFRM_cryptFRM (stream : Nat → UInt8) (bytes : List UInt8) :
    cryptFRM stream (cryptFRM stream bytes) = bytes := by
  apply List.ext_getElem?
  intro i
  have hxor : ∀ b, b ^^^ stream i ^^^ stream i = b := by
    intro b
    rw [UInt8.xor_assoc, UInt8.xor_self, UInt8.xor_zero]
  cases h : bytes[i]? with
  | none => simp only [cryptFRM, List.getElem?_mapIdx, h, Option.map_none]
  | some b => simp only [cryptFRM, List.getElem?_mapIdx, h, Option.map_some, hxor]

namespace ServerDownlink

def mType (g : ServerDownlink) : MType :=
  if g.confirmed then .confirmedDataDown else .unconfirmedDataDown

/-- Port 0 is encrypted with the network key, every other one with the application key. -/
def frmKey (g : ServerDownlink) (nwkSKey appSKey : AES128Key) : AES128Key :=
  if g.fPort = some 0 then nwkSKey else appSKey

/-- The MAC payload with the encrypted plaintext, under a header with the counter `fCnt`. -/
def macPayload (c : Crypto) (nwkSKey appSKey : AES128Key) (g : ServerDownlink) (fCnt : UInt32) :
    MACPayload where
  fhdr := ⟨g.devAddr, g.fCtrl, fCnt, g.fOpts⟩
  fPort := g.fPort
  frmPayload :=
    if g.payload = [] then [] else
      [.dataPayload (cryptFRM (c.keyStream (g.frmKey nwkSKey appSKey) g.devAddr g.n) g.payload)]

/-- The server computes the MIC with the full counter. -/
def mic (c : Crypto) (nwkSKey appSKey : AES128Key) (g : ServerDownlink) : MIC :=
  c.dataMIC nwkSKey g.mType (g.macPayload c nwkSKey appSKey g.n)

/-- The 16 bits of the counter that are transmitted. -/
def fCnt16 (g : ServerDownlink) : UInt32 := g.n % 65536

/-- The frame as the device unmarshals it: `FHDR.FCnt` holds the 16 transmitted bits. -/
def received (c : Crypto) (nwkSKey appSKey : AES128Key) (g : ServerDownlink) : PHYPayload where
  mType := g.mType
  body := .mac (g.macPayload c nwkSKey appSKey g.fCnt16)
  mic := g.mic c nwkSKey appSKey

end ServerDownlink

/-- What is assumed of the library: validation and decryption use `FHDR.FCnt` as it stands, and an
    empty `FRMPayload` is left alone. -/
structure Conforms (lib : Library) (c : Crypto) : Prop where
  validate : ∀ key mType macPL mic,
    lib.validateDownlinkDataMIC key ⟨mType, .mac macPL, mic⟩
      = .ok (decide (mic = c.dataMIC key mType macPL))
  decrypt_nil : ∀ key mType macPL mic, macPL.frmPayload = [] →
    lib.decryptFRMPayload key ⟨mType, .mac macPL, mic⟩ = .ok []
  decrypt_data : ∀ key mType macPL mic bytes, macPL.frmPayload = [.dataPayload bytes] →
    macPL.fPort.getD 0 ≠ 0 →
    lib.decryptFRMPayload key ⟨mType, .mac macPL, mic⟩
      = .ok [.dataPayload (cryptFRM (c.keyStream key macPL.fhdr.devAddr macPL.fhdr.fCnt) bytes)]

/-! ## One frame -/

section
variable {lib : Library} {c : Crypto}

/-- The frame as the device `d` of the session gets it. -/
def ServerDownlink.receivedBy (c : Crypto) (d : Device) (g : ServerDownlink) : PHYPayload :=
  g.received c d.nwkSKey d.appSKey

/-- The MIC over the 16 transmitted bits is the one over the full counter. -/
def MICAgrees (c : Crypto) (d : Device) (g : ServerDownlink) : Prop :=
  g.mic c d.nwkSKey d.appSKey
    = c.dataMIC d.nwkSKey g.mType (g.macPayload c d.nwkSKey d.appSKey g.fCnt16)

instance (c : Crypto) (d : Device) (g : ServerDownlink) : Decidable (MICAgrees c d g) := by
  unfold MICAgrees; infer_instance

theorem validate_receivedBy (hlib : Conforms lib c) (d : Device) (g : ServerDownlink) :
    lib.validateDownlinkDataMIC d.nwkSKey (g.receivedBy c d) = .ok (decide (MICAgrees c d g)) :=
  hlib.validate d.nwkSKey g.mType _ _

/-- The device's reading of the encrypted plaintext: under the key stream of the 16 bits. -/
def decrypted (c : Crypto) (d : Device) (g : ServerDownlink) : List UInt8 :=
  cryptFRM (c.keyStream d.appSKey g.devAddr g.fCnt16)
    (cryptFRM (c.keyStream (g.frmKey d.nwkSKey d.appSKey) g.devAddr g.n) g.payload)

/-- What `downlinkData` hands to the handler as data. -/
def readData (c : Crypto) (d : Device) (g : ServerDownlink) : List UInt8 :=
  if g.fPort.getD 0 = 0 then [] else decrypted c d g

theorem frmData_received (hlib : Conforms lib c) (d : Device) (g : ServerDownlink) :
    frmData lib d.appSKey (g.receivedBy c d) (g.fPort.getD 0) = .ok (readData c d g) := by
  unfold frmData readData
  by_cases hport : g.fPort.getD 0 = 0
  · rw [if_pos hport, if_pos hport]
  · rw [if_neg hport, if_neg hport]
    by_cases hpl : g.payload = []
    · have hnil : (g.macPayload c d.nwkSKey d.appSKey g.fCnt16).frmPayload = [] := if_pos hpl
      have hdec := hlib.decrypt_nil d.appSKey g.mType _ (g.mic c d.nwkSKey d.appSKey) hnil
      rw [ServerDownlink.receivedBy, ServerDownlink.received, hdec, decrypted, hpl, cryptFRM_nil,
        cryptFRM_nil]
    · have hone : (g.macPayload c d.nwkSKey d.appSKey g.fCnt16).frmPayload = [.dataPayload
          (cryptFRM (c.keyStream (g.frmKey d.nwkSKey d.appSKey) g.devAddr g.n) g.payload)] :=
        if_neg hpl
      have hdec := hlib.decrypt_data d.appSKey g.mType _ (g.mic c d.nwkSKey d.appSKey) _ hone hport
      rw [ServerDownlink.receivedBy, ServerDownlink.received, hdec]
      rfl

/-- A frame whose MIC does not agree is dropped without a trace. -/
theorem downlinkData_rejected (hlib : Conforms lib c) {d : Device} {g : ServerDownlink}
    (hmic : ¬ MICAgrees c d g) : downlinkData lib d (g.receivedBy c d) = ⟨d, none, none⟩ := by
  rw [downlinkData, validate_receivedBy hlib, decide_eq_false hmic]

/-- A frame whose MIC agrees moves the counter and reaches the handler, if there is one. -/
theorem downlinkData_accepted (hlib : Conforms lib c) {d : Device} {g : ServerDownlink}
    (hmic : MICAgrees c d g) :
    downlinkData lib d (g.receivedBy c d) =
      ⟨{ d with fCntDown := d.fCntDown + gap d.fCntDown g.fCnt16 },
        if d.downlinkHandlerFunc then
          some ⟨g.confirmed, g.fCtrl.ack, d.fCntDown + gap d.fCntDown g.fCnt16, g.fPort.getD 0,
            readData c d g⟩
        else none,
        none⟩ := by
  have hconf : decide (g.mType = .confirmedDataDown) = g.confirmed := by
    cases h : g.confirmed <;> simp [ServerDownlink.mType, h]
  rw [downlinkData, validate_receivedBy hlib, decide_eq_true hmic]
  show acceptData lib d (g.receivedBy c d) (g.macPayload c d.nwkSKey d.appSKey g.fCnt16) = _
  have hdata := frmData_received hlib d g
  simp only [acceptData, ServerDownlink.macPayload, hdata]
  rw [← hconf]
  rfl

/-- The 16 transmitted bits lead to the full counter, anywhere in the window. -/
theorem add_gap_eq {d : Device} {g : ServerDownlink} (hle : d.fCntDown.toNat ≤ g.n.toNat)
    (hlt : g.n.toNat < d.fCntDown.toNat + 65536) :
    d.fCntDown + gap d.fCntDown g.fCnt16 = g.n := by
  apply UInt32.toNat_inj.mp
  have hn : g.n.toNat < 2 ^ 32 := g.n.toNat_lt
  rw [toNat_add_gap]
  have h16 : g.fCnt16.toNat % 65536 = g.n.toNat % 65536 := by
    simp [ServerDownlink.fCnt16, UInt32.toNat_mod]
  rw [h16, Counter.advance_eq hle hlt, Nat.mod_eq_of_lt hn]

/-- Below 2^16 the 16 transmitted bits are the counter. -/
theorem fCnt16_eq {g : ServerDownlink} (hn : g.n.toNat < 65536) : g.fCnt16 = g.n := by
  apply UInt32.toNat_inj.mp
  rw [ServerDownlink.fCnt16, UInt32.toNat_mod]
  exact Nat.mod_eq_of_lt hn

theorem micAgrees_of_lt {d : Device} {g : ServerDownlink} (hn : g.n.toNat < 65536) :
    MICAgrees c d g := by
  rw [MICAgrees, fCnt16_eq hn]
  rfl

theorem decrypted_of_lt {d : Device} {g : ServerDownlink} (hn : g.n.toNat < 65536)
    (hport : g.fPort.getD 0 ≠ 0) : decrypted c d g = g.payload := by
  have hkey : g.frmKey d.nwkSKey d.appSKey = d.appSKey := by
    refine if_neg fun h => hport ?_
    rw [h]
    rfl
  rw [decrypted, fCnt16_eq hn, hkey, cryptFRM_cryptFRM]

/-- The frame is accepted, counted and handed over with the server's counter and plaintext. -/
def Delivered (d : Device) (g : ServerDownlink) (o : Outcome) : Prop :=
  o.device = { d with fCntDown := g.n } ∧
    o.handled = some ⟨g.confirmed, g.fCtrl.ack, g.n, g.fPort.getD 0, g.payload⟩

/-- MIC and key stream of the 16 bits happen to be those of the full counter. -/
def Coincides (c : Crypto) (d : Device) (g : ServerDownlink) : Prop :=
  MICAgrees c d g ∧ decrypted c d g = g.payload

/-- A downlink of the window is delivered if the 16 bits do for its counter and its payload has a
    port. -/
theorem delivered_of_carried (hlib : Conforms lib c) (d : Device)
    (hhandler : d.downlinkHandlerFunc = true) (g : ServerDownlink)
    (hle : d.fCntDown.toNat ≤ g.n.toNat) (hlt : g.n.toNat < d.fCntDown.toNat + 65536)
    (hn : g.n.toNat < 65536 ∨ Coincides c d g) (hport : g.fPort.getD 0 ≠ 0 ∨ g.payload = []) :
    Delivered d g (downlinkData lib d (g.receivedBy c d)) := by
  have hcount := add_gap_eq hle hlt
  have hmic : MICAgrees c d g := by
    rcases hn with hn | hn
    · exact micAgrees_of_lt hn
    · exact hn.1
  have hdata : readData c d g = g.payload := by
    unfold readData
    split
    · rename_i hzero
      exact (hport.resolve_left fun h => h hzero).symm
    · rename_i hne
      rcases hn with hn | hn
      · exact decrypted_of_lt hn hne
      · exact hn.2
  rw [downlinkData_accepted hlib hmic, hcount, hdata, if_pos hhandler]
  exact ⟨rfl, rfl⟩

/-- **When a downlink of the window is delivered**: its counter still fits the 16 bits — or MIC and
    key stream collide — and it is not a payload on port 0. -/
theorem delivered_iff (hlib : Conforms lib c) (d : Device) (hhandler : d.downlinkHandlerFunc = true)
    (g : ServerDownlink) (hle : d.fCntDown.toNat ≤ g.n.toNat)
    (hlt : g.n.toNat < d.fCntDown.toNat + 65536) :
    Delivered d g (downlinkData lib d (g.receivedBy c d)) ↔
      (g.n.toNat < 65536 ∨ Coincides c d g) ∧ (g.fPort.getD 0 ≠ 0 ∨ g.payload = []) := by
  have hcount := add_gap_eq hle hlt
  constructor
  · rintro ⟨-, hcall⟩
    -- a rejected frame makes no call
    have hmic : MICAgrees c d g := by
      by_contra hmic
      rw [downlinkData_rejected hlib hmic] at hcall
      exact absurd hcall (by simp)
    rw [downlinkData_accepted hlib hmic, if_pos hhandler] at hcall
    have hdata : readData c d g = g.payload := by simpa [hcount] using hcall
    by_cases hport : g.fPort.getD 0 = 0
    · -- nothing is read on port 0, so nothing was sent
      have hpl : g.payload = [] := by rw [← hdata, readData, if_pos hport]
      refine ⟨Or.inr ⟨hmic, ?_⟩, Or.inr hpl⟩
      rw [decrypted, hpl, cryptFRM_nil, cryptFRM_nil]
    · rw [readData, if_neg hport] at hdata
      exact ⟨Or.inr ⟨hmic, hdata⟩, Or.inl hport⟩
  · rintro ⟨hn, hport⟩
    exact delivered_of_carried hlib d hhandler g hle hlt hn hport

end

/-! ## Histories of frames below 2^16 -/

/-- A downlink whose counter fits the 16 bits. -/
abbrev ShortDownlink := { g : ServerDownlink // g.n.toNat < 65536 }

/-- A session under way: the device, and the highest server counter it was sent so far. -/
structure Session where
  device : Device
  highest : Option Nat

section
variable (lib : Library) (c : Crypto)

/-- What the next frame does to the device of the session, whose keys no downlink changes. -/
def Session.handle (s : Session) (g : ShortDownlink) : Outcome :=
  downlinkData lib s.device (g.1.receivedBy c s.device)

def Session.raise (s : Session) (g : ShortDownlink) : Nat := max (s.highest.getD 0) g.1.n.toNat

/-- The next frame arrives. -/
def receive (s : Session) (g : ShortDownlink) : Option Session :=
  some ⟨(s.handle lib c g).device, some (s.raise g)⟩

/-- The counter follows the highest one, and a frame that is not above it is ignored. -/
def Tracks (s : Session) (g : ShortDownlink) : Prop :=
  (s.handle lib c g).device.fCntDown.toNat = s.raise g ∧
    ∀ h, s.highest = some h → g.1.n.toNat ≤ h →
      (s.handle lib c g).device = s.device ∧ (s.handle lib c g).handled = none

end

/-- After `m`, the counter `n` is due: it is above, or it repeats where no handler sees it. -/
def Due (handler : Bool) (m n : Nat) : Prop := m < n ∨ (m = n ∧ handler = false)

theorem Due.le {handler : Bool} {m n : Nat} (h : Due handler m n) : m ≤ n := by
  rcases h with h | ⟨h, -⟩ <;> omega

theorem Due.trans {handler : Bool} {k m n : Nat} (hkm : Due handler k m) (hmn : Due handler m n) :
    Due handler k n := by
  rcases hkm with hkm | ⟨rfl, hh⟩
  · exact Or.inl (Nat.lt_of_lt_of_le hkm hmn.le)
  · exact hmn

/-- The frame is due after everything the session has seen. -/
def InOrder (s : Session) (g : ShortDownlink) : Prop :=
  ∀ h, s.highest = some h → Due s.device.downlinkHandlerFunc h g.1.n.toNat

/-- As long as the frames were due, the device's counter is the highest one. -/
structure Sound (s : Session) : Prop where
  counter : s.device.fCntDown.toNat = s.highest.getD 0
  narrow : s.highest.getD 0 < 65536

section
variable {lib : Library} {c : Crypto}

/-- Of a frame below 2^16 the device reads the right counter exactly when it is not a late one. -/
theorem handle_short (hlib : Conforms lib c) (s : Session) (g : ShortDownlink) :
    (s.handle lib c g).device =
        { s.device with fCntDown := s.device.fCntDown + gap s.device.fCntDown g.1.n } ∧
      ((s.handle lib c g).handled = none ↔ s.device.downlinkHandlerFunc = false) := by
  have hmic : MICAgrees c s.device g.1 := micAgrees_of_lt g.2
  rw [Session.handle, downlinkData_accepted hlib hmic, fCnt16_eq g.2]
  refine ⟨rfl, ?_⟩
  cases s.device.downlinkHandlerFunc <;> simp

/-- Where a frame below 2^16 takes the counter of a sound session. -/
theorem counter_short {s : Session} (hs : Sound s) (g : ShortDownlink) :
    (s.device.fCntDown + gap s.device.fCntDown g.1.n).toNat =
      if s.highest.getD 0 ≤ g.1.n.toNat then g.1.n.toNat else g.1.n.toNat + 65536 := by
  have hn := g.2
  have hnarrow := hs.narrow
  rw [toNat_add_gap, hs.counter, Nat.mod_eq_of_lt hn]
  split
  · rename_i hle
    have hadv := Counter.advance_eq (m := 65536) hle (by omega)
    rw [Nat.mod_eq_of_lt hn] at hadv
    rw [hadv, Nat.mod_eq_of_lt (by omega)]
  · rename_i hlt
    rw [Counter.advance_of_lt hnarrow (by omega), Nat.mod_eq_of_lt (by omega)]

theorem tracks_iff_inOrder (hlib : Conforms lib c) {s : Session} (hs : Sound s)
    (g : ShortDownlink) : Tracks lib c s g ↔ InOrder s g := by
  obtain ⟨hdev, hhandled⟩ := handle_short hlib s g
  have hcount := counter_short hs g
  have hraise : s.raise g = max (s.highest.getD 0) g.1.n.toNat := rfl
  have hfirst : (s.handle lib c g).device.fCntDown.toNat =
      if s.highest.getD 0 ≤ g.1.n.toNat then g.1.n.toNat else g.1.n.toNat + 65536 := by
    rw [hdev, hcount]
  constructor
  · rintro ⟨hmax, hstale⟩ h hh
    rw [hfirst, hraise, hh, Option.getD_some] at hmax
    have hle : h ≤ g.1.n.toNat := by
      by_contra hlt
      rw [if_neg hlt] at hmax
      have hn := g.2
      have hnarrow := hs.narrow
      rw [hh, Option.getD_some] at hnarrow
      omega
    rcases Nat.lt_or_eq_of_le hle with hlt | heq
    · exact Or.inl hlt
    · exact Or.inr ⟨heq, hhandled.mp (hstale h hh (Nat.le_of_eq heq.symm)).2⟩
  · intro hdue
    have hle : s.highest.getD 0 ≤ g.1.n.toNat := by
      cases hh : s.highest with
      | none => exact Nat.zero_le _
      | some h => exact (hdue h hh).le
    refine ⟨by rw [hfirst, if_pos hle, hraise, Nat.max_eq_right hle], fun h hh hstale => ?_⟩
    -- a frame that is not above and still due repeats the counter, and no handler is set
    rcases hdue h hh with hlt | ⟨heq, hnone⟩
    · omega
    · refine ⟨?_, hhandled.mpr hnone⟩
      have hsame : s.device.fCntDown + gap s.device.fCntDown g.1.n = s.device.fCntDown := by
        apply UInt32.toNat_inj.mp
        rw [hcount, if_pos hle, hs.counter, hh, Option.getD_some, heq]
      rw [hdev, hsame]

theorem sound_receive {s s' : Session} {g : ShortDownlink} (hs : Sound s)
    (ht : Tracks lib c s g) (h : receive lib c s g = some s') : Sound s' := by
  obtain rfl := Option.some.inj h
  have hn := g.2
  have hnarrow := hs.narrow
  refine ⟨ht.1, ?_⟩
  show max (s.highest.getD 0) g.1.n.toNat < 65536
  omega

/-- A counter that no earlier one is above becomes the highest. -/
theorem raise_eq {s : Session} {g : ShortDownlink}
    (h : ∀ m, s.highest = some m → m ≤ g.1.n.toNat) : s.raise g = g.1.n.toNat := by
  unfold Session.raise
  cases hh : s.highest with
  | none => exact Nat.max_eq_right (Nat.zero_le _)
  | some m => exact Nat.max_eq_right (h m hh)

variable (lib c) in
/-- Frames arrive in order, along the run, exactly when each is due after every earlier one. -/
theorem always_inOrder_iff (handler : Bool) :
    ∀ (gs : List ShortDownlink) (s : Session), s.device.downlinkHandlerFunc = handler →
      (Always (receive lib c) InOrder s gs ↔
        gs.Pairwise (fun g g' => Due handler g.1.n.toNat g'.1.n.toNat) ∧
          ∀ h, s.highest = some h → ∀ g ∈ gs, Due handler h g.1.n.toNat) := by
  intro gs
  -- as long as the frames are due, the highest counter is that of the last one
  induction gs with
  | nil => intro s _; simp
  | cons g gs ih =>
    intro s hs
    have hs' : (s.handle lib c g).device.downlinkHandlerFunc = handler := by
      obtain ⟨n, hn⟩ := downlinkData_device lib s.device (g.1.receivedBy c s.device)
      rw [Session.handle, hn]
      exact hs
    have htail := ih ⟨(s.handle lib c g).device, some (s.raise g)⟩ hs'
    have hnext : (∀ t, receive lib c s g = some t → Always (receive lib c) InOrder t gs) ↔
        Always (receive lib c) InOrder ⟨(s.handle lib c g).device, some (s.raise g)⟩ gs := by
      simp [receive]
    rw [always_cons, hnext, htail, List.pairwise_cons]
    simp only [Option.some.injEq, forall_eq', List.mem_cons, forall_eq_or_imp, InOrder, hs]
    constructor
    · rintro ⟨hfirst, hpair, hlater⟩
      have hraise : s.raise g = g.1.n.toNat := raise_eq fun h hh => (hfirst h hh).le
      rw [hraise] at hlater
      exact ⟨⟨hlater, hpair⟩, fun h hh => ⟨hfirst h hh, fun g' hg' =>
        (hfirst h hh).trans (hlater g' hg')⟩⟩
    · rintro ⟨⟨hlater, hpair⟩, hold⟩
      have hraise : s.raise g = g.1.n.toNat := raise_eq fun h hh => (hold h hh).1.le
      rw [hraise]
      exact ⟨fun h hh => (hold h hh).1, hpair, hlater⟩

/-- **A history of frames below 2^16 is tracked exactly when it arrives in order**: with a handler
    every counter is above all earlier ones, without one it may repeat the last. -/
theorem tracks_iff (hlib : Conforms lib c) (d : Device) (hd : d.fCntDown = 0)
    (gs : List ShortDownlink) :
    Always (receive lib c) (Tracks lib c) ⟨d, none⟩ gs ↔
      gs.Pairwise fun g g' => Due d.downlinkHandlerFunc g.1.n.toNat g'.1.n.toNat := by
  have hsound : Sound ⟨d, none⟩ := ⟨by simp [hd], by simp⟩
  have hcongr := always_congr (I := Sound) (fun s g hs => tracks_iff_inOrder hlib hs g)
    (fun s g s' hs ht h => sound_receive hs ht h) gs hsound
  have horder := always_inOrder_iff lib c d.downlinkHandlerFunc gs ⟨d, none⟩ rfl
  rw [hcongr, horder]
  simp

end

/-! ## A library to run the model with -/

/-- The library of a MIC and a key stream. -/
def libraryOf (c : Crypto) : Library :=
  { Library.plain with
    validateDownlinkDataMIC := fun key phy =>
      match phy.body with
      | .mac macPL => .ok (decide (phy.mic = c.dataMIC key phy.mType macPL))
      | _ => .error "lorawan: MACPayload should be of type *MACPayload"
    decryptFRMPayload := fun key phy =>
      match phy.body with
      | .mac macPL =>
        match macPL.frmPayload with
        | [.dataPayload bytes] =>
          .ok [.dataPayload (cryptFRM (c.keyStream key macPL.fhdr.devAddr macPL.fhdr.fCnt) bytes)]
        | items => .ok items
      | _ => .error "lorawan: MACPayload must be of type *MACPayload" }

theorem conforms_libraryOf (c : Crypto) : Conforms (libraryOf c) c := by
  refine ⟨fun _ _ _ _ => rfl, fun key mType macPL mic h => ?_, fun key mType macPL mic bytes h _ => ?_⟩
  · simp [libraryOf, h]
  · simp [libraryOf, h]

/-- A MIC and a key stream that show the counter they were computed with. -/
def counterCrypto : Crypto where
  dataMIC _ _ macPL :=
    #v[(macPL.fhdr.fCnt >>> 24).toUInt8, (macPL.fhdr.fCnt >>> 16).toUInt8,
      (macPL.fhdr.fCnt >>> 8).toUInt8, macPL.fhdr.fCnt.toUInt8]
  keyStream _ _ fCnt _ := (fCnt >>> 16).toUInt8

/-- An activated device with a handler. -/
def activeDevice (fCntDown : UInt32) : Device :=
  { Device.zero with state := .activated, downlinkHandlerFunc := true, fCntDown }

/-- An unconfirmed downlink on port 10. -/
def downlinkOn10 (n : UInt32) (payload : List UInt8) : ServerDownlink :=
  ⟨false, Vector.replicate 4 1, ⟨false, false, false, false⟩, [], n, some 10, payload, by simp⟩

theorem delivered_iff_seven :
    Delivered (activeDevice 5) (downlinkOn10 7 [1, 2])
      (downlinkData (libraryOf counterCrypto) (activeDevice 5)
        ((downlinkOn10 7 [1, 2]).receivedBy counterCrypto (activeDevice 5))) :=
  (delivered_iff (conforms_libraryOf counterCrypto) (activeDevice 5) rfl (downlinkOn10 7 [1, 2])
    (by decide) (by decide)).mpr ⟨Or.inl (by decide), Or.inl (by decide)⟩

/-- The first downlink after the wrap is dropped. -/
theorem not_delivered_after_wrap :
    Conforms (libraryOf counterCrypto) counterCrypto ∧
      ¬ Delivered (activeDevice 65535) (downlinkOn10 65536 [1])
        (downlinkData (libraryOf counterCrypto) (activeDevice 65535)
          ((downlinkOn10 65536 [1]).receivedBy counterCrypto (activeDevice 65535))) := by
  refine ⟨conforms_libraryOf counterCrypto, ?_⟩
  rintro ⟨-, hcall⟩
  exact absurd hcall (by decide)

/-- The frames with the given counters, all below 2^16. -/
def shortOn10 (n : UInt32) (hn : n.toNat < 65536) : ShortDownlink := ⟨downlinkOn10 n [1], hn⟩

theorem tracks_iff_one_two :
    Always (receive (libraryOf counterCrypto) counterCrypto)
      (Tracks (libraryOf counterCrypto) counterCrypto) ⟨activeDevice 0, none⟩
      [shortOn10 1 (by decide), shortOn10 2 (by decide)] :=
  (tracks_iff (conforms_libraryOf counterCrypto) (activeDevice 0) rfl
    [shortOn10 1 (by decide), shortOn10 2 (by decide)]).mpr (by simp [Due, shortOn10, downlinkOn10])

/-- A late copy: after 2, the frame with counter 1 moves the counter to 65537. -/
theorem late_copy_not_tracked :
    Conforms (libraryOf counterCrypto) counterCrypto ∧
      ¬ Always (receive (libraryOf counterCrypto) counterCrypto)
        (Tracks (libraryOf counterCrypto) counterCrypto) ⟨activeDevice 0, none⟩
        [shortOn10 2 (by decide), shortOn10 1 (by decide)] := by
  refine ⟨conforms_libraryOf counterCrypto, ?_⟩
  rintro ⟨-, hlate⟩
  obtain ⟨⟨hcount, -⟩, -⟩ := hlate _ rfl
  exact absurd hcount (by decide)

end ChirpStackSimulator.Downlink
