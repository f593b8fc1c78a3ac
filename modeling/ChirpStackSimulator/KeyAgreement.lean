/-
  Whether a device uses the key that ChirpStack has for it (`simulation.setupDevices`).

  For a LoRaWAN 1.0.x device ChirpStack takes the NwkKey.  The set-up takes the AppKey in its place
  where the NwkKey is blank, and writes a key back only where the AppKey is blank.  So a device
  whose AppKey alone is set joins with a key that ChirpStack does not try.

  1. **Stored keys** - each is empty, or 128 bits; all zero is as good as empty (`Blank`).  They are
     texts on the wire, and `text` is read back by the parser that `ReadsKeys` assumes.
  2. **One device** (`device_agrees_iff`) - the key obtained is the NwkKey stored afterwards, or the
     pair is one of the two shapes of `Mismatch`.  What the set-up obtains (`keyObtained_pair_iff`)
     and what is stored afterwards (`has_pair_iff`) are computed apart, then compared
     (`pair_agrees_iff`).
  3. **Agreement** (`key_agreement_iff`) - of every device that a set-up loads.
-/
import ChirpStackSimulator.DeviceEnumeration

namespace ChirpStackSimulator.KeyAgreement

open LoRaWAN Setup DeviceEnumeration

/-! ## Stored keys -/

/-- Keys are read back from the text ChirpStack writes them in, and the empty text is no key. -/
structure ReadsKeys (lib : Parsers) : Prop where
  key : ∀ k : AES128Key, lib.aes128Key (Hex.encode k.toList) = .ok k
  empty : ∃ e, lib.aes128Key "" = .error e

/-- The key of sixteen zero bytes. -/
def zeroKey : AES128Key := Vector.replicate 16 0

/-- The text of a key that may be missing. -/
def text : Option AES128Key → String
  | none => ""
  | some k => Hex.encode k.toList

/-- The two keys ChirpStack may have for a device. -/
structure KeyPair where
  nwkKey : Option AES128Key
  appKey : Option AES128Key
  deriving DecidableEq

/-- They are stored as hexadecimal texts, an absent one as the empty text. -/
def KeyPair.keys (devEUI : String) (p : KeyPair) : DeviceKeys := ⟨devEUI, text p.nwkKey, text p.appKey⟩

/-- ChirpStack with the keys of each device. -/
def storeOf (pairs : String → Option KeyPair) : Store :=
  ⟨"", fun devEUI => (pairs devEUI).map (KeyPair.keys devEUI)⟩

/-- A key that stands for none. -/
def Blank (key : Option AES128Key) : Prop := key = none ∨ key = some zeroKey

instance (key : Option AES128Key) : Decidable (Blank key) := by
  unfold Blank
  infer_instance

/-- The test on the text is the test on the key. -/
theorem blankKey_text_iff {key : Option AES128Key} : BlankKey (text key) ↔ Blank key := by
  have hzero : Hex.encode zeroKey.toList = "00000000000000000000000000000000" := by decide
  cases key with
  | none => exact iff_of_true (Or.inl rfl) (Or.inl rfl)
  | some k =>
    have hne : text (some k) ≠ "" := by
      intro h
      have hdecode := Hex.decode_encode k.toList
      rw [show Hex.encode k.toList = "" from h, Hex.decode_eq_some_nil.mpr rfl] at hdecode
      have hlength := congrArg List.length (Option.some.inj hdecode)
      rw [Vector.length_toList] at hlength
      cases hlength
    unfold BlankKey Blank
    rw [or_iff_right hne, or_iff_right (Option.some_ne_none k), ← hzero, Option.some_inj]
    constructor
    · intro h
      exact Vector.toList_inj.mp (Hex.encode_injective h)
    · rintro rfl
      rfl

section
variable {lib : Parsers} {out : Outcome}

/-- A text gives the key it was made of. -/
theorem ReadsKeys.text_iff (h : ReadsKeys lib) {key : Option AES128Key} {k : AES128Key} :
    lib.aes128Key (text key) = .ok k ↔ key = some k := by
  cases key with
  | none =>
    obtain ⟨e, he⟩ := h.empty
    rw [show text none = "" from rfl, he]
    exact iff_of_false (by intro h; cases h) (by intro h; cases h)
  | some k' =>
    rw [show text (some k') = Hex.encode k'.toList from rfl, h.key, Option.some_inj]
    exact ⟨Except.ok.inj, congrArg _⟩

/-- The text that the set-up takes the key from. -/
theorem keyText_keys (devEUI : String) {p : KeyPair} : keyText (p.keys devEUI) =
    text (if Blank p.nwkKey then p.appKey else p.nwkKey) := by
  show (if BlankKey (text p.nwkKey) then text p.appKey else text p.nwkKey) = _
  by_cases hblank : Blank p.nwkKey
  · rw [if_pos hblank, if_pos (blankKey_text_iff.mpr hblank)]
  · rw [if_neg hblank, if_neg (mt blankKey_text_iff.mp hblank)]

/-! ## One device -/

/-- ChirpStack has this NwkKey. -/
def Has (lib : Parsers) (keys : Option DeviceKeys) (k : AES128Key) : Prop :=
  ∃ keys' ∈ keys, lib.aes128Key keys'.nwkKey = .ok k

/-- Only the AppKey is there; or neither is, the NwkKey is empty, the AppKey all zero, and the key is
    not written back. -/
def PairMismatch (out : Outcome) (p : KeyPair) : Prop :=
  Blank p.nwkKey ∧ (¬ Blank p.appKey ∨
    (p.nwkKey = none ∧ p.appKey = some zeroKey ∧ out.updateKeys.applied = false))

variable {devEUI : String} {p : KeyPair} {k : AES128Key}

theorem getKeys_pair (hget : out.getKeys = none) :
    getKeys out (some (p.keys devEUI)) = .ok (p.keys devEUI) := by
  unfold getKeys
  rw [hget]

/-- The device takes the NwkKey, unless it is blank. -/
theorem keyObtained_pair_iff (hlib : ReadsKeys lib) (hget : out.getKeys = none) :
    KeyObtained lib out (some (p.keys devEUI)) k ↔
      (if Blank p.nwkKey then p.appKey else p.nwkKey) = some k := by
  rw [keyObtained_stored_iff (getKeys_pair hget), keyText_keys]
  exact hlib.text_iff

/-- What the NwkKey is afterwards. -/
theorem has_pair_iff (hlib : ReadsKeys lib) (hget : out.getKeys = none) :
    Has lib (keysAfter out devEUI (some (p.keys devEUI))) k ↔
      (if Blank p.appKey ∧ out.updateKeys.applied = true ∧ Blank p.nwkKey then p.appKey
        else p.nwkKey) = some k := by
  have hold : Has lib (some (p.keys devEUI)) k ↔ p.nwkKey = some k := by
    rw [← hlib.text_iff]
    simp [Has, KeyPair.keys]
  have hnew : Has lib (some ⟨devEUI, keyText (p.keys devEUI), keyText (p.keys devEUI)⟩) k ↔
      (if Blank p.nwkKey then p.appKey else p.nwkKey) = some k := by
    rw [← hlib.text_iff, ← keyText_keys devEUI]
    simp [Has]
  unfold keysAfter written
  rw [getKeys_pair hget]
  dsimp only
  have hblank : BlankKey (p.keys devEUI).appKey ↔ Blank p.appKey := blankKey_text_iff
  by_cases happ : Blank p.appKey
  · rw [if_pos (hblank.mpr happ)]
    by_cases happlied : out.updateKeys.applied = true
    · rw [if_pos happlied, hnew]
      simp [happ, happlied]
    · rw [if_neg happlied, hold]
      simp [happlied]
  · rw [if_neg (mt hblank.mp happ), hold]
    simp [happ]

/-- **One device with keys.** -/
theorem pair_agrees_iff (hlib : ReadsKeys lib) (hget : out.getKeys = none) :
    (∀ k, KeyObtained lib out (some (p.keys devEUI)) k →
      Has lib (keysAfter out devEUI (some (p.keys devEUI))) k) ↔ ¬ PairMismatch out p := by
  have hiff : (∀ k, KeyObtained lib out (some (p.keys devEUI)) k →
      Has lib (keysAfter out devEUI (some (p.keys devEUI))) k) ↔
      ∀ k, (if Blank p.nwkKey then p.appKey else p.nwkKey) = some k →
        (if Blank p.appKey ∧ out.updateKeys.applied = true ∧ Blank p.nwkKey then p.appKey
          else p.nwkKey) = some k :=
    forall_congr' fun k => imp_congr (keyObtained_pair_iff hlib hget) (has_pair_iff hlib hget)
  rw [hiff]
  unfold PairMismatch
  by_cases hnwk : Blank p.nwkKey
  · rw [if_pos hnwk, and_iff_right hnwk]
    by_cases happ : Blank p.appKey
    · rcases happ with hnone | hzero
      · -- no key is obtained
        refine iff_of_true (fun k hk => ?_) fun h => ?_
        · rw [hnone] at hk
          cases hk
        · rcases h with h | h
          · exact h (Or.inl hnone)
          · rw [hnone] at h
            exact Option.some_ne_none _ h.2.1.symm
      · have hblank : Blank p.appKey := Or.inr hzero
        rw [or_iff_right (not_not.mpr hblank)]
        by_cases happlied : out.updateKeys.applied = true
        · refine iff_of_true (fun k hk => ?_) fun h => ?_
          · rw [if_pos ⟨hblank, happlied, hnwk⟩]
            exact hk
          · rw [happlied] at h
            exact Bool.false_ne_true h.2.2.symm
        · have hkept : ∀ k, p.appKey = some k → ((if Blank p.appKey ∧
              out.updateKeys.applied = true ∧ Blank p.nwkKey then p.appKey else p.nwkKey) = some k ↔
                p.nwkKey ≠ none) := by
            intro k hk
            obtain rfl : zeroKey = k := Option.some.inj (hzero.symm.trans hk)
            rw [if_neg fun h => happlied h.2.1]
            exact ⟨fun h h' => Option.some_ne_none _ (h.symm.trans h'), hnwk.resolve_left⟩
          constructor
          · rintro h ⟨hnone, -⟩
            exact (hkept _ hzero).mp (h _ hzero) hnone
          · intro h k hk
            refine (hkept k hk).mpr fun hnone => h ⟨hnone, hzero, ?_⟩
            exact Bool.eq_false_iff.mpr happlied
    · -- the device has the AppKey, and the NwkKey stays blank
      refine iff_of_false (fun h => ?_) (not_not.mpr (Or.inl happ))
      cases hkey : p.appKey with
      | none => exact happ (Or.inl hkey)
      | some a =>
        have hnwk' := h a hkey
        rw [if_neg fun h => happ h.1] at hnwk'
        rw [hnwk', ← hkey] at hnwk
        exact happ hnwk
  · rw [if_neg hnwk]
    exact iff_of_true (fun k hk => by rw [if_neg fun h => hnwk h.2.2]; exact hk) fun h => hnwk h.1

/-- A key that ChirpStack has taken. -/
theorem has_created {stored : Option DeviceKeys} {e : RPCError} (hkeys : getKeys out stored = .error e)
    (h : KeyObtained lib out stored k) : Has lib (keysAfter out devEUI stored) k := by
  obtain ⟨hmissing, bytes, hrand, hcreate, hparse⟩ := (keyObtained_created_iff hkeys).mp h
  have happlied : out.createKeys.applied = true := by
    cases hout : out.createKeys with
    | ok => rfl
    | error e' applied =>
      rw [hout] at hcreate
      cases hcreate
  unfold keysAfter written
  rw [hkeys]
  dsimp only
  rw [if_pos hmissing, hrand]
  dsimp only
  rw [if_pos happlied]
  exact ⟨_, rfl, hparse⟩

/-- The device is there with a pair of keys that does not fit. -/
def Mismatch (out : Outcome) (stored : Option KeyPair) : Prop :=
  Active out ∧ out.getKeys = none ∧ ∃ p ∈ stored, PairMismatch out p

/-- **One device.** -/
theorem device_agrees_iff (devEUI : String) (hlib : ReadsKeys lib) (stored : Option KeyPair) :
    (∀ k, Joins lib out (stored.map (KeyPair.keys devEUI)) k →
      Has lib (keysAfter out devEUI (stored.map (KeyPair.keys devEUI))) k) ↔
        ¬ Mismatch out stored := by
  by_cases hactive : Active out
  · have hjoins : (∀ k, Joins lib out (stored.map (KeyPair.keys devEUI)) k →
        Has lib (keysAfter out devEUI (stored.map (KeyPair.keys devEUI))) k) ↔
        ∀ k, KeyObtained lib out (stored.map (KeyPair.keys devEUI)) k →
          Has lib (keysAfter out devEUI (stored.map (KeyPair.keys devEUI))) k :=
      forall_congr' fun k => imp_congr_left (and_iff_right hactive)
    rw [hjoins]
    unfold Mismatch
    rw [and_iff_right hactive]
    cases hget : out.getKeys with
    | some e =>
      have hkeys : getKeys out (stored.map (KeyPair.keys devEUI)) = .error e := by
        unfold getKeys
        rw [hget]
      exact iff_of_true (fun k => has_created hkeys) fun h => Option.some_ne_none e h.1
    | none =>
      rw [and_iff_right rfl]
      cases stored with
      | none =>
        have hkeys : getKeys out none = .error ⟨true, "object does not exist"⟩ := by
          unfold getKeys
          rw [hget]
        refine iff_of_true (fun k => has_created hkeys) ?_
        rintro ⟨p, hp, -⟩
        cases hp
      | some p =>
        refine (pair_agrees_iff hlib hget).trans (not_congr ?_)
        simp
  · exact iff_of_true (fun k hk => absurd hk.1 hactive) fun h => hactive h.1

end

/-! ## Agreement -/

/-- If the device is loaded, its key is the NwkKey that ChirpStack has. -/
def Agrees (lib : Parsers) (d : DeviceListItem) (r : Loaded) (st : Store) : Prop :=
  ∀ e k, lib.eui64 d.devEUI = .ok e → (e, k) ∈ r.deviceAppKeys → Has lib (st.keys d.devEUI) k

/-- **Key agreement** after the set-up of the devices, for each of them: exactly if its keys do not
    mismatch.  The number of devices in a listing is a 32-bit number. -/
theorem key_agreement_iff {lib : Parsers} {devices : String → List DeviceListItem}
    {o : String → Outcome} {pairs : String → Option KeyPair} {s : Loaded} {fuel : Nat}
    (hlib : ReadsKeys lib) (hlisted : Listed lib (devices s.applicationID))
    (hcount : (devices s.applicationID).length < 2 ^ 32)
    (hfuel : (devices s.applicationID).length < 1000 * fuel) {d : DeviceListItem}
    (hd : d ∈ devices s.applicationID) :
    Agrees lib d ((setupDevices lib fuel s).result (world devices o) (storeOf pairs)).1
        ((setupDevices lib fuel s).final (world devices o) (storeOf pairs)) ↔
      ¬ Mismatch (o d.devEUI) (pairs d.devEUI) := by
  have hfilled := (filled_setupDevices o (storeOf pairs) hlisted
    (pages_all (by omega) hfuel)).2
  rw [← device_agrees_iff d.devEUI hlib]
  obtain ⟨e, heui⟩ := hlisted.parse d hd
  unfold Agrees
  constructor
  · intro h k hjoins
    have hkeys := h e k heui ((hfilled.mem_appKeys e k).mpr ⟨d, hd, heui, hjoins⟩)
    rw [hfilled.asked d hd hjoins.1] at hkeys
    exact hkeys
  · intro h e' k heui' hmem
    obtain ⟨d', hd', heui'', hjoins⟩ := (hfilled.mem_appKeys e' k).mp hmem
    have hsame : d' = d := List.inj_on_of_nodup_map hlisted.distinct hd' hd (heui''.trans heui'.symm)
    subst hsame
    rw [hfilled.asked d' hd hjoins.1]
    exact h k hjoins

theorem plain_readsKeys : ReadsKeys .plain where
  key k := by
    unfold Parsers.plain
    exact parseBytes_encode k
  empty := ⟨_, rfl⟩

def someKey : AES128Key := Vector.replicate 16 1

/-- A device that has the NwkKey only. -/
theorem key_agreement_iff_nwkKey : Agrees .plain (numbered 0)
    ((setupDevices .plain 1 .empty).result (world (manyDevices 1) fun _ => healthy)
      (storeOf fun _ => some ⟨some someKey, none⟩)).1
    ((setupDevices .plain 1 .empty).final (world (manyDevices 1) fun _ => healthy)
      (storeOf fun _ => some ⟨some someKey, none⟩)) := by
  refine (key_agreement_iff plain_readsKeys (listed_manyDevices (by omega) _) ?_ ?_ ?_).mpr ?_
  · rw [manyDevices, List.length_map, List.length_range]
    omega
  · rw [manyDevices, List.length_map, List.length_range]
    omega
  · exact List.mem_map_of_mem (List.mem_range.mpr (by omega))
  · rintro ⟨-, -, p, hp, hblank, -⟩
    cases hp
    exact absurd hblank (by decide)

/-- A device that has the AppKey only uses it, and its NwkKey stays empty. -/
theorem onlyAppKey_disagrees : ¬ Agrees .plain (numbered 0)
    ((setupDevices .plain 1 .empty).result (world (manyDevices 1) fun _ => healthy)
      (storeOf fun _ => some ⟨none, some someKey⟩)).1
    ((setupDevices .plain 1 .empty).final (world (manyDevices 1) fun _ => healthy)
      (storeOf fun _ => some ⟨none, some someKey⟩)) := by
  intro h
  have hmem : (euiOf 0, someKey) ∈ ((setupDevices .plain 1 .empty).result
      (world (manyDevices 1) fun _ => healthy)
      (storeOf fun _ => some ⟨none, some someKey⟩)).1.deviceAppKeys := by decide +kernel
  obtain ⟨keys, hkeys, hparse⟩ := h (euiOf 0) someKey (numbered_parse 0) hmem
  have hnwk : (((setupDevices .plain 1 .empty).final (world (manyDevices 1) fun _ => healthy)
      (storeOf fun _ => some ⟨none, some someKey⟩)).keys (numbered 0).devEUI).map DeviceKeys.nwkKey =
        some "" := by decide +kernel
  rw [Option.mem_def.mp hkeys] at hnwk
  rw [show keys.nwkKey = "" from Option.some.inj hnwk] at hparse
  obtain ⟨e, he⟩ := plain_readsKeys.empty
  rw [he] at hparse
  cases hparse

end ChirpStackSimulator.KeyAgreement
