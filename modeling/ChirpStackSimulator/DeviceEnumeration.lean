/-
  How a set-up enumerates the devices of its application (`simulation.setupDevices`).

  The devices are listed in pages of 1000, with an offset of 32 bits; then the keys of each enabled one
  are asked for, and three containers are filled side by side.

  1. **The world** - the listing of each application, what is answered for each device, and the keys that
     ChirpStack has stored.
  2. **Paging** - after `k` full pages the loop is at the offset `1000 * k` (`pages_advance`), as long as
     32 bits hold it; then it begins again at 704.
  3. **One device** - whether its key is obtained, and what it is (`deviceKey_result_iff`).
  4. **All devices** - the containers stay in step (`Filled`), by one device (`filled_loadDevice`) and by
     all of them (`filled_loadDevices`).
  5. **Enumeration** (`enumerates_iff`).
-/
import ChirpStackSimulator.Lib.Pages
import ChirpStackSimulator.ServedSetup

namespace ChirpStackSimulator.DeviceEnumeration

open LoRaWAN Setup Pages

/-! ## The world -/

/-- What becomes of a call that writes keys; one that fails may have written them. -/
inductive WriteOutcome where
  | ok
  | error (e : RPCError) (applied : Bool)
  deriving DecidableEq

/-- The error a write is answered with, if any. -/
def WriteOutcome.answer : WriteOutcome → Option RPCError
  | .ok => none
  | .error e _ => some e

/-- Whether the write has had its effect. -/
def WriteOutcome.applied : WriteOutcome → Bool
  | .ok => true
  | .error _ applied => applied

/-- What is answered for a device. -/
structure Outcome where
  get : Except RPCError DeviceRecord
  /-- An error of `GetKeys`, whatever keys there are. -/
  getKeys : Option RPCError
  randRead : (n : Nat) → Except String (Vector UInt8 n)
  createKeys : WriteOutcome
  updateKeys : WriteOutcome

/-- The keys that are stored. -/
structure Store where
  /-- The device whose keys were asked for last. -/
  current : String
  keys : String → Option DeviceKeys

/-- `GetKeys`. -/
def getKeys (out : Outcome) (stored : Option DeviceKeys) : Except RPCError DeviceKeys :=
  match out.getKeys with
  | some e => .error e
  | none =>
    match stored with
    | some keys => .ok keys
    | none => .error ⟨true, "object does not exist"⟩

/-- A write that has its effect replaces the keys. -/
def Store.write (st : Store) (w : WriteOutcome) (keys : DeviceKeys) : Store :=
  if w.applied then { st with keys := Function.update st.keys keys.devEUI (some keys) } else st

/-- ChirpStack, with the devices of each application. -/
def world (devices : String → List DeviceListItem) (o : String → Outcome) :
    Prog.Env Store Call.Answer
  | st, .rpc (.listDevices applicationID _ limit offset) =>
    (.ok (page (devices applicationID) offset.toNat limit), st)
  | st, .rpc (.getDevice devEUI) => ((o devEUI).get, st)
  | st, .rpc (.getKeys devEUI) =>
    (getKeys (o devEUI) (st.keys devEUI), { st with current := devEUI })
  | st, .rpc (.createKeys keys) =>
    ((o keys.devEUI).createKeys.answer, st.write (o keys.devEUI).createKeys keys)
  | st, .rpc (.updateKeys keys) =>
    ((o keys.devEUI).updateKeys.answer, st.write (o keys.devEUI).updateKeys keys)
  | st, .randRead n => ((o st.current).randRead n, st)
  | st, c => (Call.answer RPC.unavailable c, st)

section
variable {devices : String → List DeviceListItem} {o : String → Outcome} {st : Store}

/-- What the world answers, call by call. -/
theorem world_getDevice (devEUI : String) :
    world devices o st (.rpc (.getDevice devEUI)) = ((o devEUI).get, st) := rfl

theorem world_getKeys (devEUI : String) : world devices o st (.rpc (.getKeys devEUI)) =
    (getKeys (o devEUI) (st.keys devEUI), { st with current := devEUI }) := rfl

theorem world_createKeys (keys : DeviceKeys) : world devices o st (.rpc (.createKeys keys)) =
    ((o keys.devEUI).createKeys.answer, st.write (o keys.devEUI).createKeys keys) := rfl

theorem world_randRead (n : Nat) :
    world devices o st (.randRead n) = ((o st.current).randRead n, st) := rfl

end

/-! ## Paging -/

section
variable {devices : String → List DeviceListItem} {o : String → Outcome} {st : Store} {app : String}

/-- A round of the loop. -/
theorem listAllDevices_succ {fuel : Nat} {offset : UInt32} {all : List DeviceListItem} :
    (listAllDevices app (fuel + 1) offset all).result (world devices o) st =
      (if page (devices app) offset.toNat 1000 = [] then
        pure (some (.ok all))
      else if (page (devices app) offset.toNat 1000).length < 1000 then
        pure (some (.ok (all ++ page (devices app) offset.toNat 1000)))
      else listAllDevices app fuel (offset + 1000)
        (all ++ page (devices app) offset.toNat 1000)).result (world devices o) st := rfl

/-- The loop looks and does not touch. -/
theorem listAllDevices_final {fuel : Nat} {offset : UInt32} {all : List DeviceListItem} :
    (listAllDevices app fuel offset all).final (world devices o) st = st := by
  induction fuel generalizing offset all with
  | zero => rfl
  | succ fuel ih =>
    show (if page (devices app) offset.toNat 1000 = [] then
        pure (some (.ok all))
      else if (page (devices app) offset.toNat 1000).length < 1000 then
        pure (some (.ok (all ++ page (devices app) offset.toNat 1000)))
      else listAllDevices app fuel (offset + 1000)
        (all ++ page (devices app) offset.toNat 1000)).final (world devices o) st = st
    split
    · rfl
    · split
      · rfl
      · exact ih

/-- An offset below 2^32 does not wrap. -/
theorem ofNat_toNat_of_lt {n : Nat} (h : n < 4294967296) : (UInt32.ofNat n).toNat = n := by
  rw [UInt32.toNat_ofNat']
  exact Nat.mod_eq_of_lt h

variable (o st) in
/-- After `k` full pages. -/
theorem pages_advance (k fuel : Nat) (hk : k ≤ 4294968) (hfull : 1000 * k ≤ (devices app).length) :
    (listAllDevices app (fuel + k) 0 []).result (world devices o) st =
      (listAllDevices app fuel (UInt32.ofNat (1000 * k)) ((devices app).take (1000 * k))).result
        (world devices o) st := by
  induction k generalizing fuel with
  | zero => rfl
  | succ k ih =>
    have hoffset : (UInt32.ofNat (1000 * k)).toNat = 1000 * k := ofNat_toNat_of_lt (by omega)
    have hlength : (page (devices app) (1000 * k) 1000).length = 1000 := by
      rw [length_page]
      omega
    have hne : page (devices app) (1000 * k) 1000 ≠ [] := by
      rw [Ne, page_eq_nil_iff]
      omega
    have hnext : UInt32.ofNat (1000 * k) + 1000 = UInt32.ofNat (1000 * (k + 1)) := by
      rw [Nat.mul_succ, UInt32.ofNat_add]
      rfl
    rw [show fuel + (k + 1) = fuel + 1 + k by omega, ih (fuel + 1) (by omega) (by omega),
      listAllDevices_succ, hoffset, if_neg hne, if_neg (by omega), hnext]
    congr 2
    rw [Nat.mul_succ, List.take_add]
    rfl

/-- **Paging ends with all devices**, each once, if their number stays below the last offset. -/
theorem pages_all {fuel : Nat} (hfew : (devices app).length < 4294968000)
    (hfuel : (devices app).length < 1000 * fuel) :
    (listAllDevices app fuel 0 []).result (world devices o) st = some (.ok (devices app)) := by
  have hmod := Nat.mod_lt (devices app).length (show 1000 > 0 by omega)
  have hdiv := Nat.div_add_mod (devices app).length 1000
  generalize hk : (devices app).length / 1000 = k at *
  obtain ⟨rest, rfl⟩ : ∃ rest, fuel = rest + 1 + k := ⟨fuel - 1 - k, by omega⟩
  have hoffset : (UInt32.ofNat (1000 * k)).toNat = 1000 * k := ofNat_toNat_of_lt (by omega)
  have hall : (devices app).take (1000 * k) ++ page (devices app) (1000 * k) 1000 = devices app := by
    show (devices app).take (1000 * k) ++ ((devices app).drop (1000 * k)).take 1000 = _
    rw [← List.take_add, List.take_of_length_le (by omega)]
  rw [pages_advance o st k (rest + 1) (by omega) (by omega), listAllDevices_succ, hoffset]
  split
  · next hnil =>
    rw [hnil, List.append_nil] at hall
    rw [hall]
    rfl
  · rw [if_pos (by rw [length_page]; omega), hall]
    rfl

/-- What was fetched stays at the front. -/
theorem prefix_of_result {fuel : Nat} {offset : UInt32} {all l : List DeviceListItem}
    (h : (listAllDevices app fuel offset all).result (world devices o) st = some (.ok l)) :
    all <+: l := by
  induction fuel generalizing offset all with
  | zero => cases h
  | succ fuel ih =>
    rw [listAllDevices_succ] at h
    split at h
    · cases h
      exact List.prefix_refl _
    · split at h
      · cases h
        exact List.prefix_append _ _
      · exact (List.prefix_append _ _).trans (ih h)

/-- **With as many devices as that** it comes back to the offset 704, and a device is fetched twice. -/
theorem pages_repeat {fuel : Nat} {l : List DeviceListItem}
    (hmany : 4294968000 ≤ (devices app).length)
    (h : (listAllDevices app fuel 0 []).result (world devices o) st = some (.ok l)) : ¬ l.Nodup := by
  rcases Nat.lt_or_ge fuel 4294968 with hlt | hge
  · have hnone := pages_advance o st fuel 0 (by omega)
      (show 1000 * fuel ≤ (devices app).length by omega)
    rw [Nat.zero_add] at hnone
    rw [hnone] at h
    cases h
  · obtain ⟨rest, rfl⟩ : ∃ rest, fuel = rest + 4294968 := ⟨fuel - 4294968, by omega⟩
    rw [pages_advance o st 4294968 _ (Nat.le_refl _) hmany] at h
    have hoffset : (UInt32.ofNat (1000 * 4294968)).toNat = 704 := rfl
    cases rest with
    | zero => cases h
    | succ rest =>
      have hlength : (page (devices app) 704 1000).length = 1000 := by
        rw [length_page]
        omega
      have hne : page (devices app) 704 1000 ≠ [] := by
        rw [Ne, page_eq_nil_iff]
        omega
      rw [listAllDevices_succ, hoffset, if_neg hne, if_neg (by omega)] at h
      intro hnodup
      have htwice := ((prefix_of_result h).sublist.nodup hnodup)
      have hdisjoint := List.nodup_append.mp htwice
      -- the device 704 is on the first page and on the last
      have hfirst : (devices app)[704] ∈ (devices app).take (1000 * 4294968) := by
        rw [List.mem_take_iff_getElem]
        exact ⟨704, by omega, rfl⟩
      have hagain : (devices app)[704] ∈ page (devices app) 704 1000 := by
        unfold page
        rw [List.mem_take_iff_getElem]
        refine ⟨0, by rw [List.length_drop]; omega, ?_⟩
        rw [List.getElem_drop]
      exact hdisjoint.2.2 _ hfirst _ hagain rfl

end

/-! ## One device -/

/-- The key that the set-up obtains for a device, and parses: that of the stored keys, or a new one that
    ChirpStack has taken. -/
inductive KeyObtained (lib : Parsers) (out : Outcome) (stored : Option DeviceKeys) :
    AES128Key → Prop
  | stored {keys : DeviceKeys} {k : AES128Key} (hkeys : getKeys out stored = .ok keys)
      (hparse : lib.aes128Key (keyText keys) = .ok k) : KeyObtained lib out stored k
  | created {e : RPCError} {bytes : Vector UInt8 16} {k : AES128Key}
      (hkeys : getKeys out stored = .error e) (hmissing : e.notFound = true)
      (hrand : out.randRead 16 = .ok bytes) (hcreate : out.createKeys.answer = none)
      (hparse : lib.aes128Key (Hex.encode bytes.toList) = .ok k) : KeyObtained lib out stored k

section
variable {lib : Parsers} {out : Outcome} {stored : Option DeviceKeys} {k : AES128Key}

/-- With keys there, the key is read from them. -/
theorem keyObtained_stored_iff {keys : DeviceKeys} (hkeys : getKeys out stored = .ok keys) :
    KeyObtained lib out stored k ↔ lib.aes128Key (keyText keys) = .ok k := by
  constructor
  · intro h
    cases h with
    | stored hkeys' hparse =>
      rw [hkeys] at hkeys'
      cases hkeys'
      exact hparse
    | created hkeys' =>
      rw [hkeys] at hkeys'
      cases hkeys'
  · exact .stored hkeys

/-- Without keys one is drawn, and must be taken and parse. -/
theorem keyObtained_created_iff {e : RPCError} (hkeys : getKeys out stored = .error e) :
    KeyObtained lib out stored k ↔ e.notFound = true ∧ ∃ bytes, out.randRead 16 = .ok bytes ∧
      out.createKeys.answer = none ∧ lib.aes128Key (Hex.encode bytes.toList) = .ok k := by
  constructor
  · intro h
    cases h with
    | stored hkeys' =>
      rw [hkeys] at hkeys'
      cases hkeys'
    | created hkeys' hmissing hrand hcreate hparse =>
      rw [hkeys] at hkeys'
      cases hkeys'
      exact ⟨hmissing, _, hrand, hcreate, hparse⟩
  · rintro ⟨hmissing, bytes, hrand, hcreate, hparse⟩
    exact .created hkeys hmissing hrand hcreate hparse

end

/-- What a parser reads, if it reads something. -/
theorem toOption_eq_some {ε α : Type} {x : Except ε α} {a : α} : x.toOption = some a ↔ x = .ok a := by
  cases x with
  | error e => exact iff_of_false (by intro h; cases h) (by intro h; cases h)
  | ok b => simp [Except.toOption]

section
variable {lib : Parsers} {devices : String → List DeviceListItem} {o : String → Outcome} {st : Store}

/-- **The key of a device**, by the outcomes of its calls. -/
theorem deviceKey_result_iff {item : DeviceListItem} {k : AES128Key} :
    (deviceKey lib item).result (world devices o) st = some k ↔
      KeyObtained lib (o item.devEUI) (st.keys item.devEUI) k := by
  unfold deviceKey
  rw [Prog.result_bind, result_rpc, final_rpc, world_getKeys]
  cases hkeys : getKeys (o item.devEUI) (st.keys item.devEUI) with
  | ok keys =>
    rw [keyObtained_stored_iff hkeys]
    dsimp only
    split
    · exact toOption_eq_some
    · exact toOption_eq_some
  | error e =>
    rw [keyObtained_created_iff hkeys]
    dsimp only
    cases hmissing : e.notFound with
    | false => exact iff_of_false (by intro h; cases h) fun h => Bool.false_ne_true h.1
    | true =>
      rw [if_pos rfl, and_iff_right rfl, Prog.result_bind, result_callAsk, final_callAsk,
        world_randRead]
      dsimp only
      cases hrand : (o item.devEUI).randRead 16 with
      | error e' => exact iff_of_false (by intro h; cases h) (by rintro ⟨bytes, h, -⟩; cases h)
      | ok bytes =>
        dsimp only
        rw [Prog.result_bind, result_rpc, world_createKeys]
        dsimp only
        cases hcreate : (o item.devEUI).createKeys.answer with
        | some e' =>
          exact iff_of_false (by intro h; cases h) (by rintro ⟨bytes', -, h, -⟩; cases h)
        | none =>
          refine toOption_eq_some.trans ⟨fun h => ⟨bytes, rfl, rfl, h⟩, ?_⟩
          rintro ⟨bytes', hbytes, -, h⟩
          cases hbytes
          exact h

/-- The keys of the device after a call that writes them. -/
def written (w : WriteOutcome) (keys : DeviceKeys) (stored : Option DeviceKeys) : Option DeviceKeys :=
  if w.applied then some keys else stored

/-- The keys that ChirpStack has for the device once its key was asked for. -/
def keysAfter (out : Outcome) (devEUI : String) (stored : Option DeviceKeys) : Option DeviceKeys :=
  match getKeys out stored with
  | .ok keys =>
    if BlankKey keys.appKey then
      written out.updateKeys ⟨devEUI, keyText keys, keyText keys⟩ stored
    else stored
  | .error e =>
    if e.notFound then
      match out.randRead 16 with
      | .ok bytes =>
        written out.createKeys ⟨devEUI, Hex.encode bytes.toList, Hex.encode bytes.toList⟩ stored
      | .error _ => stored
    else stored

/-- The keys after a write. -/
theorem Store.write_keys (w : WriteOutcome) (keys : DeviceKeys) : (st.write w keys).keys =
    Function.update st.keys keys.devEUI (written w keys (st.keys keys.devEUI)) := by
  unfold Store.write written
  split
  · rfl
  · exact (Function.update_eq_self _ _).symm

/-- The keys after the turn of a device: only its own have changed. -/
theorem deviceKey_keys {item : DeviceListItem} :
    ((deviceKey lib item).final (world devices o) st).keys = Function.update st.keys item.devEUI
      (keysAfter (o item.devEUI) item.devEUI (st.keys item.devEUI)) := by
  unfold deviceKey keysAfter
  rw [Prog.final_bind, result_rpc, final_rpc, world_getKeys]
  cases hkeys : getKeys (o item.devEUI) (st.keys item.devEUI) with
  | ok keys =>
    dsimp only
    by_cases hblank : BlankKey keys.appKey
    · rw [if_pos hblank, if_pos hblank]
      exact Store.write_keys _ _
    · rw [if_neg hblank, if_neg hblank]
      exact (Function.update_eq_self _ _).symm
  | error e =>
    dsimp only
    cases hmissing : e.notFound with
    | false => exact (Function.update_eq_self _ _).symm
    | true =>
      rw [if_pos rfl, if_pos rfl, Prog.final_bind, result_callAsk, final_callAsk, world_randRead]
      dsimp only
      cases hrand : (o item.devEUI).randRead 16 with
      | error e' => exact (Function.update_eq_self _ _).symm
      | ok bytes =>
        dsimp only
        rw [Prog.final_bind, result_rpc, final_rpc, world_createKeys]
        dsimp only
        cases hcreate : (o item.devEUI).createKeys.answer with
        | some e' => exact Store.write_keys _ _
        | none => exact Store.write_keys _ _

end

/-! ## All devices -/

/-- `Get` succeeds, and the device is enabled. -/
def Active (out : Outcome) : Prop := ∃ device, out.get = .ok device ∧ device.isDisabled = false

/-- The device is active, and this is its key. -/
def Joins (lib : Parsers) (out : Outcome) (stored : Option DeviceKeys) (k : AES128Key) : Prop :=
  Active out ∧ KeyObtained lib out stored k

/-- After the devices `done`: the three containers have the same EUIs, each once; the keys are those of
    the devices that join; and ChirpStack has the keys that it had, but for the devices asked about. -/
structure Filled (lib : Parsers) (o : String → Outcome) (keys₀ : String → Option DeviceKeys)
    (done : List DeviceListItem) (s : Loaded) (st : Store) : Prop where
  appKeys : s.deviceAppKeys.map Prod.fst = s.deviceEUIs
  names : s.deviceNames.map Prod.fst = s.deviceEUIs
  nodup : s.deviceEUIs.Nodup
  mem_appKeys : ∀ e k, (e, k) ∈ s.deviceAppKeys ↔ ∃ d ∈ done, lib.eui64 d.devEUI = .ok e ∧
    Joins lib (o d.devEUI) (keys₀ d.devEUI) k
  untouched : ∀ text, text ∉ done.map DeviceListItem.devEUI → st.keys text = keys₀ text
  asked : ∀ d ∈ done, Active (o d.devEUI) →
    st.keys d.devEUI = keysAfter (o d.devEUI) d.devEUI (keys₀ d.devEUI)

section
variable {lib : Parsers} {o : String → Outcome} {keys₀ : String → Option DeviceKeys}
  {done : List DeviceListItem} {s : Loaded} {st st' : Store} {item : DeviceListItem} {e : EUI64}

/-- A device with another EUI. -/
theorem Filled.fresh (h : Filled lib o keys₀ done s st)
    (hfresh : ∀ d ∈ done, lib.eui64 d.devEUI ≠ .ok e) : e ∉ s.deviceEUIs := by
  intro hmem
  rw [← h.appKeys, List.mem_map] at hmem
  obtain ⟨⟨e', k⟩, hk, rfl⟩ := hmem
  obtain ⟨d, hd, heui, -⟩ := (h.mem_appKeys _ _).mp hk
  exact hfresh d hd heui

/-- What the store is after one more device. -/
structure StoreAfter (o : String → Outcome) (keys₀ : String → Option DeviceKeys)
    (item : DeviceListItem) (st st' : Store) : Prop where
  others : ∀ text, text ≠ item.devEUI → st'.keys text = st.keys text
  own : Active (o item.devEUI) → st'.keys item.devEUI =
    keysAfter (o item.devEUI) item.devEUI (keys₀ item.devEUI)

/-- The fields of `Filled` that are about the store. -/
theorem Filled.store (h : Filled lib o keys₀ done s st) (hst : StoreAfter o keys₀ item st st')
    (hnew : item.devEUI ∉ done.map DeviceListItem.devEUI) :
    (∀ text, text ∉ (done ++ [item]).map DeviceListItem.devEUI → st'.keys text = keys₀ text) ∧
      ∀ d ∈ done ++ [item], Active (o d.devEUI) →
        st'.keys d.devEUI = keysAfter (o d.devEUI) d.devEUI (keys₀ d.devEUI) := by
  constructor
  · intro text htext
    rw [List.map_append, List.mem_append, not_or] at htext
    rw [hst.others text fun heq => htext.2 (heq ▸ List.mem_singleton_self _)]
    exact h.untouched text htext.1
  · intro d hd hactive
    rcases List.mem_append.mp hd with hd | hd
    · have hne : d.devEUI ≠ item.devEUI := fun heq => hnew (heq ▸ List.mem_map_of_mem hd)
      rw [hst.others _ hne]
      exact h.asked d hd hactive
    · obtain rfl := List.mem_singleton.mp hd
      exact hst.own hactive

/-- A device that does not join. -/
theorem Filled.skip (h : Filled lib o keys₀ done s st) (hst : StoreAfter o keys₀ item st st')
    (hnew : item.devEUI ∉ done.map DeviceListItem.devEUI)
    (hnot : ∀ k, ¬ Joins lib (o item.devEUI) (keys₀ item.devEUI) k) :
    Filled lib o keys₀ (done ++ [item]) s st' where
  appKeys := h.appKeys
  names := h.names
  nodup := h.nodup
  mem_appKeys e k := by
    rw [h.mem_appKeys]
    constructor
    · rintro ⟨d, hd, hjoins⟩
      exact ⟨d, List.mem_append_left _ hd, hjoins⟩
    · rintro ⟨d, hd, heui, hjoins⟩
      rcases List.mem_append.mp hd with hd | hd
      · exact ⟨d, hd, heui, hjoins⟩
      · obtain rfl := List.mem_singleton.mp hd
        exact absurd hjoins (hnot k)
  untouched := (h.store hst hnew).1
  asked := (h.store hst hnew).2

/-- A device has at most one key. -/
theorem KeyObtained.unique {out : Outcome} {stored : Option DeviceKeys} {k k' : AES128Key}
    (h : KeyObtained lib out stored k) (h' : KeyObtained lib out stored k') : k = k' := by
  cases h with
  | stored hkeys hparse =>
    rw [keyObtained_stored_iff hkeys, hparse] at h'
    exact Except.ok.inj h'
  | created hkeys hmissing hrand hcreate hparse =>
    obtain ⟨-, bytes, hrand', -, hparse'⟩ := (keyObtained_created_iff hkeys).mp h'
    rw [hrand] at hrand'
    cases hrand'
    rw [hparse] at hparse'
    exact Except.ok.inj hparse'

/-- A device that joins with the key. -/
theorem Filled.put (h : Filled lib o keys₀ done s st) (hst : StoreAfter o keys₀ item st st')
    (hnew : item.devEUI ∉ done.map DeviceListItem.devEUI) (heui : lib.eui64 item.devEUI = .ok e)
    (hfresh : ∀ d ∈ done, lib.eui64 d.devEUI ≠ .ok e) {k : AES128Key}
    (hjoins : Joins lib (o item.devEUI) (keys₀ item.devEUI) k) :
    Filled lib o keys₀ (done ++ [item])
      { s with
        deviceAppKeys := mapSet s.deviceAppKeys e k
        deviceNames := mapSet s.deviceNames e item.name
        deviceEUIs := s.deviceEUIs ++ [e] } st' := by
  have he := h.fresh hfresh
  have hkeys : mapSet s.deviceAppKeys e k = s.deviceAppKeys ++ [(e, k)] :=
    mapSet_of_notMem (h.appKeys ▸ he)
  have hnames : mapSet s.deviceNames e item.name = s.deviceNames ++ [(e, item.name)] :=
    mapSet_of_notMem (h.names ▸ he)
  rw [hkeys, hnames]
  refine ⟨?_, ?_, ?_, ?_, (h.store hst hnew).1, (h.store hst hnew).2⟩
  · rw [List.map_append, h.appKeys]
    rfl
  · rw [List.map_append, h.names]
    rfl
  · rw [← List.concat_eq_append]
    exact h.nodup.concat he
  · intro e' k'
    rw [List.mem_append, h.mem_appKeys]
    constructor
    · rintro (⟨d, hd, hd'⟩ | hlast)
      · exact ⟨d, List.mem_append_left _ hd, hd'⟩
      · cases List.mem_singleton.mp hlast
        exact ⟨item, List.mem_append_right _ (List.mem_singleton_self _), heui, hjoins⟩
    · rintro ⟨d, hd, heui', hjoins'⟩
      rcases List.mem_append.mp hd with hd | hd
      · exact Or.inl ⟨d, hd, heui', hjoins'⟩
      · obtain rfl := List.mem_singleton.mp hd
        rw [heui] at heui'
        cases heui'
        rw [hjoins.2.unique hjoins'.2]
        exact Or.inr (List.mem_singleton_self _)

variable {devices : String → List DeviceListItem}

variable (devices) in
/-- **One device.** -/
theorem filled_loadDevice (h : Filled lib o keys₀ done s st) (heui : lib.eui64 item.devEUI = .ok e)
    (hfresh : ∀ d ∈ done, lib.eui64 d.devEUI ≠ .ok e) :
    ((loadDevice lib s item).result (world devices o) st).2 = .ok ∧
      Filled lib o keys₀ (done ++ [item]) ((loadDevice lib s item).result (world devices o) st).1
        ((loadDevice lib s item).final (world devices o) st) := by
  have hnew : item.devEUI ∉ done.map DeviceListItem.devEUI := by
    intro hmem
    obtain ⟨d, hd, heq⟩ := List.mem_map.mp hmem
    exact hfresh d hd (heq ▸ heui)
  have hown : st.keys item.devEUI = keys₀ item.devEUI := h.untouched _ hnew
  unfold loadDevice
  rw [heui]
  dsimp only
  rw [Prog.result_bind, Prog.final_bind, result_rpc, final_rpc, world_getDevice]
  dsimp only
  cases hget : (o item.devEUI).get with
  | error e' =>
    have hactive : ¬ Active (o item.devEUI) := by
      rintro ⟨device, hdevice, -⟩
      rw [hget] at hdevice
      cases hdevice
    exact ⟨rfl, h.skip ⟨fun _ _ => rfl, fun ha => absurd ha hactive⟩ hnew fun k hk => hactive hk.1⟩
  | ok device =>
    dsimp only
    cases hdisabled : device.isDisabled with
    | true =>
      have hactive : ¬ Active (o item.devEUI) := by
        rintro ⟨device', hdevice, henabled⟩
        rw [hget] at hdevice
        cases hdevice
        rw [hdisabled] at henabled
        cases henabled
      exact ⟨rfl, h.skip ⟨fun _ _ => rfl, fun ha => absurd ha hactive⟩ hnew fun k hk => hactive hk.1⟩
    | false =>
      have hactive : Active (o item.devEUI) := ⟨device, hget, hdisabled⟩
      have hst : StoreAfter o keys₀ item st ((deviceKey lib item).final (world devices o) st) := by
        refine ⟨fun text hne => ?_, fun _ => ?_⟩
        · rw [deviceKey_keys, Function.update_of_ne hne]
        · rw [deviceKey_keys, Function.update_self, hown]
      rw [if_neg Bool.false_ne_true, Prog.result_bind, Prog.final_bind]
      cases hkey : (deviceKey lib item).result (world devices o) st with
      | none =>
        refine ⟨rfl, h.skip hst hnew fun k hk => ?_⟩
        have hsome : (deviceKey lib item).result (world devices o) st = some k :=
          deviceKey_result_iff.mpr (hown ▸ hk.2)
        rw [hkey] at hsome
        cases hsome
      | some k =>
        have hjoins : Joins lib (o item.devEUI) (keys₀ item.devEUI) k :=
          ⟨hactive, hown ▸ deviceKey_result_iff.mp hkey⟩
        exact ⟨rfl, h.put hst hnew heui hfresh hjoins⟩

/-- **All devices**, one after another. -/
theorem filled_loadDevices {items : List DeviceListItem} (h : Filled lib o keys₀ done s st)
    (hparse : ∀ d ∈ items, ∃ e, lib.eui64 d.devEUI = .ok e)
    (hnodup : ((done ++ items).map fun d => lib.eui64 d.devEUI).Nodup) :
    ((loadDevices lib items s).result (world devices o) st).2 = .ok ∧
      Filled lib o keys₀ (done ++ items) ((loadDevices lib items s).result (world devices o) st).1
        ((loadDevices lib items s).final (world devices o) st) := by
  induction items generalizing done s st with
  | nil =>
    rw [List.append_nil]
    exact ⟨rfl, h⟩
  | cons item items ih =>
    obtain ⟨⟨e, heui⟩, hparse⟩ := List.forall_mem_cons.mp hparse
    have hfresh : ∀ d ∈ done, lib.eui64 d.devEUI ≠ .ok e := by
      intro d hd heq
      rw [List.map_append, List.nodup_append] at hnodup
      exact hnodup.2.2 _ (List.mem_map_of_mem hd) _ (List.mem_cons_self) (heq.trans heui.symm)
    obtain ⟨hok, hfilled⟩ := filled_loadDevice devices h heui hfresh
    have hdistinct : (((done ++ [item]) ++ items).map fun d => lib.eui64 d.devEUI).Nodup := by
      rw [List.append_assoc]
      exact hnodup
    have hrest := ih hfilled hparse hdistinct
    rw [List.append_assoc] at hrest
    unfold loadDevices andThen
    rw [Prog.result_bind, Prog.final_bind, hok]
    exact hrest

/-- A listing whose EUIs parse and are distinct. -/
structure Listed (lib : Parsers) (items : List DeviceListItem) : Prop where
  parse : ∀ d ∈ items, ∃ e, lib.eui64 d.devEUI = .ok e
  distinct : (items.map fun d => lib.eui64 d.devEUI).Nodup

theorem Listed.nodup {items : List DeviceListItem} (h : Listed lib items) : items.Nodup :=
  h.distinct.of_map _

variable (o st) in
/-- **The set-up of the devices**, once all of them were fetched. -/
theorem filled_setupDevices {fuel : Nat} (hlisted : Listed lib (devices s.applicationID))
    (hall : (listAllDevices s.applicationID fuel 0 []).result (world devices o) st =
      some (.ok (devices s.applicationID))) :
    ((setupDevices lib fuel s).result (world devices o) st).2 = .ok ∧
      Filled lib o st.keys (devices s.applicationID)
        ((setupDevices lib fuel s).result (world devices o) st).1
        ((setupDevices lib fuel s).final (world devices o) st) := by
  have hstart : Filled lib o st.keys []
      { s with deviceAppKeys := [], deviceNames := [], deviceEUIs := [] } st := by
    refine ⟨rfl, rfl, List.nodup_nil, fun e k => ?_, fun _ _ => rfl, fun d hd => ?_⟩
    · refine iff_of_false List.not_mem_nil ?_
      rintro ⟨d, hd, -⟩
      exact absurd hd List.not_mem_nil
    · exact absurd hd List.not_mem_nil
  unfold setupDevices
  rw [Prog.result_bind, Prog.final_bind, listAllDevices_final, hall]
  exact filled_loadDevices hstart hlisted.parse hlisted.distinct

end

/-! ## Enumeration -/

section
variable {lib : Parsers} {devices : String → List DeviceListItem} {o : String → Outcome} {st : Store}
  {s : Loaded}

/-- What a map has as keys. -/
def domain {κ ν : Type} (m : List (κ × ν)) : List κ := m.map Prod.fst

/-- The paging loop ends with every device, each once; and after a set-up without an error the two maps
    have the same domain, which is listed without repetition and consists of the devices that join. -/
structure Enumerates (lib : Parsers) (devices : String → List DeviceListItem) (o : String → Outcome)
    (st : Store) (s : Loaded) : Prop where
  fetched : ∃ fuel l, (listAllDevices s.applicationID fuel 0 []).result (world devices o) st =
    some (.ok l) ∧ l.Perm (devices s.applicationID)
  inStep : ∀ fuel r, (setupDevices lib fuel s).result (world devices o) st = (r, .ok) →
    (∀ e, e ∈ domain r.deviceAppKeys ↔ e ∈ domain r.deviceNames) ∧ r.deviceEUIs.Nodup ∧
      (∀ e, e ∈ r.deviceEUIs ↔ e ∈ domain r.deviceAppKeys) ∧
      ∀ e, e ∈ r.deviceEUIs ↔ ∃ d ∈ devices s.applicationID, lib.eui64 d.devEUI = .ok e ∧
        ∃ k, Joins lib (o d.devEUI) (st.keys d.devEUI) k

variable (o st) in
/-- The loop is still running, or it has all devices. -/
theorem pages_cases {app : String} (hfew : (devices app).length < 4294968000) (fuel : Nat) :
    (listAllDevices app fuel 0 []).result (world devices o) st = none ∨
      (listAllDevices app fuel 0 []).result (world devices o) st = some (.ok (devices app)) := by
  rcases Nat.lt_or_ge (devices app).length (1000 * fuel) with hlt | hge
  · exact Or.inr (pages_all hfew hlt)
  · have hrunning := pages_advance o st fuel 0
      (show fuel ≤ 4294968 by omega) hge
    rw [Nat.zero_add] at hrunning
    exact Or.inl hrunning

/-- **Enumeration**, of every list of distinct devices and whatever is answered for them: exactly if the
    last offset fits. -/
theorem enumerates_iff (hlisted : Listed lib (devices s.applicationID)) :
    Enumerates lib devices o st s ↔ (devices s.applicationID).length < 4294968000 := by
  constructor
  · intro h
    obtain ⟨fuel, l, hl, hperm⟩ := h.fetched
    by_contra hmany
    exact pages_repeat (by omega) hl (hperm.nodup_iff.mpr hlisted.nodup)
  · intro hfew
    refine ⟨?_, fun fuel r hr => ?_⟩
    · exact ⟨(devices s.applicationID).length + 1, _, pages_all hfew (by omega), List.Perm.refl _⟩
    · rcases pages_cases o st hfew fuel with hrunning | hall
      · unfold setupDevices at hr
        rw [Prog.result_bind, hrunning] at hr
        cases hr
      · have hfilled := (filled_setupDevices o st hlisted hall).2
        rw [hr] at hfilled
        refine ⟨fun e => ?_, hfilled.nodup, fun e => ?_, fun e => ?_⟩
        · rw [domain, domain, hfilled.appKeys, hfilled.names]
        · rw [domain, hfilled.appKeys]
        · rw [← hfilled.appKeys, List.mem_map]
          constructor
          · rintro ⟨⟨e', k⟩, hk, rfl⟩
            obtain ⟨d, hd, heui, hjoins⟩ := (hfilled.mem_appKeys _ _).mp hk
            exact ⟨d, hd, heui, k, hjoins⟩
          · rintro ⟨d, hd, heui, k, hjoins⟩
            exact ⟨(e, k), (hfilled.mem_appKeys _ _).mpr ⟨d, hd, heui, hjoins⟩, rfl⟩

end

/-! ### Many devices -/

/-- What was printed in hexadecimal parses. -/
theorem parseBytes_encode {n : Nat} (v : Vector UInt8 n) :
    parseBytes n (Hex.encode v.toList) = .ok v := by
  have harray : v.toList.toArray = v.toArray := Array.toArray_toList
  unfold parseBytes
  rw [Hex.decode_encode]
  dsimp only
  rw [dif_pos (by rw [harray, v.size_toArray])]
  congr 1

/-- The number in the first bytes of an EUI. -/
def euiOf (n : Nat) : EUI64 := Vector.ofFn fun i => UInt8.ofNat (n / 256 ^ i.val)

/-- Distinct numbers make distinct EUIs. -/
theorem euiOf_inj {n m : Nat} (hn : n < 2 ^ 40) (hm : m < 2 ^ 40) (h : euiOf n = euiOf m) : n = m := by
  have hbyte : ∀ i (hi : i < 8), (n / 256 ^ i) % 256 = (m / 256 ^ i) % 256 := by
    intro i hi
    have hget := congrArg (fun v : EUI64 => v[i].toNat) h
    simpa [euiOf] using hget
  have h0 := hbyte 0 (by omega)
  have h1 := hbyte 1 (by omega)
  have h2 := hbyte 2 (by omega)
  have h3 := hbyte 3 (by omega)
  have h4 := hbyte 4 (by omega)
  omega

def numbered (n : Nat) : DeviceListItem := ⟨Hex.encode (euiOf n).toList, "device"⟩

/-- So many devices in every application. -/
def manyDevices (n : Nat) (_ : String) : List DeviceListItem := (List.range n).map numbered

theorem plain_eui64 (e : EUI64) : Parsers.plain.eui64 (Hex.encode e.toList) = .ok e := by
  unfold Parsers.plain
  exact parseBytes_encode e

theorem numbered_parse (n : Nat) : Parsers.plain.eui64 (numbered n).devEUI = .ok (euiOf n) := by
  unfold numbered
  exact plain_eui64 (euiOf n)

theorem listed_manyDevices {n : Nat} (hn : n ≤ 2 ^ 40) (app : String) :
    Listed .plain (manyDevices n app) := by
  refine ⟨fun d hd => ?_, ?_⟩
  · obtain ⟨k, -, rfl⟩ := List.mem_map.mp hd
    exact ⟨_, numbered_parse k⟩
  · have hmap : (manyDevices n app).map (fun d => Parsers.plain.eui64 d.devEUI) =
        (List.range n).map fun k => .ok (euiOf k) := by
      rw [manyDevices, List.map_map]
      exact List.map_congr_left fun k _ => numbered_parse k
    have hinj : ∀ a ∈ List.range n, ∀ b ∈ List.range n,
        (Except.ok (euiOf a) : Except String EUI64) = .ok (euiOf b) → a = b := by
      intro a ha b hb hab
      have ha' := List.mem_range.mp ha
      have hb' := List.mem_range.mp hb
      exact euiOf_inj (by omega) (by omega) (Except.ok.inj hab)
    rw [hmap]
    exact List.Nodup.map_on hinj List.nodup_range

/-- A device that is enabled, and whose calls all succeed. -/
def healthy : Outcome where
  get := .ok ⟨"", "device", "", "", "", false⟩
  getKeys := none
  randRead n := .ok (Vector.replicate n 0)
  createKeys := .ok
  updateKeys := .ok

def noKeys : Store := ⟨"", fun _ => none⟩

/-- A full page and an empty one. -/
theorem enumerates_iff_page :
    Enumerates .plain (manyDevices 1000) (fun _ => healthy) noKeys .empty :=
  (enumerates_iff (listed_manyDevices (by omega) _)).mpr
    (by rw [manyDevices, List.length_map, List.length_range]; omega)

/-- The first list that is too long. -/
theorem tooMany_not_enumerated :
    ¬ Enumerates .plain (manyDevices 4294968000) (fun _ => healthy) noKeys .empty := by
  intro h
  obtain ⟨fuel, l, hl, hperm⟩ := h.fetched
  have hmany : (manyDevices 4294968000 "").length = 4294968000 := by
    rw [manyDevices, List.length_map, List.length_range]
  exact pages_repeat (Nat.le_of_eq hmany.symm) hl (hperm.nodup_iff.mpr (listed_manyDevices (by omega) _).nodup)

end ChirpStackSimulator.DeviceEnumeration
