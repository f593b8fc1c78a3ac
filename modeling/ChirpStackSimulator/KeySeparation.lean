/-
  Session keys keep their inputs apart.

  `getSKey` writes a type byte, the nonces and the network ID or the join EUI into one block and
  encrypts it.  The marshallers of `brocaar/lorawan` and AES are not part of the repository: what is
  assumed of them are their wire forms (`WireForms`) and that AES under one key is injective on blocks
  (`Injective`).

  1. **Wire forms** are injective, that of the join nonce below `2 ^ 24` (`joinNonceBytes_inj`).

  2. **The block** is four fields that lie apart and fit (`sKeyBlock_eq_writeAll`), so it determines
     them (`sKeyBlock_inj`).

  3. **The keys** (`sKeys_separate`): under one root key and `OptNeg`, `getSKey` is injective in what
     it writes into the block; the two keys of a session differ, and so do those of two sessions with
     different nonces.
-/
import ChirpStackSimulator.Lib.Layout
import ChirpStackSimulator.Join

namespace ChirpStackSimulator.KeySeparation

open LoRaWAN Layout Join

/-! ## Wire forms -/

/-- `JoinNonce.MarshalBinary` below `2 ^ 24`: three bytes, the lowest first. -/
def joinNonceBytes (n : JoinNonce) : List UInt8 := [n.toUInt8, (n >>> 8).toUInt8, (n >>> 16).toUInt8]

/-- `DevNonce.MarshalBinary`. -/
def devNonceBytes (n : DevNonce) : List UInt8 := [n.toUInt8, (n >>> 8).toUInt8]

/-- What the library documents of its marshallers. -/
structure WireForms (lib : Library) : Prop where
  netID : ∀ id, lib.marshalNetID id = .ok id.toList.reverse
  eui64 : ∀ eui, lib.marshalEUI64 eui = .ok eui.toList.reverse
  joinNonce : ∀ n, n.toNat < 2 ^ 24 → lib.marshalJoinNonce n = .ok (joinNonceBytes n)
  devNonce : ∀ n, lib.marshalDevNonce n = .ok (devNonceBytes n)

/-- The cipher takes blocks of 16 bytes and gives different ones different results. -/
structure Injective (block : CipherBlock) : Prop where
  blockSize : block.blockSize = 16
  encrypt : ∀ b b', b.length = 16 → b'.length = 16 → block.encrypt b = block.encrypt b' → b = b'

theorem joinNonceBytes_inj {n m : JoinNonce} (hn : n.toNat < 2 ^ 24) (hm : m.toNat < 2 ^ 24)
    (h : joinNonceBytes n = joinNonceBytes m) : n = m := by
  have h8 : (8 : UInt32).toNat % 32 = 8 := rfl
  have h16 : (16 : UInt32).toNat % 32 = 16 := rfl
  simp only [joinNonceBytes, List.cons.injEq, and_true, ← UInt8.toNat_inj, UInt32.toNat_toUInt8,
    UInt32.toNat_shiftRight, Nat.shiftRight_eq_div_pow, h8, h16] at h
  obtain ⟨h₀, h₁, h₂⟩ := h
  apply UInt32.toNat_inj.mp
  omega

theorem devNonceBytes_inj {n m : DevNonce} (h : devNonceBytes n = devNonceBytes m) : n = m := by
  have h8 : (8 : UInt16).toNat % 16 = 8 := rfl
  simp only [devNonceBytes, List.cons.injEq, and_true, ← UInt8.toNat_inj, UInt16.toNat_toUInt8,
    UInt16.toNat_shiftRight, Nat.shiftRight_eq_div_pow, h8] at h
  obtain ⟨h₀, h₁⟩ := h
  have hn : n.toNat < 2 ^ 16 := n.toNat_lt
  have hm : m.toNat < 2 ^ 16 := m.toNat_lt
  apply UInt16.toNat_inj.mp
  omega

theorem reverse_toList_inj {k : Nat} {v w : Vector UInt8 k}
    (h : v.toList.reverse = w.toList.reverse) : v = w :=
  Vector.toList_inj.mp (List.reverse_injective h)

/-! ## The block -/

/-- What the block holds besides zeros. -/
def sKeyFields (optNeg : Bool) (typ : UInt8) (netIDB joinEUIB joinNonceB devNonceB : List UInt8) :
    List (Layout.Field UInt8) :=
  if optNeg then [(0, [typ]), (1, joinNonceB), (4, joinEUIB), (12, devNonceB)]
  else [(0, [typ]), (1, joinNonceB), (4, netIDB), (7, devNonceB)]

/-- `copy` of as many bytes as there is place for. -/
theorem copySlice_eq_write {b src : List UInt8} {lo hi : Nat} (h : lo + src.length = hi) :
    copySlice b lo hi src = write b (lo, src) := by
  have hplace : hi - lo = src.length := by omega
  unfold copySlice write stop
  rw [hplace, List.take_length, Nat.min_self]

section
variable {typ : UInt8} {netIDB joinEUIB joinNonceB devNonceB : List UInt8}

/-- **The block is its fields**, each of the width it has on the wire. -/
theorem sKeyBlock_eq_writeAll (optNeg : Bool) (hnet : netIDB.length = 3) (heui : joinEUIB.length = 8)
    (hjoin : joinNonceB.length = 3) (hdev : devNonceB.length = 2) :
    sKeyBlock optNeg typ netIDB joinEUIB joinNonceB devNonceB =
      writeAll (List.replicate 16 0) (sKeyFields optNeg typ netIDB joinEUIB joinNonceB devNonceB) := by
  cases optNeg with
  | true =>
    show copySlice (copySlice (copySlice _ 1 4 joinNonceB) 4 12 joinEUIB) 12 14 devNonceB = _
    rw [copySlice_eq_write (by omega), copySlice_eq_write (by omega), copySlice_eq_write (by omega)]
    rfl
  | false =>
    show copySlice (copySlice (copySlice _ 1 4 joinNonceB) 4 7 netIDB) 7 9 devNonceB = _
    rw [copySlice_eq_write (by omega), copySlice_eq_write (by omega), copySlice_eq_write (by omega)]
    rfl

theorem fits_sKeyFields (optNeg : Bool) (hnet : netIDB.length = 3) (heui : joinEUIB.length = 8)
    (hjoin : joinNonceB.length = 3) (hdev : devNonceB.length = 2) :
    ∀ f ∈ sKeyFields optNeg typ netIDB joinEUIB joinNonceB devNonceB,
      stop f ≤ (List.replicate 16 (0 : UInt8)).length := by
  cases optNeg <;> simp [sKeyFields, stop, hnet, heui, hjoin, hdev]

theorem apart_sKeyFields (optNeg : Bool) (hnet : netIDB.length = 3) (heui : joinEUIB.length = 8)
    (hjoin : joinNonceB.length = 3) :
    (sKeyFields optNeg typ netIDB joinEUIB joinNonceB devNonceB).Pairwise Apart := by
  cases optNeg <;> simp [sKeyFields, Apart, stop, hnet, heui, hjoin]

end

/-- The inputs of `getSKey` under one root key. -/
structure Session where
  netID : NetID
  joinEUI : EUI64
  joinNonce : JoinNonce
  devNonce : DevNonce

/-- The fields of a session. -/
def Session.fields (s : Session) (optNeg : Bool) (typ : UInt8) : List (Layout.Field UInt8) :=
  sKeyFields optNeg typ s.netID.toList.reverse s.joinEUI.toList.reverse (joinNonceBytes s.joinNonce)
    (devNonceBytes s.devNonce)

/-- The block of a session. -/
def Session.block (s : Session) (optNeg : Bool) (typ : UInt8) : List UInt8 :=
  sKeyBlock optNeg typ s.netID.toList.reverse s.joinEUI.toList.reverse (joinNonceBytes s.joinNonce)
    (devNonceBytes s.devNonce)

/-- `getSKey` of a session. -/
def Session.sKey (lib : Library) (newCipher : AES128Key → Except String CipherBlock)
    (nwkKey : AES128Key) (optNeg : Bool) (typ : UInt8) (s : Session) : Except String AES128Key :=
  getSKey lib newCipher optNeg typ nwkKey s.netID s.joinEUI s.joinNonce s.devNonce

/-- The two sessions have the same of what goes into the block. -/
def Session.Same (optNeg : Bool) (s t : Session) : Prop :=
  s.joinNonce = t.joinNonce ∧ (if optNeg then s.joinEUI = t.joinEUI else s.netID = t.netID) ∧
    s.devNonce = t.devNonce

variable {s t : Session} {optNeg : Bool} {typ typ' : UInt8}

/-- **The block determines the type byte and the session.** -/
theorem sKeyBlock_inj (hs : s.joinNonce.toNat < 2 ^ 24) (ht : t.joinNonce.toNat < 2 ^ 24)
    (h : s.block optNeg typ = t.block optNeg typ') : typ = typ' ∧ s.Same optNeg t := by
  have hfields : s.fields optNeg typ = t.fields optNeg typ' := by
    unfold Session.block at h
    rw [sKeyBlock_eq_writeAll _ (by simp) (by simp) rfl rfl,
      sKeyBlock_eq_writeAll _ (by simp) (by simp) rfl rfl] at h
    refine writeAll_inj (fits_sKeyFields _ (by simp) (by simp) rfl rfl)
      (apart_sKeyFields _ (by simp) (by simp) rfl) (fits_sKeyFields _ (by simp) (by simp) rfl rfl)
      (apart_sKeyFields _ (by simp) (by simp) rfl) ?_ h
    cases optNeg <;> simp [Session.fields, sKeyFields, joinNonceBytes, devNonceBytes]
  cases optNeg with
  | true =>
    simp only [Session.fields, sKeyFields, if_true, List.cons.injEq, Prod.mk.injEq, true_and,
      and_true] at hfields
    obtain ⟨htyp, hjoin, heui, hdev⟩ := hfields
    exact ⟨htyp, joinNonceBytes_inj hs ht hjoin, reverse_toList_inj heui, devNonceBytes_inj hdev⟩
  | false =>
    simp only [Session.fields, sKeyFields, Bool.false_eq_true, if_false, List.cons.injEq,
      Prod.mk.injEq, true_and, and_true] at hfields
    obtain ⟨htyp, hjoin, hnet, hdev⟩ := hfields
    exact ⟨htyp, joinNonceBytes_inj hs ht hjoin, reverse_toList_inj hnet, devNonceBytes_inj hdev⟩

/-! ## The keys -/

section
variable {lib : Library} {newCipher : AES128Key → Except String CipherBlock} {nwkKey : AES128Key}
  {cipher : CipherBlock}

theorem sKey_eq (hlib : WireForms lib) (hcipher : newCipher nwkKey = .ok cipher)
    (hinj : Injective cipher) (hs : s.joinNonce.toNat < 2 ^ 24) :
    s.sKey lib newCipher nwkKey optNeg typ = .ok (cipher.encrypt (s.block optNeg typ)) :=
  getSKey_eq lib newCipher optNeg typ (hlib.netID _) (hlib.eui64 _) (hlib.joinNonce _ hs)
    (hlib.devNonce _) hcipher hinj.blockSize

theorem sKey_inj (hlib : WireForms lib) (hcipher : newCipher nwkKey = .ok cipher)
    (hinj : Injective cipher) (hs : s.joinNonce.toNat < 2 ^ 24) (ht : t.joinNonce.toNat < 2 ^ 24)
    (h : s.sKey lib newCipher nwkKey optNeg typ = t.sKey lib newCipher nwkKey optNeg typ') :
    typ = typ' ∧ s.Same optNeg t := by
  rw [sKey_eq hlib hcipher hinj hs, sKey_eq hlib hcipher hinj ht] at h
  have hblocks := hinj.encrypt _ _ (length_sKeyBlock _ _ _ _ _ _) (length_sKeyBlock _ _ _ _ _ _)
    (Except.ok.inj h)
  exact sKeyBlock_inj hs ht hblocks

/-- **Session keys separate their inputs.**  For one root key and one `OptNeg`: every key exists;
    equal keys come from one type byte and one session; the AppSKey and the NwkSKey of a session
    differ; and no key of a session is one of a session with another nonce. -/
theorem sKeys_separate (hlib : WireForms lib) (hcipher : newCipher nwkKey = .ok cipher)
    (hinj : Injective cipher) (optNeg : Bool) :
    (∀ (typ : UInt8) (s : Session), s.joinNonce.toNat < 2 ^ 24 →
      ∃ key, s.sKey lib newCipher nwkKey optNeg typ = .ok key) ∧
    (∀ (typ typ' : UInt8) (s t : Session), s.joinNonce.toNat < 2 ^ 24 → t.joinNonce.toNat < 2 ^ 24 →
      s.sKey lib newCipher nwkKey optNeg typ = t.sKey lib newCipher nwkKey optNeg typ' →
      typ = typ' ∧ s.Same optNeg t) ∧
    (∀ s : Session, s.joinNonce.toNat < 2 ^ 24 →
      getAppSKey lib newCipher optNeg nwkKey s.netID s.joinEUI s.joinNonce s.devNonce ≠
        getFNwkSIntKey lib newCipher optNeg nwkKey s.netID s.joinEUI s.joinNonce s.devNonce) ∧
    (∀ s t : Session, s.joinNonce.toNat < 2 ^ 24 → t.joinNonce.toNat < 2 ^ 24 →
      s.joinNonce ≠ t.joinNonce ∨ s.devNonce ≠ t.devNonce →
      ∀ key ∈ [getAppSKey, getFNwkSIntKey], ∀ key' ∈ [getAppSKey, getFNwkSIntKey],
        key lib newCipher optNeg nwkKey s.netID s.joinEUI s.joinNonce s.devNonce ≠
          key' lib newCipher optNeg nwkKey t.netID t.joinEUI t.joinNonce t.devNonce) := by
  refine ⟨fun typ s hs => ⟨_, sKey_eq hlib hcipher hinj hs⟩,
    fun typ typ' s t hs ht h => sKey_inj hlib hcipher hinj hs ht h, fun s hs h => ?_,
    fun s t hs ht hnonce key hkey key' hkey' h => ?_⟩
  · have htyp : (0x02 : UInt8) = 0x01 := (sKey_inj (s := s) (t := s) hlib hcipher hinj hs hs h).1
    exact absurd htyp (by decide)
  · have hsame : ∀ typ typ' : UInt8, s.sKey lib newCipher nwkKey optNeg typ ≠
        t.sKey lib newCipher nwkKey optNeg typ' := by
      intro typ typ' heq
      obtain ⟨-, hjoin, -, hdev⟩ := sKey_inj hlib hcipher hinj hs ht heq
      rcases hnonce with hne | hne
      · exact hne hjoin
      · exact hne hdev
    simp only [List.mem_cons, List.not_mem_nil, or_false] at hkey hkey'
    rcases hkey with rfl | rfl <;> rcases hkey' with rfl | rfl <;> exact hsame _ _ h

end

/-! ### The plain library -/

theorem wireForms_plain : WireForms .plain where
  netID _ := rfl
  eui64 _ := rfl
  joinNonce _ hn := if_pos hn
  devNonce _ := rfl

/-- A cipher that leaves the block as it is loses nothing of it. -/
theorem injective_plainCipher (nwkKey : AES128Key) {cipher : CipherBlock}
    (h : plainCipher nwkKey = .ok cipher) : Injective cipher := by
  cases h
  refine ⟨rfl, fun b b' hb hb' heq => List.ext_getElem (hb.trans hb'.symm) fun i hi hi' => ?_⟩
  have hbyte : b.getD i 0 = b'.getD i 0 := by
    have hkey := congrArg (fun key : AES128Key => key.toList[i]?) heq
    simpa [show i < 16 by omega] using hkey
  simpa [List.getD_eq_getElem?_getD, List.getElem?_eq_getElem hi, List.getElem?_eq_getElem hi']
    using hbyte

/-- The two keys of a session with `OptNeg`. -/
theorem keys_differ_plain :
    getAppSKey .plain plainCipher true (Vector.replicate 16 0) #v[0, 0, 1] #v[1, 2, 3, 4, 5, 6, 7, 8]
        65537 513 ≠
      getFNwkSIntKey .plain plainCipher true (Vector.replicate 16 0) #v[0, 0, 1]
        #v[1, 2, 3, 4, 5, 6, 7, 8] 65537 513 :=
  (sKeys_separate wireForms_plain rfl (injective_plainCipher (Vector.replicate 16 0) rfl)
    true).2.2.1 ⟨#v[0, 0, 1], #v[1, 2, 3, 4, 5, 6, 7, 8], 65537, 513⟩ (by decide)

end ChirpStackSimulator.KeySeparation
