/-
  Updates of ChirpStack's records (`internal/api/organizations.go`, `applications.go`,
  `device_profiles.go`, `devices.go`).

  A record has the fields that the repository names (`Handlers.lean` has those) and many more, here
  of some type `ρ`.  In a message that is written down field by field all the others have their zero
  value, and ChirpStack replaces the whole record by the message.

  1. **The server** - records under their keys, each stored under its own, and the calls that fail.
  2. **The handlers** - two edit the record they have got (`editRecord`), two write a new one; what
     comes before the message, connection, body and required fields, is `checked`.
  3. **What is kept** (`updates_keep_iff`) - an edited record keeps what the request does not carry
     (`kept_editRecord`); one written anew keeps it exactly if it had the zero values
     (`kept_send_iff`).
-/
import ChirpStackSimulator.Handlers
import Mathlib.Logic.Function.Basic

namespace ChirpStackSimulator.Updates

open Handlers

/-! ## The server -/

/-- A record with all its fields. -/
structure Full (κ ρ : Type) where
  named : κ
  other : ρ
  deriving DecidableEq

variable {κ ρ α : Type} {key : κ → String}

/-- ChirpStack's records of one kind, and which of its calls fail. -/
structure Server (key : κ → String) (ρ : Type) where
  connected : Bool
  getError : Option RPCError
  updateError : Option RPCError
  records : String → Option (Full κ ρ)
  stored : ∀ id r, records id = some r → key r.named = id

def Server.get (s : Server key ρ) (id : String) : Except RPCError (Full κ ρ) :=
  match s.getError with
  | some e => .error e
  | none =>
    match s.records id with
    | none => .error ⟨true, "object does not exist"⟩
    | some r => .ok r

/-- The record is stored. -/
def Server.put (s : Server key ρ) (r : Full κ ρ) : Server key ρ where
  connected := s.connected
  getError := s.getError
  updateError := s.updateError
  records := Function.update s.records (key r.named) (some r)
  stored := by
    intro id r' h
    by_cases hid : id = key r.named
    · subst hid
      rw [Function.update_self] at h
      rw [← Option.some.inj h]
    · rw [Function.update_of_ne hid] at h
      exact s.stored id r' h

/-- The error of an update under the key. -/
def Server.refuses (s : Server key ρ) (id : String) : Option RPCError :=
  match s.updateError with
  | some e => some e
  | none => if (s.records id).isSome then none else some ⟨true, "object does not exist"⟩

/-- An update replaces the record by the message. -/
def Server.update (s : Server key ρ) (r : Full κ ρ) : Option RPCError × Server key ρ :=
  match s.refuses (key r.named) with
  | some e => (some e, s)
  | none => (none, s.put r)

/-! ## The handlers -/

/-- The connection, the body and the fields that must not be empty. -/
def checked (unconnected invalid : String) (body : Except String α)
    (fields : α → List (String × String)) (s : Server key ρ)
    (k : α → Response × Server key ρ) : Response × Server key ρ :=
  if s.connected = false then (.serviceUnavailable unconnected, s)
  else
    match body with
    | .error e => (.badRequest (invalid ++ e), s)
    | .ok req =>
      match (fields req).find? fun f => f.1 = "" with
      | some f => (.badRequest f.2, s)
      | none => k req

/-- The message is sent. -/
def send (failed : String) (r : Full κ ρ) (s : Server key ρ) : Response × Server key ρ :=
  match s.update r with
  | (some e, s) => (.badGateway (failed ++ e.text), s)
  | (none, s) => (.json, s)

/-- The handlers that edit the record they have got. -/
def editRecord (notGot failed : String) (id : String) (edit : κ → κ) (s : Server key ρ) :
    Response × Server key ρ :=
  match s.get id with
  | .error e => (.badGateway (notGot ++ e.text), s)
  | .ok r => send failed { r with named := edit r.named } s

/-- The PUT of `handleDeviceByID`; `zero` are the zero values. -/
def handleDeviceByID (zero : ρ) (devEUI : String) (body : Except String CreateDeviceRequest)
    (s : Server DeviceRecord.devEUI ρ) : Response × Server DeviceRecord.devEUI ρ :=
  checked notConnected "invalid JSON: " body (fun req =>
      [(req.name, "device name is required"), (req.applicationID, "application_id is required"),
        (req.deviceProfileID, "device_profile_id is required")]) s fun req =>
    send failedToConnect ⟨⟨devEUI, req.name, req.description, req.applicationID, req.deviceProfileID,
      req.isDisabled⟩, zero⟩ s

section
variable (m : Method)

def handleUpdateOrganization (id : String) (body : Except String OrganizationRequest)
    (s : Server TenantRecord.id ρ) : Response × Server TenantRecord.id ρ :=
  if m ≠ .put then (.methodNotAllowed, s)
  else checked notConnected "invalid JSON: " body (fun req =>
      [(req.name, "organization name is required")]) s fun req =>
    editRecord "Failed to retrieve tenant from ChirpStack: "
      "Failed to update tenant in ChirpStack: " id
      (fun tenant => { tenant with name := req.name, description := req.description }) s

def handleUpdateApplication (id : String) (body : Except String UpdateApplicationRequest)
    (s : Server ApplicationRecord.id ρ) : Response × Server ApplicationRecord.id ρ :=
  if m ≠ .put then (.methodNotAllowed, s)
  else checked notConnectedTurkish "geçersiz JSON: " body (fun req =>
      [(req.name, "uygulama adı zorunludur")]) s fun req =>
    editRecord "ChirpStack API'den uygulama bilgisi alınamadı: " failedToConnectTurkish id
      (fun app => { app with name := req.name, description := req.description }) s

def handleUpdateDeviceProfile (zero : ρ) (enums : Enums) (id : String)
    (body : Except String CreateDeviceProfileRequest) (s : Server DeviceProfileRecord.id ρ) :
    Response × Server DeviceProfileRecord.id ρ :=
  if m ≠ .put then (.methodNotAllowed, s)
  else checked notConnected "invalid JSON: " body (fun req =>
      [(req.name, "profile name is required")]) s fun req =>
    send failedToConnect ⟨profileRecord enums id req, zero⟩ s

end

/-! ## What is kept -/

/-- The record is there after the update, and what the request does not carry is as it was. -/
def Kept {γ : Type} (uncarried : κ → γ) (id : String) (r : Full κ ρ) (s' : Server key ρ) : Prop :=
  ∃ r', s'.records id = some r' ∧ uncarried r'.named = uncarried r.named ∧ r'.other = r.other

theorem ne_json {r : Response} {e : String} (h : r.error = some e) : r ≠ .json := by
  rintro rfl
  cases h

theorem put_records (s : Server key ρ) (r : Full κ ρ) : (s.put r).records (key r.named) = some r :=
  Function.update_self _ _ _

/-- A message that was sent has replaced the record. -/
theorem send_json {failed : String} {r : Full κ ρ} {s : Server key ρ}
    (h : (send failed r s).1 = .json) : (send failed r s).2.records (key r.named) = some r := by
  unfold send Server.update at h ⊢
  cases hr : s.refuses (key r.named) with
  | none => exact put_records s r
  | some e =>
    rw [hr] at h
    exact absurd h (ne_json rfl)

/-- An answer without an error comes after the checks. -/
theorem checked_json {unconnected invalid : String} {body : Except String α}
    {fields : α → List (String × String)} {s : Server key ρ} {k : α → Response × Server key ρ}
    (h : (checked unconnected invalid body fields s k).1 = .json) :
    ∃ req, checked unconnected invalid body fields s k = k req := by
  unfold checked at h ⊢
  cases hc : s.connected with
  | false =>
    rw [if_pos hc] at h
    exact absurd h (ne_json rfl)
  | true =>
    have hnot : ¬ s.connected = false := by rw [hc]; exact Bool.noConfusion
    rw [if_neg hnot] at h
    rw [hc] at hnot
    cases body with
    | error e => exact absurd h (ne_json rfl)
    | ok req =>
      cases hf : (fields req).find? fun f => f.1 = "" with
      | some f =>
        simp only [hf] at h
        exact absurd h (ne_json rfl)
      | none =>
        refine ⟨req, ?_⟩
        rw [if_neg hnot]
        simp only [hf]

/-- An edit keeps what it does not edit. -/
theorem kept_editRecord {γ : Type} {uncarried : κ → γ} {notGot failed id : String} {edit : κ → κ}
    {s : Server key ρ} {r : Full κ ρ} (hr : s.records id = some r)
    (hkey : ∀ k, key (edit k) = key k) (huncarried : ∀ k, uncarried (edit k) = uncarried k)
    (h : (editRecord notGot failed id edit s).1 = .json) :
    Kept uncarried id r (editRecord notGot failed id edit s).2 := by
  unfold editRecord at h ⊢
  cases hget : s.get id with
  | error e =>
    simp only [hget] at h
    exact absurd h (ne_json rfl)
  | ok r' =>
    have hr' : r' = r := by
      unfold Server.get at hget
      split at hget
      · cases hget
      · rw [hr] at hget
        exact (Except.ok.inj hget).symm
    subst hr'
    simp only [hget] at h ⊢
    have hsent := send_json h
    rw [show key (edit r'.named) = id from (hkey _).trans (s.stored id r' hr)] at hsent
    exact ⟨_, hsent, huncarried _, rfl⟩

/-- A record written anew keeps the zero values. -/
theorem kept_send_iff {γ : Type} {uncarried : κ → γ} {failed id : String} {named : κ} {zero : ρ}
    {s : Server key ρ} {r : Full κ ρ} (hid : key named = id)
    (huncarried : uncarried named = uncarried r.named)
    (h : (send failed ⟨named, zero⟩ s).1 = .json) :
    Kept uncarried id r (send failed ⟨named, zero⟩ s).2 ↔ r.other = zero := by
  have hsent := send_json h
  rw [show key (⟨named, zero⟩ : Full κ ρ).named = id from hid] at hsent
  constructor
  · rintro ⟨r', hr', -, hother⟩
    rw [hsent] at hr'
    rw [← hother, ← Option.some.inj hr']
  · intro hzero
    exact ⟨_, hsent, huncarried, hzero.symm⟩

/-- **Updates keep what they do not mention**: those of organizations and applications always, those
    of device profiles and devices exactly if what they do not mention had the zero values. -/
theorem updates_keep_iff (zero : ρ) (enums : Enums) (id : String) :
    (∀ body (s : Server TenantRecord.id ρ) r, s.records id = some r →
      (handleUpdateOrganization .put id body s).1 = .json →
        Kept (fun tenant => (tenant.id, tenant.canHaveGateways)) id r
          (handleUpdateOrganization .put id body s).2) ∧
    (∀ body (s : Server ApplicationRecord.id ρ) r, s.records id = some r →
      (handleUpdateApplication .put id body s).1 = .json →
        Kept (fun app => (app.id, app.tenantID)) id r (handleUpdateApplication .put id body s).2) ∧
    (∀ body (s : Server DeviceProfileRecord.id ρ) r, s.records id = some r →
      (handleUpdateDeviceProfile .put zero enums id body s).1 = .json →
        (Kept DeviceProfileRecord.id id r (handleUpdateDeviceProfile .put zero enums id body s).2 ↔
          r.other = zero)) ∧
    (∀ body (s : Server DeviceRecord.devEUI ρ) r, s.records id = some r →
      (handleDeviceByID zero id body s).1 = .json →
        (Kept DeviceRecord.devEUI id r (handleDeviceByID zero id body s).2 ↔ r.other = zero)) := by
  refine ⟨fun body s r hr h => ?_, fun body s r hr h => ?_, fun body s r hr h => ?_,
    fun body s r hr h => ?_⟩
  · rw [show handleUpdateOrganization .put id body s = checked .. from if_neg (by decide)] at h ⊢
    obtain ⟨req, hreq⟩ := checked_json h
    rw [hreq] at h ⊢
    exact kept_editRecord hr (fun _ => rfl) (fun _ => rfl) h
  · rw [show handleUpdateApplication .put id body s = checked .. from if_neg (by decide)] at h ⊢
    obtain ⟨req, hreq⟩ := checked_json h
    rw [hreq] at h ⊢
    exact kept_editRecord hr (fun _ => rfl) (fun _ => rfl) h
  · rw [show handleUpdateDeviceProfile .put zero enums id body s = checked .. from
      if_neg (by decide)] at h ⊢
    obtain ⟨req, hreq⟩ := checked_json h
    rw [hreq] at h ⊢
    exact kept_send_iff rfl (s.stored id r hr).symm h
  · unfold handleDeviceByID at h ⊢
    obtain ⟨req, hreq⟩ := checked_json h
    rw [hreq] at h ⊢
    exact kept_send_iff rfl (s.stored id r hr).symm h

def Server.empty : Server key ρ where
  connected := true
  getError := none
  updateError := none
  records _ := none
  stored := fun _ _ h => by cases h

/-- Enumerations that have every value. -/
def anyEnums : Enums := ⟨fun _ => true, fun _ => true, fun _ => true⟩

/-- A profile with a codec. -/
def decoding (codec : String) : Full DeviceProfileRecord String :=
  ⟨⟨"p", "old", "t", "", "LORAWAN_1_0_3", "B", "EU868", true, false, false, "default"⟩, codec⟩

/-- The name is changed. -/
def renamed : CreateDeviceProfileRequest :=
  ⟨"new", "t", "", "LORAWAN_1_0_3", "B", true, false, false, "EU868", "default"⟩

/-- A profile without a codec, a device, an application and an organization. -/
theorem updates_keep_iff_renamed :
    Kept (fun tenant => (tenant.id, tenant.canHaveGateways)) "o" ⟨⟨"o", "old", "", true⟩, "tags"⟩
      (handleUpdateOrganization .put "o" (.ok ⟨"new", ""⟩)
        (Server.empty.put ⟨⟨"o", "old", "", true⟩, "tags"⟩)).2 ∧
    Kept (fun app => (app.id, app.tenantID)) "a" ⟨⟨"a", "old", "", "t"⟩, "tags"⟩
      (handleUpdateApplication .put "a" (.ok ⟨"new", ""⟩)
        (Server.empty.put ⟨⟨"a", "old", "", "t"⟩, "tags"⟩)).2 ∧
    Kept DeviceProfileRecord.id "p" (decoding "")
      (handleUpdateDeviceProfile .put "" anyEnums "p" (.ok renamed)
        (Server.empty.put (decoding ""))).2 ∧
    Kept DeviceRecord.devEUI "d" ⟨⟨"d", "old", "", "a", "p", false⟩, ""⟩
      (handleDeviceByID "" "d" (.ok ⟨"d", "new", "a", "p", "", false⟩)
        (Server.empty.put ⟨⟨"d", "old", "", "a", "p", false⟩, ""⟩)).2 :=
  ⟨(updates_keep_iff "" anyEnums "o").1 _ _ _ rfl (by decide),
    (updates_keep_iff "" anyEnums "a").2.1 _ _ _ rfl (by decide),
    ((updates_keep_iff "" anyEnums "p").2.2.1 _ _ _ rfl (by decide)).mpr rfl,
    ((updates_keep_iff "" anyEnums "d").2.2.2 _ _ _ rfl (by decide)).mpr rfl⟩

/-- The codec of a profile is gone with its old name. -/
theorem renamed_not_kept :
    (handleUpdateDeviceProfile .put "" anyEnums "p" (.ok renamed)
      (Server.empty.put (decoding "return {};"))).1 = .json ∧
    ¬ Kept DeviceProfileRecord.id "p" (decoding "return {};")
      (handleUpdateDeviceProfile .put "" anyEnums "p" (.ok renamed)
        (Server.empty.put (decoding "return {};"))).2 := by
  refine ⟨by decide, ?_⟩
  rintro ⟨r', hr', -, hother⟩
  have hsent : r' = ⟨profileRecord anyEnums "p" renamed, ""⟩ := (Option.some.inj hr').symm
  rw [hsent] at hother
  exact absurd hother (by decide)

end ChirpStackSimulator.Updates
