/-
  What a request writes to ChirpStack (`internal/api/server.go`, `organizations.go`,
  `applications.go`, `gateways.go`, `device_profiles.go`, `devices.go`).

  Any number of requests are served side by side, and every call of theirs is answered in any way.  All
  routes but `/api/bootstrap` are covered; `/api/start` reads ChirpStack and writes nothing to it.

  1. **The law** — `applied` are the writes of a request that ChirpStack has accepted.  A request that
     is answered with success has made the one write it asks for (`Described`), and one that is refused
     none (`Refused`).  Creating a device takes two writes; when the second fails the first one is undone,
     unless that fails as well or no key could be drawn.
  2. **Steps** — each step of a handler either refuses before anything is written, or goes on.
  3. **Handlers** — one lemma for each.
  4. `request_applies`: the law holds of every request that has been answered, in every run.
-/
import ChirpStackSimulator.Lib.Ledger
import ChirpStackSimulator.PassiveGuard

namespace ChirpStackSimulator.Routes

open Handlers Bootstrap Discovery Prog
open Lifecycle (Status)

/-! ## The law -/

/-- The call writes, and this answer says that it has. -/
def RPC.accepted : (r : RPC) → r.Answer → Bool
  | .createTenant _, x | .createGateway _, x | .createDeviceProfile _, x
  | .createApplication _, x => match x with
    | .ok _ => true
    | .error _ => false
  | .updateTenant _, x | .deleteTenant _, x | .deleteGateway _, x | .updateDeviceProfile _, x
  | .deleteDeviceProfile _, x | .updateApplication _, x | .deleteApplication _, x
  | .createDevice _, x | .updateDevice _, x | .deleteDevice _, x | .createKeys _, x
  | .updateKeys _, x | .deleteKeys _, x => match x with
    | some _ => false
    | none => true
  | _, _ => false

/-- The calls of a request with their answers, in order. -/
abbrev Log := List (Event Call.Answer)

/-- What an event has written. -/
def written : Event Call.Answer → List RPC
  | ⟨.rpc r, x⟩ => if RPC.accepted r x then [r] else []
  | _ => []

/-- The writes ChirpStack has accepted, in order. -/
def applied (log : Log) : List RPC := log.flatMap written

/-- The device a request asks for. -/
def deviceOf (req : CreateDeviceRequest) : DeviceRecord :=
  ⟨req.devEUI, req.name, req.description, req.applicationID, req.deviceProfileID, req.isDisabled⟩

/-- What a request that succeeds has written. -/
def Described (enums : Enums) (r : HTTPRequest) (log : Log) : Prop :=
  match route r.path, r.method with
  | .organizations, .post => ∃ req, r.body.organization = .ok req ∧
      applied log = [.createTenant ⟨"", req.name, req.description, true⟩]
  | .organization id, .put => ∃ req old, r.body.organization = .ok req ∧
      ⟨.rpc (.getTenant id), .ok old⟩ ∈ log ∧
      applied log = [.updateTenant { old with name := req.name, description := req.description }]
  | .organization id, .delete => applied log = [.deleteTenant id]
  | .deviceProfiles, .post => ∃ req, r.body.deviceProfile = .ok req ∧
      applied log = [.createDeviceProfile (profileRecord enums "" req)]
  | .deviceProfile id, .put => ∃ req, r.body.deviceProfile = .ok req ∧
      applied log = [.updateDeviceProfile (profileRecord enums id req)]
  | .deviceProfile id, .delete => applied log = [.deleteDeviceProfile id]
  | .applications, .post => ∃ req, r.body.createApplication = .ok req ∧
      applied log = [.createApplication ⟨"", req.name, req.description, req.tenantID⟩]
  | .application id, .put => ∃ req old, r.body.updateApplication = .ok req ∧
      ⟨.rpc (.getApplication id), .ok old⟩ ∈ log ∧
      applied log =
        [.updateApplication { old with name := req.name, description := req.description }]
  | .application id, .delete => applied log = [.deleteApplication id]
  | .gateways, .post => ∃ req, r.body.gateway = .ok req ∧
      applied log = [.createGateway ⟨req.id, req.name, req.description, req.tenantID⟩]
  | .gateway id, .delete => applied log = [.deleteGateway id]
  | .devices, .post => ∃ req appKey, r.body.device = .ok req ∧
      ⟨.randRead 16, .ok appKey⟩ ∈ log ∧
      applied log = [.createDevice (deviceOf req),
        .createKeys ⟨req.devEUI, Hex.encode appKey.toList, ""⟩]
  | .device path, .put => ∃ req, r.body.device = .ok req ∧
      applied log = [.updateDevice { deviceOf req with devEUI := path }]
  | .device path, .delete => applied log = [.deleteDevice path]
  | _, _ => applied log = []

/-- A device was created and is there without keys: none could be drawn, or the deletion failed. -/
def LeftOver (req : CreateDeviceRequest) (log : Log) : Prop :=
  applied log = [.createDevice (deviceOf req)] ∧
    ((∃ e, ⟨.randRead 16, .error e⟩ ∈ log) ∨ ∃ e, ⟨.rpc (.deleteDevice req.devEUI), some e⟩ ∈ log)

/-- What a request that is refused has written. -/
def Refused (r : HTTPRequest) (log : Log) : Prop :=
  applied log = [] ∨
    (route r.path = .devices ∧ r.method = .post ∧ ∃ req, r.body.device = .ok req ∧
      (applied log = [.createDevice (deviceOf req), .deleteDevice req.devEUI] ∨ LeftOver req log))

/-- The law, for an answer; the handlers that are not part of this model are given none. -/
def Law (enums : Enums) (r : HTTPRequest) (answer : Option Response) (log : Log) : Prop :=
  match answer with
  | none => applied log = []
  | some a => (a.code < 400 → Described enums r log) ∧ (400 ≤ a.code → Refused r log)

/-! ## Steps -/

@[simp] theorem applied_nil : applied [] = [] := rfl

@[simp] theorem applied_append (log log' : Log) : applied (log ++ log') = applied log ++ applied log' :=
  List.flatMap_append

@[simp] theorem applied_single (e : Event Call.Answer) : applied [e] = written e :=
  List.append_nil _

/-- A call that does not write. -/
theorem written_of_not_write {e : Event Call.Answer} (h : ¬ IsWrite e.call) : written e = [] := by
  obtain ⟨c, x⟩ := e
  cases c with
  | rpc r => cases r <;> first | rfl | exact absurd trivial h
  | _ => rfl

/-- A log without writes applies nothing. -/
theorem applied_of_not_writes {log : Log} (h : ∀ e ∈ log, ¬ IsWrite e.call) : applied log = [] :=
  List.flatMap_eq_nil_iff.mpr fun e he => written_of_not_write (h e he)

theorem Looks.not_write {c : Call} (h : Looks c) : ¬ IsWrite c := by
  cases c with
  | rpc r => exact h
  | _ => exact id

section
variable {D F : Log → Prop}

/-- Success with `D`, or a refusal with `F`. -/
def Ends (D F : Log → Prop) (a : Response) (log : Log) : Prop :=
  (a.code < 400 → D log) ∧ (400 ≤ a.code → F log)

/-- From where nothing has been written, the handler ends in success with `D` or in a refusal with
    `F`. -/
def Serves (D F : Log → Prop) (p : Action Response) : Prop :=
  ∀ log, applied log = [] → Meets (Ends D F) p log

/-- A refusal. -/
theorem refuses {a : Response} {log : Log} (ha : 400 ≤ a.code) (h : F log) :
    Meets (Ends D F) (pure a : Action Response) log :=
  meets_pure ⟨fun hlt => absurd hlt (Nat.not_lt.mpr ha), fun _ => h⟩

/-- A success. -/
theorem succeeds {a : Response} {log : Log} (ha : a.code < 400) (h : D log) :
    Meets (Ends D F) (pure a : Action Response) log :=
  meets_pure ⟨fun _ => h, fun hle => absurd ha (Nat.not_lt.mpr hle)⟩

/-- A handler that only looks. -/
theorem serves_of_not_writes {p : Action Response}
    (h : p.Keeps (fun _ _ => True) (fun c => ¬ IsWrite c) fun _ => True)
    (hD : ∀ log, applied log = [] → D log) (hF : ∀ log, applied log = [] → F log) :
    Serves D F p := by
  refine fun log hlog => Meets.of_keeps h fun a more hmore => ?_
  have hquiet : applied (log ++ more) = [] := by
    rw [applied_append, hlog, applied_of_not_writes hmore]
    rfl
  exact ⟨fun _ => hD _ hquiet, fun _ => hF _ hquiet⟩

/-- A handler that only looks writes nothing, whatever it answers. -/
theorem serves_of_peeks {p : Action Response} (h : Peeks p) (hD : ∀ log, applied log = [] → D log)
    (hF : ∀ log, applied log = [] → F log) : Serves D F p :=
  serves_of_not_writes (h.mono_calls fun _ => Looks.not_write) hD hF

variable (hF : ∀ log, applied log = [] → F log)
include hF

/-- So does one that refuses. -/
theorem serves_refusal {a : Response} (ha : 400 ≤ a.code) : Serves D F (pure a) :=
  fun log hlog => refuses ha (hF log hlog)

/-- The checks before a handler's own work end in a refusal, or let it go on. -/
theorem serves_only {expected m : Method} {k : Action Response} (h : Serves D F k) :
    Serves D F (only expected m k) := by
  unfold only
  split
  · exact serves_refusal hF (Nat.le_of_ble_eq_true rfl)
  · exact h

theorem serves_connected (error : String) {k : Action Response} (h : Serves D F k) :
    Serves D F (connected error k) := by
  refine fun log hlog => Meets.ask_bind fun x => ?_
  have hquiet : applied (log ++ [⟨.isConnected, x⟩]) = [] := by
    rw [applied_append, hlog]
    rfl
  match x with
  | false => exact serves_refusal hF (Nat.le_of_ble_eq_true rfl) _ hquiet
  | true => exact h _ hquiet

theorem serves_decoded {α : Type} (error : String) {body : Except String α}
    {k : α → Action Response} (h : ∀ req, body = .ok req → Serves D F (k req)) :
    Serves D F (decoded error body k) := by
  unfold decoded
  split
  · exact serves_refusal hF (Nat.le_of_ble_eq_true rfl)
  · next req => exact h req rfl

theorem serves_required (fields : List (String × String)) {k : Action Response}
    (h : Serves D F k) : Serves D F (required fields k) := by
  unfold required
  split
  · exact serves_refusal hF (Nat.le_of_ble_eq_true rfl)
  · exact h

theorem serves_withID (id error : String) {k : Action Response} (h : Serves D F k) :
    Serves D F (withID id error k) := by
  unfold withID
  split
  · exact serves_refusal hF (Nat.le_of_ble_eq_true rfl)
  · exact h

/-- A request is handled by the entry of its method. -/
theorem serves_byMethod {m : Method} {handlers : List (Method × Action Response)}
    (h : ∀ k, handlers.lookup m = some k → Serves D F k) : Serves D F (byMethod m handlers) := by
  unfold byMethod
  split
  · next k hk => exact h k hk
  · exact serves_refusal hF (Nat.le_of_ble_eq_true rfl)

omit hF in
/-- A call that reads. -/
theorem meets_read {r : RPC} {f : r.Answer → Action Response} {log : Log} (hr : ¬ r.Writes)
    (hlog : applied log = [])
    (h : ∀ x, applied (log ++ [⟨.rpc r, x⟩]) = [] →
      Meets (Ends D F) (f x) (log ++ [⟨.rpc r, x⟩])) :
    Meets (Ends D F) (rpc r >>= f) log := by
  refine Meets.ask_bind fun x => h x ?_
  have hquiet : written ⟨.rpc r, x⟩ = [] := written_of_not_write (e := ⟨.rpc r, x⟩) hr
  rw [applied_append, hlog, applied_single, hquiet]
  rfl

omit hF in
/-- A call that writes, if it is accepted. -/
theorem meets_write {r : RPC} {f : r.Answer → Action Response} {log : Log}
    (h : ∀ x, applied (log ++ [⟨.rpc r, x⟩]) = applied log ++ (if RPC.accepted r x then [r] else []) →
      Meets (Ends D F) (f x) (log ++ [⟨.rpc r, x⟩])) :
    Meets (Ends D F) (rpc r >>= f) log := by
  refine Meets.ask_bind fun x => h x ?_
  rw [applied_append, applied_single]
  rfl

/-- A handler whose last call is its one write, and which is answered as the write is. -/
theorem meets_last {r : RPC} {f : r.Answer → Action Response} {log : Log} (hlog : applied log = [])
    (hf : ∀ x, match RPC.accepted r x with
      | true => ∃ a, f x = pure a ∧ a.code < 400
      | false => ∃ a, f x = pure a ∧ 400 ≤ a.code)
    (hD : ∀ x, applied (log ++ [⟨.rpc r, x⟩]) = [r] → D (log ++ [⟨.rpc r, x⟩])) :
    Meets (Ends D F) (rpc r >>= f) log := by
  refine meets_write fun x hx => ?_
  have hfx := hf x
  rw [hlog] at hx
  cases haccepted : RPC.accepted r x with
  | true =>
    rw [haccepted] at hfx hx
    obtain ⟨a, hfx, ha⟩ := hfx
    rw [hfx]
    exact succeeds ha (hD x hx)
  | false =>
    rw [haccepted] at hfx hx
    obtain ⟨a, hfx, ha⟩ := hfx
    rw [hfx]
    exact refuses ha (hF _ hx)

/-! ## Handlers -/

/-- The handlers, each with the one write it makes if it succeeds. -/
theorem serves_handleCreateOrganization (m : Method) {body : Except String OrganizationRequest}
    (hD : ∀ req log, body = .ok req →
      applied log = [.createTenant ⟨"", req.name, req.description, true⟩] → D log) :
    Serves D F (handleCreateOrganization m body) := by
  refine serves_only hF (serves_connected hF _ (serves_decoded hF _ fun req hreq =>
    serves_required hF _ fun log hlog =>
      meets_last hF hlog (fun x => ?_) fun x hx => hD req _ hreq hx))
  cases x <;> exact ⟨_, rfl, Nat.le_of_ble_eq_true rfl⟩

/-- An update writes the record it has read, with the fields of the request. -/
theorem serves_handleUpdateOrganization (m : Method) (id : String)
    {body : Except String OrganizationRequest}
    (hD : ∀ req old log, body = .ok req → ⟨.rpc (.getTenant id), .ok old⟩ ∈ log →
      applied log = [.updateTenant { old with name := req.name, description := req.description }] →
      D log) :
    Serves D F (handleUpdateOrganization m id body) := by
  refine serves_only hF (serves_connected hF _ (serves_decoded hF _ fun req hreq =>
    serves_required hF _ fun log hlog => meets_read not_false hlog fun x hread => ?_))
  cases x with
  | error e => exact refuses (Nat.le_of_ble_eq_true rfl) (hF _ hread)
  | ok old =>
    refine meets_last hF hread (fun y => ?_) fun y hy => hD req old _ hreq ?_ hy
    · cases y <;> exact ⟨_, rfl, Nat.le_of_ble_eq_true rfl⟩
    · exact List.mem_append_left _ (List.mem_append_right _ List.mem_cons_self)

/-- The deletions write the id of the request. -/
theorem serves_handleDeleteOrganization (m : Method) (id : String)
    (hD : ∀ log, applied log = [.deleteTenant id] → D log) :
    Serves D F (handleDeleteOrganization m id) := by
  refine serves_only hF (serves_connected hF _ fun log hlog =>
      meets_last hF hlog (fun x => ?_) fun x hx => hD _ hx)
  cases x <;> exact ⟨_, rfl, Nat.le_of_ble_eq_true rfl⟩

theorem serves_handleDeleteApplication (m : Method) (id : String)
    (hD : ∀ log, applied log = [.deleteApplication id] → D log) :
    Serves D F (handleDeleteApplication m id) := by
  refine serves_only hF (serves_connected hF _ fun log hlog =>
      meets_last hF hlog (fun x => ?_) fun x hx => hD _ hx)
  cases x <;> exact ⟨_, rfl, Nat.le_of_ble_eq_true rfl⟩

theorem serves_handleDeleteGateway (m : Method) (id : String)
    (hD : ∀ log, applied log = [.deleteGateway id] → D log) :
    Serves D F (handleDeleteGateway m id) := by
  refine serves_only hF (serves_connected hF _ fun log hlog =>
      meets_last hF hlog (fun x => ?_) fun x hx => hD _ hx)
  cases x <;> exact ⟨_, rfl, Nat.le_of_ble_eq_true rfl⟩

theorem serves_handleDeleteDevice (m : Method) (devEUI : String)
    (hD : ∀ log, applied log = [.deleteDevice devEUI] → D log) :
    Serves D F (handleDeleteDevice m devEUI) := by
  refine serves_only hF (serves_connected hF _ fun log hlog =>
      meets_last hF hlog (fun x => ?_) fun x hx => hD _ hx)
  cases x <;> exact ⟨_, rfl, Nat.le_of_ble_eq_true rfl⟩

theorem serves_handleDeleteDeviceProfile (m : Method) (id : String)
    (hD : ∀ log, applied log = [.deleteDeviceProfile id] → D log) :
    Serves D F (handleDeleteDeviceProfile m id) := by
  refine serves_only hF fun log hlog =>
      meets_last hF hlog (fun x => ?_) fun x hx => hD _ hx
  cases x <;> exact ⟨_, rfl, Nat.le_of_ble_eq_true rfl⟩

theorem serves_handleCreateApplication (m : Method) {body : Except String CreateApplicationRequest}
    (hD : ∀ req log, body = .ok req →
      applied log = [.createApplication ⟨"", req.name, req.description, req.tenantID⟩] → D log) :
    Serves D F (handleCreateApplication m body) := by
  refine serves_only hF (serves_connected hF _ (serves_decoded hF _ fun req hreq =>
    serves_required hF _ fun log hlog =>
      meets_last hF hlog (fun x => ?_) fun x hx => hD req _ hreq hx))
  cases x <;> exact ⟨_, rfl, Nat.le_of_ble_eq_true rfl⟩

theorem serves_handleUpdateApplication (m : Method) (id : String)
    {body : Except String UpdateApplicationRequest}
    (hD : ∀ req old log, body = .ok req → ⟨.rpc (.getApplication id), .ok old⟩ ∈ log →
      applied log =
        [.updateApplication { old with name := req.name, description := req.description }] →
      D log) :
    Serves D F (handleUpdateApplication m id body) := by
  refine serves_only hF (serves_connected hF _ (serves_decoded hF _ fun req hreq =>
    serves_required hF _ fun log hlog => meets_read not_false hlog fun x hread => ?_))
  cases x with
  | error e => exact refuses (Nat.le_of_ble_eq_true rfl) (hF _ hread)
  | ok old =>
    refine meets_last hF hread (fun y => ?_) fun y hy => hD req old _ hreq ?_ hy
    · cases y <;> exact ⟨_, rfl, Nat.le_of_ble_eq_true rfl⟩
    · exact List.mem_append_left _ (List.mem_append_right _ List.mem_cons_self)

theorem serves_handleCreateGateway (m : Method) {body : Except String CreateGatewayRequest}
    (hD : ∀ req log, body = .ok req →
      applied log = [.createGateway ⟨req.id, req.name, req.description, req.tenantID⟩] → D log) :
    Serves D F (handleCreateGateway m body) := by
  refine serves_only hF (serves_connected hF _ (serves_decoded hF _ fun req hreq =>
    serves_required hF _ fun log hlog =>
      meets_last hF hlog (fun x => ?_) fun x hx => hD req _ hreq hx))
  cases x <;> exact ⟨_, rfl, Nat.le_of_ble_eq_true rfl⟩

theorem serves_handleCreateDeviceProfile (m : Method) (enums : Enums)
    {body : Except String CreateDeviceProfileRequest}
    (hD : ∀ req log, body = .ok req →
      applied log = [.createDeviceProfile (profileRecord enums "" req)] → D log) :
    Serves D F (handleCreateDeviceProfile m enums body) := by
  refine serves_only hF (serves_connected hF _ (serves_decoded hF _ fun req hreq =>
    serves_required hF _ fun log hlog =>
      meets_last hF hlog (fun x => ?_) fun x hx => hD req _ hreq hx))
  cases x <;> exact ⟨_, rfl, Nat.le_of_ble_eq_true rfl⟩

/-- This one writes the record of the request, and reads nothing before. -/
theorem serves_handleUpdateDeviceProfile (m : Method) (enums : Enums) (id : String)
    {body : Except String CreateDeviceProfileRequest}
    (hD : ∀ req log, body = .ok req →
      applied log = [.updateDeviceProfile (profileRecord enums id req)] → D log) :
    Serves D F (handleUpdateDeviceProfile m enums id body) := by
  refine serves_only hF (serves_connected hF _ (serves_decoded hF _ fun req hreq =>
    serves_required hF _ fun log hlog =>
      meets_last hF hlog (fun x => ?_) fun x hx => hD req _ hreq hx))
  cases x <;> exact ⟨_, rfl, Nat.le_of_ble_eq_true rfl⟩

/-- What the creation of a device leaves when it fails, by how far it got. -/
def DeviceFailed (req : CreateDeviceRequest) (log : Log) : Prop :=
  applied log = [.createDevice (deviceOf req), .deleteDevice req.devEUI] ∨ LeftOver req log

/-- The one handler with two writes: the device may be there although its keys were refused. -/
theorem serves_handleCreateDevice (m : Method) {body : Except String CreateDeviceRequest}
    (hD : ∀ req appKey log, body = .ok req → ⟨.randRead 16, .ok appKey⟩ ∈ log →
      applied log = [.createDevice (deviceOf req),
        .createKeys ⟨req.devEUI, Hex.encode appKey.toList, ""⟩] → D log)
    (hfailed : ∀ req log, body = .ok req → DeviceFailed req log → F log) :
    Serves D F (handleCreateDevice m body) := by
  refine serves_only hF (serves_connected hF _ (serves_decoded hF _ fun req hreq =>
    serves_required hF _ ?_))
  split
  · exact serves_refusal hF (Nat.le_of_ble_eq_true rfl)
  refine serves_required hF _ fun log hlog => meets_write fun x hx => ?_
  rw [hlog] at hx
  cases x with
  | some e => exact refuses (Nat.le_of_ble_eq_true rfl) (hF _ hx)
  | none =>
    -- the device is there; without a key it stays
    generalize hlog₁ : log ++ [_] = log₁ at hx ⊢
    refine Meets.ask_bind fun key => ?_
    have hkey : applied (log₁ ++ [⟨.randRead 16, key⟩]) = [.createDevice (deviceOf req)] := by
      rw [applied_append, hx]
      rfl
    have hmem : ⟨.randRead 16, key⟩ ∈ log₁ ++ [⟨.randRead 16, key⟩] :=
      List.mem_append_right _ List.mem_cons_self
    cases key with
    | error e =>
      exact refuses (Nat.le_of_ble_eq_true rfl)
        (hfailed req _ hreq (Or.inr ⟨hkey, Or.inl ⟨e, hmem⟩⟩))
    | ok appKey =>
      refine meets_write fun y hy => ?_
      rw [hkey] at hy
      cases y with
      | none =>
        exact succeeds (Nat.le_of_ble_eq_true rfl)
          (hD req appKey _ hreq (List.mem_append_left _ hmem) hy)
      | some e =>
        refine meets_write fun z hz => ?_
        rw [hy] at hz
        refine refuses (Nat.le_of_ble_eq_true rfl) (hfailed req _ hreq ?_)
        cases z with
        | none => exact Or.inl hz
        | some e' =>
          exact Or.inr ⟨hz, Or.inr ⟨e', List.mem_append_right _ List.mem_cons_self⟩⟩

/-- The route decides about the EUI, whatever the body says. -/
theorem serves_handleDeviceByID_put (devEUI : String) {body : Except String CreateDeviceRequest}
    (hD : ∀ req log, body = .ok req →
      applied log = [.updateDevice { deviceOf req with devEUI := devEUI }] → D log) :
    Serves D F (handleDeviceByID .put devEUI body) := by
  refine serves_connected hF _ (serves_decoded hF _ fun req hreq =>
    serves_required hF _ fun log hlog =>
      meets_last hF hlog (fun x => ?_) fun x hx => hD req _ hreq hx)
  cases x <;> exact ⟨_, rfl, Nat.le_of_ble_eq_true rfl⟩

theorem serves_handleDeviceByID_delete (devEUI : String) {body : Except String CreateDeviceRequest}
    (hD : ∀ log, applied log = [.deleteDevice devEUI] → D log) :
    Serves D F (handleDeviceByID .delete devEUI body) :=
  serves_connected hF _ (serves_handleDeleteDevice hF .delete devEUI hD)

end

/-- What a start launches writes later; the start itself does not. -/
theorem keeps_startLoop : ∀ (i : Nat) (cs : List SimulatorConfig),
    (startLoop i cs).Keeps (fun _ _ => True) (fun c => ¬ IsWrite c) fun _ => True
  | _, [] => trivial
  | i, c :: cs => by
    unfold startLoop
    split
    · trivial
    · exact Prog.Keeps.ask_bind not_false fun _ _ => keeps_startLoop (i + 1) cs

/-- A start launches simulations; what they write is theirs. -/
theorem keeps_handleStart (parseDuration : String → Except String Int) (post : Bool)
    (body : Except String StartRequest) (status : Status) :
    (handleStart parseDuration post body status).Keeps (fun _ _ => True) (fun c => ¬ IsWrite c)
      fun _ => True := by
  unfold handleStart
  split
  · trivial
  split
  · trivial
  split
  · trivial
  refine ((looks_prepareStart parseDuration).mono_calls fun _ => Looks.not_write).bind fun x _ => ?_
  cases x with
  | error e => trivial
  | ok cfg =>
    dsimp only
    split
    · trivial
    · exact (keeps_startLoop 0 cfg).bind fun _ _ => trivial

/-! ## Routes -/

section
variable {enums : Enums} {r : HTTPRequest} (secretToken : String)

/-- From where nothing has been written, what is left keeps the law. -/
def Lawful (enums : Enums) (r : HTTPRequest) (p : Action (Option Response)) : Prop :=
  ∀ log, applied log = [] → Meets (Law enums r) p log

/-- A route that is no handler's answers nothing here. -/
theorem lawful_pure_none : Lawful enums r (pure none) := fun _ hlog => meets_pure hlog

/-- An answer that refuses before anything is written. -/
theorem lawful_refusal {a : Response} (ha : 400 ≤ a.code) : Lawful enums r (pure (some a)) :=
  fun _ hlog => meets_pure ⟨fun hlt => absurd hlt (Nat.not_lt.mpr ha), fun _ => Or.inl hlog⟩

/-- A handler that does what its request says, as a route. -/
theorem lawful_of_serves {p : Action Response}
    (h : Serves (Described enums r) (Refused r) p) : Lawful enums r (some <$> p) :=
  fun log hlog => Meets.map (h log hlog)

/-- Both guards answer with a refusal or leave the request to what is behind them. -/
theorem lawful_requireAuth {next : Action (Option Response)} (h : Lawful enums r next) :
    Lawful enums r (requireAuth secretToken r next) := by
  unfold requireAuth
  split
  · exact h
  · exact lawful_refusal (Nat.le_of_ble_eq_true rfl)

theorem lawful_requireWriteMode {next : Action (Option Response)} (h : Lawful enums r next) :
    Lawful enums r (requireWriteMode r next) := by
  unfold requireWriteMode
  split
  · exact h
  · refine fun log hlog => Meets.bind_of_keeps peeks_isPassiveModeEnabled fun passive more hmore => ?_
    have hquiet : applied (log ++ more) = [] := by
      rw [applied_append, hlog, applied_of_not_writes fun e he => Looks.not_write (hmore e he)]
      rfl
    split
    · exact lawful_refusal (Nat.le_of_ble_eq_true rfl) _ hquiet
    · exact h _ hquiet

/-- A refusal that has written nothing. -/
theorem refused_of_quiet (log : Log) (h : applied log = []) : Refused r log := Or.inl h

/-- A route that only looks, whose requests write nothing when they succeed. -/
theorem lawful_of_peeks {p : Action Response} (h : Peeks p)
    (hD : ∀ log, applied log = [] → Described enums r log) : Lawful enums r (some <$> p) :=
  lawful_of_serves (serves_of_peeks h hD refused_of_quiet)

end

section
variable (secretToken : String) (enums : Enums) (parseDuration : String → Except String Int)

/-- **Every route keeps the law.** -/
theorem lawful_serve (r : HTTPRequest) (status : Status) (hboot : route r.path ≠ .bootstrap) :
    Lawful enums r (serve secretToken enums parseDuration r status) := by
  have hF := refused_of_quiet (r := r)
  unfold serve
  cases hrt : route r.path with
  | login | logout | authStatus | health | ui => exact lawful_pure_none
  | logStream | config | status | stop | metrics | activeDevices | activeGateways | smtpConfig
  | testEmail | syncStatus | syncEvents | syncDismiss =>
    exact lawful_requireAuth secretToken lawful_pure_none
  | bootstrap => exact absurd hrt hboot
  | start =>
    refine lawful_requireAuth secretToken (lawful_of_serves
      (serves_of_not_writes (keeps_handleStart parseDuration _ _ status) (fun log hlog => ?_) hF))
    rw [Described, hrt]
    exact hlog
  | orgConfig orgID =>
    refine lawful_requireAuth secretToken (lawful_of_peeks (peeks_withID orgID _ (peeks_byMethod _
      (by simp [peeks_handleGetOrgConfig, peeks_handleSaveOrgConfig]))) fun log hlog => ?_)
    rw [Described, hrt]
    exact hlog
  | deviceIntervals =>
    refine lawful_requireAuth secretToken (lawful_of_peeks (peeks_byMethod _
      (by simp [peeks_handleGetDeviceIntervals, peeks_handleSaveDeviceInterval])) fun log hlog => ?_)
    rw [Described, hrt]
    exact hlog
  | passiveMode =>
    refine lawful_requireAuth secretToken (lawful_of_peeks (peeks_byMethod _
      (by simp [peeks_handleGetPassiveMode, peeks_handleSavePassiveMode])) fun log hlog => ?_)
    rw [Described, hrt]
    exact hlog
  | syncTrigger =>
    refine lawful_requireAuth secretToken
      (lawful_of_peeks (peeks_handleTriggerSync _) fun log hlog => ?_)
    rw [Described, hrt]
    exact hlog
  | organizations =>
    refine lawful_requireAuth secretToken (lawful_requireWriteMode (lawful_of_serves
      (serves_byMethod hF fun k hk => ?_)))
    cases hm : r.method <;> rw [hm] at hk <;> cases hk
    · refine serves_of_peeks (peeks_handleListOrganizations _) (fun log hlog => ?_) hF
      rw [Described, hrt, hm]
      exact hlog
    · refine serves_handleCreateOrganization hF _ fun req log hreq hlog => ?_
      rw [Described, hrt, hm]
      exact ⟨req, hreq, hlog⟩
  | organization id =>
    refine lawful_requireAuth secretToken (lawful_requireWriteMode (lawful_of_serves
      (serves_withID hF _ _ (serves_byMethod hF fun k hk => ?_))))
    cases hm : r.method <;> rw [hm] at hk <;> cases hk
    · refine serves_handleUpdateOrganization hF _ id fun req old log hreq hold hlog => ?_
      rw [Described, hrt, hm]
      exact ⟨req, old, hreq, hold, hlog⟩
    · refine serves_handleDeleteOrganization hF _ id fun log hlog => ?_
      rw [Described, hrt, hm]
      exact hlog
  | deviceProfiles =>
    refine lawful_requireAuth secretToken (lawful_requireWriteMode (lawful_of_serves
      (serves_byMethod hF fun k hk => ?_)))
    cases hm : r.method <;> rw [hm] at hk <;> cases hk
    · refine serves_of_peeks (peeks_handleListDeviceProfiles _ _) (fun log hlog => ?_) hF
      rw [Described, hrt, hm]
      exact hlog
    · refine serves_handleCreateDeviceProfile hF _ enums fun req log hreq hlog => ?_
      rw [Described, hrt, hm]
      exact ⟨req, hreq, hlog⟩
  | deviceProfile id =>
    refine lawful_requireAuth secretToken (lawful_requireWriteMode (lawful_of_serves
      (serves_withID hF _ _ (serves_byMethod hF fun k hk => ?_))))
    cases hm : r.method <;> rw [hm] at hk <;> cases hk
    · refine serves_of_peeks (peeks_handleGetDeviceProfile _ id) (fun log hlog => ?_) hF
      rw [Described, hrt, hm]
      exact hlog
    · refine serves_handleUpdateDeviceProfile hF _ enums id fun req log hreq hlog => ?_
      rw [Described, hrt, hm]
      exact ⟨req, hreq, hlog⟩
    · refine serves_handleDeleteDeviceProfile hF _ id fun log hlog => ?_
      rw [Described, hrt, hm]
      exact hlog
  | applications =>
    refine lawful_requireAuth secretToken (lawful_requireWriteMode (lawful_of_serves
      (serves_byMethod hF fun k hk => ?_)))
    cases hm : r.method <;> rw [hm] at hk <;> cases hk
    · refine serves_of_peeks (peeks_handleListApplications _ _) (fun log hlog => ?_) hF
      rw [Described, hrt, hm]
      exact hlog
    · refine serves_handleCreateApplication hF _ fun req log hreq hlog => ?_
      rw [Described, hrt, hm]
      exact ⟨req, hreq, hlog⟩
  | application id =>
    refine lawful_requireAuth secretToken (lawful_requireWriteMode (lawful_of_serves
      (serves_withID hF _ _ (serves_byMethod hF fun k hk => ?_))))
    cases hm : r.method <;> rw [hm] at hk <;> cases hk
    · refine serves_handleUpdateApplication hF _ id fun req old log hreq hold hlog => ?_
      rw [Described, hrt, hm]
      exact ⟨req, old, hreq, hold, hlog⟩
    · refine serves_handleDeleteApplication hF _ id fun log hlog => ?_
      rw [Described, hrt, hm]
      exact hlog
  | gateways =>
    refine lawful_requireAuth secretToken (lawful_requireWriteMode (lawful_of_serves
      (serves_byMethod hF fun k hk => ?_)))
    cases hm : r.method <;> rw [hm] at hk <;> cases hk
    · refine serves_of_peeks (peeks_handleListGateways _ _) (fun log hlog => ?_) hF
      rw [Described, hrt, hm]
      exact hlog
    · refine serves_handleCreateGateway hF _ fun req log hreq hlog => ?_
      rw [Described, hrt, hm]
      exact ⟨req, hreq, hlog⟩
  | gateway id =>
    refine lawful_requireAuth secretToken (lawful_requireWriteMode (lawful_of_serves
      (serves_withID hF _ _ (serves_byMethod hF fun k hk => ?_))))
    cases hm : r.method <;> rw [hm] at hk <;> cases hk
    · refine serves_handleDeleteGateway hF _ id fun log hlog => ?_
      rw [Described, hrt, hm]
      exact hlog
  | devices =>
    refine lawful_requireAuth secretToken (lawful_requireWriteMode (lawful_of_serves
      (serves_byMethod hF fun k hk => ?_)))
    cases hm : r.method <;> rw [hm] at hk <;> cases hk
    · refine serves_of_peeks (peeks_handleListDevices _ _) (fun log hlog => ?_) hF
      rw [Described, hrt, hm]
      exact hlog
    · refine serves_handleCreateDevice hF _ (fun req appKey log hreq hkey hlog => ?_)
        fun req log hreq hfailed => Or.inr ⟨hrt, hm, req, hreq, hfailed⟩
      rw [Described, hrt, hm]
      exact ⟨req, appKey, hreq, hkey, hlog⟩
  | device path =>
    refine lawful_requireAuth secretToken (lawful_requireWriteMode ?_)
    split
    · exact lawful_refusal (Nat.le_of_ble_eq_true rfl)
    split
    · split
      · exact lawful_pure_none
      · exact lawful_refusal (Nat.le_of_ble_eq_true rfl)
    refine lawful_of_serves ?_
    cases hm : r.method with
    | get =>
      refine serves_of_peeks (peeks_getDevice path _) (fun log hlog => ?_) hF
      rw [Described, hrt, hm]
      exact hlog
    | put =>
      refine serves_handleDeviceByID_put hF path fun req log hreq hlog => ?_
      rw [Described, hrt, hm]
      exact ⟨req, hreq, hlog⟩
    | delete =>
      refine serves_handleDeviceByID_delete hF path fun log hlog => ?_
      rw [Described, hrt, hm]
      exact hlog
    | post | other =>
      exact serves_connected hF _ (serves_refusal hF (Nat.le_of_ble_eq_true rfl))

end

/-! ## The law of a run -/

/-- **What a request writes.**  Requests are served side by side and their calls answered in any way.
    One that has been answered with success has written what it describes, and nothing else; one that
    was refused has written nothing, but for a device created whose keys could not be: that one is
    deleted again, or left over when no key could be drawn or the deletion failed. -/
theorem request_applies (secretToken : String) (enums : Enums)
    (parseDuration : String → Except String Int)
    {labels : List (LedgerLabel (HTTPRequest × Status) Call Call.Answer)}
    {entries : List (Entry (HTTPRequest × Status) Call Call.Answer (Option Response))}
    (hrun : Transition.exec
      (ledgerStep fun t : HTTPRequest × Status =>
        serve secretToken enums parseDuration t.1 t.2) [] labels = some entries)
    {e : Entry (HTTPRequest × Status) Call Call.Answer (Option Response)} (he : e ∈ entries)
    (hroute : route e.task.1.path ≠ .bootstrap) {a : Response} (hdone : e.rest = .done (some a)) :
    (a.code < 400 → Described enums e.task.1 e.log) ∧
      (400 ≤ a.code → Refused e.task.1 e.log) := by
  have hprogram : ∀ t : HTTPRequest × Status,
      Meets (fun answer log => route t.1.path ≠ .bootstrap → Law enums t.1 answer log)
        (serve secretToken enums parseDuration t.1 t.2) [] := by
    intro t
    by_cases hboot : route t.1.path = .bootstrap
    · exact Meets.of_keeps (keeps_true _) fun _ _ _ h => absurd hboot h
    · exact Spec.mono (fun _ _ _ h _ => h)
        (lawful_serve secretToken enums parseDuration t.1 t.2 hboot [] rfl)
  exact ledger_done hprogram hrun he hdone hroute

/-- A ChirpStack that creates and deletes devices and takes no keys. -/
def keysRefused : (r : RPC) → r.Answer
  | .createDevice _ | .deleteDevice _ => none
  | r => r.unavailable

def creation : HTTPRequest :=
  ⟨.post, "/api/devices", some "secret", ⟨"", "", "", "", ""⟩,
    { Body.none with device := .ok ⟨"0000000000000001", "first", "app", "profile", "", false⟩ }⟩

/-- The creation is answered while a deletion runs beside it. -/
def twoRequests : List (LedgerLabel (HTTPRequest × Status) Call Call.Answer) :=
  [.start (creation, .idle), .start (deletion, .idle)] ++
    List.replicate 6 (.answer 0 (Call.answer keysRefused)) ++
    List.replicate 3 (.answer 1 (Call.answer keysRefused))

/-- The device is deleted again. -/
theorem request_applies_twoRequests :
    ∃ entries e, Transition.exec (ledgerStep fun t : HTTPRequest × Status =>
        serve "secret" ⟨fun _ => false, fun _ => false, fun _ => false⟩
          (fun _ => .error "time: invalid duration") t.1 t.2) [] twoRequests = some entries ∧
      entries[0]? = some e ∧
      applied e.log = [.createDevice ⟨"0000000000000001", "first", "", "app", "profile", false⟩,
        .deleteDevice "0000000000000001"] ∧
      ∃ a, e.rest = .done (some a) ∧
        ((a.code < 400 → Described ⟨fun _ => false, fun _ => false, fun _ => false⟩ e.task.1 e.log) ∧
          (400 ≤ a.code → Refused e.task.1 e.log)) :=
  ⟨_, _, rfl, rfl, rfl, _, rfl,
    @request_applies "secret" ⟨fun _ => false, fun _ => false, fun _ => false⟩
      (fun _ => .error "time: invalid duration") twoRequests _ rfl _ List.mem_cons_self
      (by decide) _ rfl⟩

end ChirpStackSimulator.Routes
