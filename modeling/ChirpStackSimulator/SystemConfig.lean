/-
  Reading and saving the system configuration (`internal/api/config.go`).

  `handleSaveSystemConfig` writes five fields of the global `config.C`, tries both connections with
  the new values and saves the file.  It backs the five fields up by hand and each failure branch
  restores its own subset by hand:

  * `as.Setup` fails  — four fields are restored, the gateway MQTT server is forgotten;
  * `ns.Setup` fails  — all five are restored;
  * TOML encoding or writing the file fails — nothing is restored.

  1. The handler is modelled with everything it reads from outside as one `Env`: the decoded body,
     the outcome of the two set-ups (a function of the configuration they are tried with), which
     configuration files exist, the encoder and the file system.
  2. `handleSaveSystemConfig_cases` says once what the handler can do; every result below reads
     its answer off that list.
  3. `handleSaveSystemConfig_atomic_iff` is the exact condition under which an error answer leaves
     the five fields as they were.
-/
import Mathlib.Tactic.Common
import ChirpStackSimulator.Config
import ChirpStackSimulator.Http

namespace ChirpStackSimulator.SystemConfig

/-! ## Requests and outcomes -/

/-- The shape of the get and save requests: the five fields the settings page edits. -/
structure SystemConfigRequest where
  apiKey : String
  apiServer : String
  apiInsecure : Bool
  integrationMQTTServer : String
  gatewayMQTTServer : String
  deriving DecidableEq

/-- What one request finds outside the handler. -/
structure Env where
  /-- The JSON body, decoded. -/
  body : Except String SystemConfigRequest
  /-- `as.Setup`: gRPC and integration MQTT, dialled with the given configuration. -/
  asSetup : Config → Except String Unit
  /-- `ns.Setup`: the gateway MQTT broker. -/
  nsSetup : Config → Except String Unit
  /-- `os.Stat`. -/
  fileExists : String → Bool
  /-- `toml.Marshal`. -/
  marshal : Config → Except String (List UInt8)
  /-- `os.WriteFile`. -/
  writeFile : String → List UInt8 → Except String Unit

/-- A call the handler makes to the outside, in the order it makes them. -/
inductive Call where
  | asSetup (c : Config)
  | nsSetup (c : Config)
  | writeFile (path : String) (data : List UInt8)
  deriving DecidableEq

/-- What one request leaves behind: the answer, `config.C` and the calls it made. -/
structure Outcome where
  response : Response
  config : Config
  calls : List Call
  deriving DecidableEq

/-! ## The fields of `config.C` the handler assigns -/

/-- The five setters, one field each. -/
def setAPIKey (c : Config) (v : String) : Config :=
  { c with chirpStack := { c.chirpStack with api := { c.chirpStack.api with apiKey := v } } }

def setAPIServer (c : Config) (v : String) : Config :=
  { c with chirpStack := { c.chirpStack with api := { c.chirpStack.api with server := v } } }

def setAPIInsecure (c : Config) (v : Bool) : Config :=
  { c with chirpStack := { c.chirpStack with api := { c.chirpStack.api with insecure := v } } }

def setIntegrationMQTTServer (c : Config) (v : String) : Config :=
  { c with chirpStack := { c.chirpStack with
      integration := ⟨{ c.chirpStack.integration.mqtt with server := v }⟩ } }

def setGatewayMQTTServer (c : Config) (v : String) : Config :=
  { c with chirpStack := { c.chirpStack with
      gateway := ⟨⟨{ c.chirpStack.gateway.backend.mqtt with server := v }⟩⟩ } }

/-- `handleGetSystemConfig`: the current value of the five fields. -/
def handleGetSystemConfig (c : Config) : SystemConfigRequest where
  apiKey := c.chirpStack.api.apiKey
  apiServer := c.chirpStack.api.server
  apiInsecure := c.chirpStack.api.insecure
  integrationMQTTServer := c.chirpStack.integration.mqtt.server
  gatewayMQTTServer := c.chirpStack.gateway.backend.mqtt.server

/-- The in-memory update of the handler: all five fields, from the request. -/
def applyRequest (c : Config) (req : SystemConfigRequest) : Config :=
  let c := setAPIKey c req.apiKey
  let c := setAPIServer c req.apiServer
  let c := setAPIInsecure c req.apiInsecure
  let c := setIntegrationMQTTServer c req.integrationMQTTServer
  setGatewayMQTTServer c req.gatewayMQTTServer

/-- The revert of the `as.Setup` branch: four fields, the gateway MQTT server is not among them. -/
def revertAS (c : Config) (old : SystemConfigRequest) : Config :=
  let c := setAPIKey c old.apiKey
  let c := setAPIServer c old.apiServer
  let c := setAPIInsecure c old.apiInsecure
  setIntegrationMQTTServer c old.integrationMQTTServer

/-- The revert of the `ns.Setup` branch: all five fields. -/
def revertNS (c : Config) (old : SystemConfigRequest) : Config :=
  let c := setAPIKey c old.apiKey
  let c := setAPIServer c old.apiServer
  let c := setAPIInsecure c old.apiInsecure
  let c := setIntegrationMQTTServer c old.integrationMQTTServer
  setGatewayMQTTServer c old.gatewayMQTTServer

@[simp] theorem get_applyRequest (c : Config) (req : SystemConfigRequest) :
    handleGetSystemConfig (applyRequest c req) = req := rfl

/-- After the `as.Setup` revert only the gateway MQTT server can still be the requested one. -/
@[simp] theorem get_revertAS (c : Config) (old : SystemConfigRequest) :
    handleGetSystemConfig (revertAS c old)
      = { old with gatewayMQTTServer := (handleGetSystemConfig c).gatewayMQTTServer } := rfl

@[simp] theorem get_revertNS (c : Config) (old : SystemConfigRequest) :
    handleGetSystemConfig (revertNS c old) = old := rfl

/-! ## The handler -/

/-- The file the configuration is saved to: the one it was loaded from, else the first of the two
    default names that exists, else `simulator.toml`. -/
def cfgPath (env : Env) (cfgFile : String) : String :=
  if cfgFile = "" then
    if env.fileExists "simulator.toml" then "simulator.toml"
    else if env.fileExists "chirpstack-simulator.toml" then "chirpstack-simulator.toml"
    else "simulator.toml"
  else cfgFile

/-- `handleSaveSystemConfig` on the global configuration `c`; `cfgFile` is `config.CfgFile`. -/
def handleSaveSystemConfig (env : Env) (cfgFile : String) (c : Config) : Outcome :=
  match env.body with
  | .error e => ⟨.badRequest ("geçersiz JSON: " ++ e), c, []⟩
  | .ok req =>
    let old := handleGetSystemConfig c
    let c₁ := applyRequest c req
    match env.asSetup c₁ with
    -- the old connection is set up again, and whether that works is not asked
    | .error e =>
      let c₂ := revertAS c₁ old
      ⟨.badRequest ("ChirpStack API bağlantısı başarısız oldu: " ++ e), c₂,
        [.asSetup c₁, .asSetup c₂]⟩
    | .ok _ =>
      match env.nsSetup c₁ with
      | .error e =>
        let c₂ := revertNS c₁ old
        ⟨.badRequest ("MQTT Gateway bağlantısı başarısız oldu: " ++ e), c₂,
          [.asSetup c₁, .nsSetup c₁, .asSetup c₂, .nsSetup c₂]⟩
      | .ok _ =>
        -- from here on nothing is reverted
        match env.marshal c₁ with
        | .error e =>
          ⟨.internalServerError ("Yapılandırma TOML dönüştürme hatası: " ++ e), c₁,
            [.asSetup c₁, .nsSetup c₁]⟩
        | .ok data =>
          let path := cfgPath env cfgFile
          match env.writeFile path data with
          | .error e =>
            ⟨.internalServerError ("Yapılandırma dosyası yazma hatası: " ++ e), c₁,
              [.asSetup c₁, .nsSetup c₁, .writeFile path data]⟩
          | .ok _ => ⟨.ok "ok", c₁, [.asSetup c₁, .nsSetup c₁, .writeFile path data]⟩

/-- Encoding and writing the configuration, the two steps after both connections are up. -/
def saveFails (env : Env) (cfgFile : String) (c : Config) : Prop :=
  match env.marshal c with
  | .error _ => True
  | .ok data => ∃ e, env.writeFile (cfgPath env cfgFile) data = .error e

/-- **What one save request can do**: reject the body, fail at `as.Setup`, fail at `ns.Setup`, fail
    while saving, or succeed. -/
theorem handleSaveSystemConfig_cases (env : Env) (cfgFile : String) (c : Config) :
    let r := handleSaveSystemConfig env cfgFile c
    (∃ e, env.body = .error e ∧ r.response.code = 400 ∧ r.config = c) ∨
    ∃ req, env.body = .ok req ∧
      ((∃ e, env.asSetup (applyRequest c req) = .error e ∧ r.response.code = 400 ∧
          r.config = revertAS (applyRequest c req) (handleGetSystemConfig c)) ∨
       (env.asSetup (applyRequest c req) = .ok () ∧
          ((∃ e, env.nsSetup (applyRequest c req) = .error e ∧ r.response.code = 400 ∧
              r.config = revertNS (applyRequest c req) (handleGetSystemConfig c)) ∨
           (env.nsSetup (applyRequest c req) = .ok () ∧ r.config = applyRequest c req ∧
              ((saveFails env cfgFile (applyRequest c req) ∧ r.response.code = 500) ∨
               (¬ saveFails env cfgFile (applyRequest c req) ∧ r.response.code = 200)))))) := by
  intro r
  cases hb : env.body with
  | error e => exact Or.inl ⟨e, rfl, by simp [r, handleSaveSystemConfig, hb]⟩
  | ok req =>
    refine Or.inr ⟨req, rfl, ?_⟩
    cases ha : env.asSetup (applyRequest c req) with
    | error e =>
      exact Or.inl ⟨e, rfl, by simp [r, handleSaveSystemConfig, hb, ha]⟩
    | ok _ =>
      refine Or.inr ⟨rfl, ?_⟩
      cases hn : env.nsSetup (applyRequest c req) with
      | error e =>
        exact Or.inl ⟨e, rfl, by
          simp [r, handleSaveSystemConfig, hb, ha, hn]⟩
      | ok _ =>
        refine Or.inr ⟨rfl, ?_⟩
        cases hm : env.marshal (applyRequest c req) with
        | error e =>
          refine ⟨by simp [r, handleSaveSystemConfig, hb, ha, hn, hm], Or.inl ⟨?_, ?_⟩⟩
          · simp [saveFails, hm]
          · simp [r, handleSaveSystemConfig, hb, ha, hn, hm]
        | ok data =>
          cases hw : env.writeFile (cfgPath env cfgFile) data with
          | error e =>
            refine ⟨by simp [r, handleSaveSystemConfig, hb, ha, hn, hm, hw], Or.inl ⟨?_, ?_⟩⟩
            · simp [saveFails, hm, hw]
            · simp [r, handleSaveSystemConfig, hb, ha, hn, hm, hw]
          | ok _ =>
            refine ⟨by simp [r, handleSaveSystemConfig, hb, ha, hn, hm, hw], Or.inr ⟨?_, ?_⟩⟩
            · simp [saveFails, hm, hw]
            · simp [r, handleSaveSystemConfig, hb, ha, hn, hm, hw]

/-! ## What a request leaves alone, and what a successful one achieves -/

/-- The part of the configuration no save request touches: everything but the five fields. -/
def others (c : Config) : Config :=
  applyRequest c ⟨"", "", false, "", ""⟩

@[simp] theorem others_applyRequest (c : Config) (req : SystemConfigRequest) :
    others (applyRequest c req) = others c := rfl

@[simp] theorem others_revertAS (c : Config) (old : SystemConfigRequest) :
    others (revertAS c old) = others c := rfl

@[simp] theorem others_revertNS (c : Config) (old : SystemConfigRequest) :
    others (revertNS c old) = others c := rfl

/-- Whatever the outcome, only the five fields can change. -/
theorem handleSaveSystemConfig_others (env : Env) (cfgFile : String) (c : Config) :
    others (handleSaveSystemConfig env cfgFile c).config = others c := by
  rcases handleSaveSystemConfig_cases env cfgFile c with
    ⟨_, _, _, hc⟩ | ⟨req, _, ⟨_, _, _, hc⟩ | ⟨_, ⟨_, _, _, hc⟩ | ⟨_, hc, _⟩⟩⟩
  all_goals simp [hc]

/-- A request answered `200` is the configuration from then on. -/
theorem handleSaveSystemConfig_saved (env : Env) (cfgFile : String) (c : Config)
    (h : (handleSaveSystemConfig env cfgFile c).response.code = 200) :
    ∃ req, env.body = .ok req ∧
      handleGetSystemConfig (handleSaveSystemConfig env cfgFile c).config = req := by
  rcases handleSaveSystemConfig_cases env cfgFile c with
    ⟨_, _, hs, _⟩ | ⟨req, hb, ⟨_, _, hs, _⟩ | ⟨_, ⟨_, _, hs, _⟩ | ⟨_, hc, _⟩⟩⟩
  · omega
  · omega
  · omega
  · exact ⟨req, hb, by rw [hc, get_applyRequest]⟩

/-! ## Atomicity -/

/-- The five fields of `config.C` have in `c'` the value they have in `c`. -/
def Restored (c c' : Config) : Prop :=
  c'.chirpStack.api.apiKey = c.chirpStack.api.apiKey ∧
  c'.chirpStack.api.server = c.chirpStack.api.server ∧
  c'.chirpStack.api.insecure = c.chirpStack.api.insecure ∧
  c'.chirpStack.integration.mqtt.server = c.chirpStack.integration.mqtt.server ∧
  c'.chirpStack.gateway.backend.mqtt.server = c.chirpStack.gateway.backend.mqtt.server

instance (c c' : Config) : Decidable (Restored c c') := by unfold Restored; infer_instance

/-- Restored is what a reader of the five fields cannot tell apart. -/
theorem restored_iff_get_eq {c c' : Config} :
    Restored c c' ↔ handleGetSystemConfig c' = handleGetSystemConfig c := by
  simp [Restored, handleGetSystemConfig]

@[simp] theorem restored_refl (c : Config) : Restored c c := restored_iff_get_eq.mpr rfl

/-- The `as.Setup` branch restores everything iff the request kept the gateway MQTT server. -/
@[simp] theorem restored_revertAS (c : Config) (req : SystemConfigRequest) :
    Restored c (revertAS (applyRequest c req) (handleGetSystemConfig c))
      ↔ req.gatewayMQTTServer = c.chirpStack.gateway.backend.mqtt.server := by
  rw [restored_iff_get_eq, get_revertAS, get_applyRequest]
  simp [handleGetSystemConfig]

@[simp] theorem restored_revertNS (c c₁ : Config) :
    Restored c (revertNS c₁ (handleGetSystemConfig c)) :=
  restored_iff_get_eq.mpr rfl

/-- Without a revert the old values are there iff the request asked for them. -/
@[simp] theorem restored_applyRequest (c : Config) (req : SystemConfigRequest) :
    Restored c (applyRequest c req) ↔ req = handleGetSystemConfig c := by
  rw [restored_iff_get_eq, get_applyRequest]

/-- An answer with an error status leaves the five fields of `config.C` as they were. -/
def Atomic (env : Env) (cfgFile : String) (c : Config) : Prop :=
  400 ≤ (handleSaveSystemConfig env cfgFile c).response.code →
    Restored c (handleSaveSystemConfig env cfgFile c).config

instance (env : Env) (cfgFile : String) (c : Config) : Decidable (Atomic env cfgFile c) := by
  unfold Atomic; infer_instance

/-- The inputs on which no branch forgets a field: a failing `as.Setup` needs a request that keeps
    the gateway MQTT server, a failing save one that keeps all five fields. -/
def KeepsForgotten (env : Env) (cfgFile : String) (c : Config) : Prop :=
  ∀ req, env.body = .ok req →
    (∀ e, env.asSetup (applyRequest c req) = .error e →
      req.gatewayMQTTServer = c.chirpStack.gateway.backend.mqtt.server) ∧
    (env.asSetup (applyRequest c req) = .ok () → env.nsSetup (applyRequest c req) = .ok () →
      saveFails env cfgFile (applyRequest c req) → req = handleGetSystemConfig c)

/-- **The save is atomic exactly when the failing step is one whose forgotten fields the request
    does not change**: every body, every previous configuration, every outcome of the set-ups, the
    encoder and the file system. -/
theorem handleSaveSystemConfig_atomic_iff (env : Env) (cfgFile : String) (c : Config) :
    Atomic env cfgFile c ↔ KeepsForgotten env cfgFile c := by
  unfold Atomic KeepsForgotten
  rcases handleSaveSystemConfig_cases env cfgFile c with
    ⟨e, hb, hs, hc⟩ | ⟨req, hb, ⟨e, ha, hs, hc⟩ | ⟨ha, ⟨e, hn, hs, hc⟩ | ⟨hn, hc, hsave⟩⟩⟩
  · -- the body was rejected before anything was assigned
    simp [hb, hc]
  · -- `as.Setup` failed: only the gateway MQTT server can be left over
    simp [hb, ha, hs, hc]
  · -- `ns.Setup` failed: all five fields were restored
    simp [hb, ha, hn, hc]
  · -- both connections are up and nothing is restored any more
    rcases hsave with ⟨hf, hs⟩ | ⟨hf, hs⟩
    · simp [hb, ha, hn, hs, hc, hf]
    · simp [hb, ha, hn, hs, hf]

/-! ## A save that fails at `as.Setup` -/

/-- A configuration with all connections on `localhost`. -/
def localConfig : Config where
  general := ⟨4⟩
  chirpStack :=
    { api := ⟨"key", "localhost:8080", true⟩
      integration := ⟨⟨"tcp://localhost:1883", "", ""⟩⟩
      gateway := ⟨⟨⟨"tcp://localhost:1883", "", ""⟩⟩⟩ }
  simulator := []
  prometheus := ⟨""⟩
  http := ⟨"0.0.0.0:9000", "admin", "admin", ""⟩
  smtp := ⟨false, "", 587, "", "", "none", "", ""⟩

/-- A request that moves every connection to a host where no ChirpStack answers. -/
def unreachable : Env where
  body := .ok ⟨"key2", "10.0.0.9:8080", false, "tcp://10.0.0.9:1883", "tcp://10.0.0.9:1884"⟩
  asSetup _ := .error "grpc dial error: context deadline exceeded"
  nsSetup _ := .ok ()
  fileExists _ := true
  marshal _ := .ok []
  writeFile _ _ := .ok ()

/-- The failed request is answered `400`, but the gateway MQTT server stays the requested one. -/
theorem handleSaveSystemConfig_not_atomic : ¬ Atomic unreachable "simulator.toml" localConfig := by
  decide

end ChirpStackSimulator.SystemConfig
