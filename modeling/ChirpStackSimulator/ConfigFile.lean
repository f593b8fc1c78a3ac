/-
  The configuration file that the program prints, read by the program
  (`cmd/chirpstack-simulator/cmd/configfile.go`, `root.go`).

  `configfile` fills a template with `config.C`; `initConfig` reads such a file with viper and decodes
  it into `config.C` by the tags of the structs.  The template writes a string between quotes as it
  is, and in the section that it repeats for every simulator entry it asks for `ServiceProfileID`, a
  field that `SimulatorConfig` does not have: there text/template stops, with what it has written so
  far already printed.

  Reading the printed text therefore gives the configuration back exactly when there is no simulator
  entry and every printed string is plain (`readsBack_iff`).

  1. The lines around the repeated section are well-formed, whatever the configuration is, and spell
     out one row for every field (`rows_eq`).
  2. The configuration that `initConfig` arrives at is the one whose rows viper answers with
     (`initConfig_eq_some`).
  3. If all strings are plain, viper answers with the rows.  If not, it may answer with another string
     for one of them (`parseFrom_ne`).
  4. With an entry, the text ends inside a string (`parse_stub`).

  Of TOML, viper and mapstructure is taken what their documentation says.  viper's keys have no case,
  and which of two spellings of one key wins is not documented; so the text reads back only if it does
  with every answer that viper may give (`Settings`).
-/
import ChirpStackSimulator.Config
import ChirpStackSimulator.Lib.Toml
import Mathlib.Data.List.Nodup

namespace ChirpStackSimulator.ConfigFile

open Toml

/-! ## The template -/

/-- The header of a section. -/
def table (indent name : String) : Line := .table indent.toList name.toList

/-- Comments, one below the other. -/
def notes (indent : String) (texts : List String) : List Line :=
  texts.map fun text => .comment indent.toList text.toList

/-- A text between quotes. -/
def string (indent key value : String) : Line := .pair indent.toList key.toList (.string value.toList)

def integer (indent key : String) (value : Int) : Line :=
  .pair indent.toList key.toList (.integer value)

def boolean (indent key : String) (value : Bool) : Line :=
  .pair indent.toList key.toList (.boolean value)

/-- The sections of the template, in its order. -/
def generalLines (c : GeneralConfig) : List Line :=
  [table "" "general"] ++
  notes "  " [" Log level", "", " debug=5, info=4, warning=3, error=2, fatal=1, panic=0"] ++
  [integer "  " "log_level" c.logLevel, .blank, .blank]

/-- Both brokers have the same lines. -/
def mqttLines (c : MQTTConfig) : List Line :=
  [.blank] ++
  notes "    " [" MQTT server."] ++
  [string "    " "server" c.server, .blank] ++
  notes "    " [" Username."] ++
  [string "    " "username" c.username, .blank] ++
  notes "    " [" Password."] ++
  [string "    " "password" c.password, .blank, .blank]

def apiLines (c : APIConfig) : List Line :=
  notes "  " [
    " API configuration.",
    "",
    " This configuration is used to automatically create the:",
    "   * Device profile",
    "   * Gateways",
    "   * Application",
    "   * Devices"] ++
  [table "  " "chirpstack.api", .blank] ++
  notes "    " [
    " API key.",
    "",
    " The API key can be obtained through the ChirpStack web-interface."] ++
  [string "    " "api_key" c.apiKey, .blank] ++
  notes "    " [" Server.", "", " This must point to the ChirpStack API interface."] ++
  [string "    " "server" c.server, .blank] ++
  notes "    " [" Insecure.", "", " Set this to true when the endpoint is not using TLS."] ++
  [boolean "    " "insecure" c.insecure, .blank, .blank]

/-- The two brokers have sections of one shape. -/
def chirpStackLines (c : ChirpStackConfig) : List Line :=
  notes "" [" ChirpStack configuration."] ++
  [table "" "chirpstack", .blank] ++
  apiLines c.api ++
  notes "    " [
    " MQTT integration configuration.",
    "",
    " This integration is used for counting the number of uplinks that are",
    " published by the ChirpStack MQTT integration."] ++
  [table "    " "chirpstack.integration.mqtt"] ++
  mqttLines c.integration.mqtt ++
  notes "  " [" MQTT gateway backend."] ++
  [table "  " "chirpstack.gateway.backend.mqtt"] ++
  mqttLines c.gateway.backend.mqtt

/-- The example of a simulator entry, commented out. -/
def exampleLines : List Line :=
  notes "" [
    " Simulator configuration.", "", " Example:", " [[simulator]]", "", " # Tenant ID.", " #",
    " # It is recommended to create a new tenant in ChirpStack.",
    " tenant_id=\"1f32476e-a112-4f00-bcc7-4aab4bfefa1d\"", "", " # Duration.", " #",
    " # This defines the duration of the simulation. If set to '0s', the simulation",
    " # will run until terminated. This includes the activation time.", " duration=\"5m\"", "",
    " # Activation time.", " #",
    " # This is the time that the simulator takes to activate the devices. This",
    " # value must be less than the simulator duration.", " activation_time=\"1m\"", "",
    "   # Device configuration.", "   [simulator.device]", "",
    "   # Number of devices to simulate.", "   count=1000", "", "   # Uplink interval.",
    "   uplink_interval=\"5m\"", "", "   # FPort.", "   f_port=10", "",
    "   # Payload (HEX encoded).", "   payload=\"010203\"", "", "   # Frequency (Hz).",
    "   frequency=868100000", "", "   # Bandwidth (Hz).", "   bandwidth=125000", "",
    "   # Spreading-factor.", "   spreading_factor=7", "", "   # Gateway configuration.",
    "   [simulator.gateway]", "", "   # Event topic template.",
    "   event_topic_template=\"eu868/gateway/\x7b\x7b .GatewayID \x7d\x7d/event/\x7b\x7b .Event \x7d\x7d\"",
    "", "   # Command topic template.",
    "   command_topic_template=\"eu868/gateway/\x7b\x7b .GatewayID \x7d\x7d/command/\x7b\x7b .Command \x7d\x7d\"",
    "", "   # Min number of receiving gateways.", "   min_count=3", "",
    "   # Max number of receiving gateways.", "   max_count=5"]

def prometheusLines (c : PrometheusConfig) : List Line :=
  [.blank, .blank] ++
  notes "" [
    " Prometheus metrics configuration.",
    "",
    " Using Prometheus (and Grafana), it is possible to visualize various",
    " simulation metrics like:",
    "   * Join-Requests sent",
    "   * Join-Accepts received",
    "   * Uplinks sent (by the devices)",
    "   * Uplinks sent (by the gateways)",
    "   * Uplinks sent (by the ChirpStack Application Server MQTT integration)"] ++
  [table "" "prometheus", .blank] ++
  notes "" [
    " IP:port to bind the Prometheus endpoint to.",
    "",
    " Metrics can be retrieved from /metrics."] ++
  [string "" "bind" c.bind, .blank, .blank]

def httpLines (c : HTTPConfig) : List Line :=
  notes "" [
    " HTTP API configuration.",
    "",
    " This enables the HTTP API for remote simulation control.",
    " Endpoints: /api/health, /api/status, /api/start, /api/stop"] ++
  [table "" "http", .blank] ++
  notes "" [" IP:port to bind the HTTP API server to."] ++
  [string "" "bind" c.bind, .blank] ++
  notes "" [" Web UI Admin Credentials."] ++
  [string "" "username" c.username,
   string "" "password" c.password,
   string "" "jwt_secret" c.jwtSecret,
   .blank,
   .blank]

def smtpLines (c : SMTPConfig) : List Line :=
  notes "" [" SMTP Daily Email Reporting configuration."] ++
  [table "" "smtp", .blank] ++
  notes "" [" Enable daily email reports."] ++
  [boolean "" "enabled" c.enabled, .blank] ++
  notes "" [" SMTP host (e.g., \"smtp.gmail.com\")."] ++
  [string "" "host" c.host, .blank] ++
  notes "" [" SMTP port (e.g., 587 for TLS, 465 for SSL, 25 for unencrypted)."] ++
  [integer "" "port" c.port, .blank] ++
  notes "" [" SMTP credentials."] ++
  [string "" "username" c.username, string "" "password" c.password, .blank] ++
  notes "" [" Encryption type (\"none\", \"ssl\", \"tls\")."] ++
  [string "" "encryption" c.encryption, .blank] ++
  notes "" [" Sender email address."] ++
  [string "" "from_email" c.fromEmail, .blank] ++
  notes "" [" Target report email address."] ++
  [string "" "report_email" c.reportEmail]

/-- What stands before the repeated section. -/
def headLines (c : Config) : List Line :=
  generalLines c.general ++ chirpStackLines c.chirpStack ++ exampleLines

/-- What stands behind it. -/
def tailLines (c : Config) : List Line :=
  prometheusLines c.prometheus ++ httpLines c.http ++ smtpLines c.smtp

/-! ### The repeated section -/

/-- A template: text, and fields whose values are put in its place. -/
inductive Piece where
  | text (t : String)
  | field (name : String)

/-- The body of `range $index, $element := .Simulator`. -/
def simulatorBody : List Piece :=
  [.text "\n[[simulator]]\nservice_profile_id=\"", .field "ServiceProfileID",
   .text "\"\nduration=\"", .field "Duration",
   .text "\"\nactivation_time=\"", .field "ActivationTime",
   .text "\"\n\n  [simulator.device]\n  count=", .field "Device.Count",
   .text "\n  uplink_interval=\"", .field "Device.UplinkInterval",
   .text "\"\n  f_port=\"", .field "Device.FPort",
   .text "\"\n  payload=\"", .field "Device.Payload",
   .text "\"\n  frequency=", .field "Device.Frequency",
   .text "\n  bandwidth=", .field "Device.Bandwidth",
   .text "\n  spreading_factor=", .field "Device.SpreadingFactor",
   .text "\n\n  [simulator.gateway]\n  min_count=", .field "Gateway.MinCount",
   .text "\n  max_count=", .field "Gateway.MaxCount",
   .text "\n  event_topic_template=\"", .field "Gateway.EventTopicTemplate",
   .text "\"\n  command_topic_template=\"", .field "Gateway.CommandTopicTemplate",
   .text "\"\n"]

/-- The fields of a `SimulatorConfig` that the body can ask for, printed; `duration` prints a
    `time.Duration`. -/
def element (duration : Int → String) (c : SimulatorConfig) : String → Option String
  | "TenantID" => some c.tenantID
  | "Duration" => some (duration c.duration)
  | "ActivationTime" => some (duration c.activationTime)
  | "Device.Count" => some (toString c.device.count)
  | "Device.UplinkInterval" => some (duration c.device.uplinkInterval)
  | "Device.FPort" => some (toString c.device.fPort)
  | "Device.Payload" => some c.device.payload
  | "Device.Frequency" => some (toString c.device.frequency)
  | "Device.Bandwidth" => some (toString c.device.bandwidth)
  | "Device.SpreadingFactor" => some (toString c.device.spreadingFactor)
  | "Gateway.MinCount" => some (toString c.gateway.minCount)
  | "Gateway.MaxCount" => some (toString c.gateway.maxCount)
  | "Gateway.EventTopicTemplate" => some c.gateway.eventTopicTemplate
  | "Gateway.CommandTopicTemplate" => some c.gateway.commandTopicTemplate
  | _ => none

/-- text/template writes as it goes, and stops at a field that there is not: what has been written,
    and whether the end was reached. -/
def execute (field : String → Option String) : List Piece → List Char × Bool
  | [] => ([], true)
  | .text t :: pieces =>
    let (out, ok) := execute field pieces
    (t.toList ++ out, ok)
  | .field name :: pieces =>
    match field name with
    | none => ([], false)
    | some value =>
      let (out, ok) := execute field pieces
      (value.toList ++ out, ok)

/-- `range` over the simulator entries. -/
def executeRange (duration : Int → String) : List SimulatorConfig → List Char × Bool
  | [] => ([], true)
  | c :: cs =>
    match execute (element duration c) simulatorBody with
    | (out, false) => (out, false)
    | (out, true) =>
      let (rest, ok) := executeRange duration cs
      (out ++ rest, ok)

/-- The command: what it prints, and whether it ends without an error. -/
def configfile (duration : Int → String) (c : Config) : List Char × Bool :=
  match executeRange duration c.simulator with
  | (out, false) => (render (headLines c) ++ out, false)
  | (out, true) => (render (headLines c) ++ out ++ render (tailLines c), true)

/-! ## Reading -/

/-- A part of a path, as viper writes it. -/
def segment : Seg → List Char
  | .key name => name
  | .index i => (toString i).toList

/-- A key of viper: the keys of a path in lower case, joined by dots. -/
def viperKey (path : Path) : String :=
  String.ofList ((['.'].intercalate (path.map segment)).map Char.toLower)

/-- What viper may answer after it has read `doc`: a value that stands under a spelling of the key,
    and the number of simulator entries. -/
structure Settings (doc : Doc) where
  get : String → Option Value
  simulators : Nat
  found : ∀ {key v}, get key = some v → ∃ path, (path, v) ∈ doc.values ∧ viperKey path = key
  missing : ∀ {key}, get key = none → ∀ e ∈ doc.values, viperKey e.1 ≠ key
  counted : (∃ path, (path, simulators) ∈ doc.elements ∧ viperKey path = "simulator") ∨
    simulators = 0 ∧ ∀ e ∈ doc.elements, viperKey e.1 ≠ "simulator"

/-- mapstructure, as viper sets it up: what it makes of a value where a field of some type is to be
    filled. -/
structure Decoder where
  string : Value → Option String
  integer : Value → Option Int
  boolean : Value → Option Bool
  byte : Value → Option UInt8
  float : Value → Option ℚ
  duration : Value → Option Int
  string_string : ∀ s, string (.string s) = some (String.ofList s)
  integer_integer : ∀ i, integer (.integer i) = some i
  boolean_boolean : ∀ b, boolean (.boolean b) = some b

/-- `viper.SetDefault`, and the default of the flag that is bound to `general.log_level`. -/
def defaults : String → Option Value
  | "general.log_level" => some (.integer 4)
  | "chirpstack.api.server" => some (.string "127.0.0.1:8080".toList)
  | "chirpstack.integration.mqtt.server" => some (.string "tcp://127.0.0.1:1883".toList)
  | "chirpstack.gateway.backend.mqtt.server" => some (.string "tcp://127.0.0.1:1883".toList)
  | "prometheus.bind" => some (.string "0.0.0.0:9001".toList)
  | "http.bind" => some (.string "0.0.0.0:9002".toList)
  | "http.username" => some (.string "admin@falt.com".toList)
  | "http.password" => some (.string "admin123".toList)
  | "http.jwt_secret" => some (.string "sim-secure-session-token-xyz".toList)
  | _ => none

section
variable (d : Decoder) {doc : Doc} (s : Settings doc)

/-- A field with the tag `key`: its zero value, if viper has no value for it. -/
def field {α : Type} (decode : Value → Option α) (zero : α) (key : String) : Option α :=
  match (s.get key).or (defaults key) with
  | none => some zero
  | some value => decode value

/-- The structs that viper fills, from the inner ones to the outer. -/
def loadMQTT (key : String) : Option MQTTConfig := do
  let server ← field s d.string "" (key ++ ".server")
  let username ← field s d.string "" (key ++ ".username")
  let password ← field s d.string "" (key ++ ".password")
  return { server, username, password }

def loadChirpStack : Option ChirpStackConfig := do
  let apiKey ← field s d.string "" "chirpstack.api.api_key"
  let server ← field s d.string "" "chirpstack.api.server"
  let insecure ← field s d.boolean false "chirpstack.api.insecure"
  let integration ← loadMQTT d s "chirpstack.integration.mqtt"
  let backend ← loadMQTT d s "chirpstack.gateway.backend.mqtt"
  return {
    api := { apiKey, server, insecure }
    integration := { mqtt := integration }
    gateway := { backend := { mqtt := backend } } }

/-- The map under `key`: the rest of each key below it, with its value. -/
def loadIntervals (key : String) : Option (List (String × Int)) :=
  let keys := (doc.values.map fun e => viperKey e.1).filter fun k => key.toList.isPrefixOf k.toList
  keys.mapM fun k => do
    let interval ← field s d.duration 0 k
    return (String.ofList (k.toList.drop key.length), interval)

/-- The `i`-th simulator entry. -/
def loadSimulator (i : Nat) : Option SimulatorConfig := do
  let key := "simulator." ++ toString i
  let tenantID ← field s d.string "" (key ++ ".tenant_id")
  let duration ← field s d.duration 0 (key ++ ".duration")
  let activationTime ← field s d.duration 0 (key ++ ".activation_time")
  let appName ← field s d.string "" (key ++ ".app_name")
  let deviceNamePrefix ← field s d.string "" (key ++ ".device_name_prefix")
  let payloadScript ← field s d.string "" (key ++ ".payload_script")
  let packetLoss ← field s d.float 0 (key ++ ".packet_loss")
  let simulatePacketLoss ← field s d.boolean false (key ++ ".simulate_packet_loss")
  let latencyMs ← field s d.integer 0 (key ++ ".latency_ms")
  let anomalyProbability ← field s d.float 0 (key ++ ".anomaly_probability")
  let anomalyTypes ← field s d.string "" (key ++ ".anomaly_types")
  let anomalyDuration ← field s d.integer 0 (key ++ ".anomaly_duration")
  let passiveMode ← field s d.boolean false (key ++ ".passive_mode")
  let syncIntervalMinutes ← field s d.integer 0 (key ++ ".sync_interval_minutes")
  let count ← field s d.integer 0 (key ++ ".device.count")
  let uplinkInterval ← field s d.duration 0 (key ++ ".device.uplink_interval")
  let fPort ← field s d.byte 0 (key ++ ".device.f_port")
  let payload ← field s d.string "" (key ++ ".device.payload")
  let frequency ← field s d.integer 0 (key ++ ".device.frequency")
  let bandwidth ← field s d.integer 0 (key ++ ".device.bandwidth")
  let spreadingFactor ← field s d.integer 0 (key ++ ".device.spreading_factor")
  let minCount ← field s d.integer 0 (key ++ ".gateway.min_count")
  let maxCount ← field s d.integer 0 (key ++ ".gateway.max_count")
  let eventTopicTemplate ← field s d.string "" (key ++ ".gateway.event_topic_template")
  let commandTopicTemplate ← field s d.string "" (key ++ ".gateway.command_topic_template")
  let deviceIntervals ← loadIntervals d s (key ++ ".device_intervals.")
  return {
    tenantID, duration, activationTime, appName, deviceNamePrefix, payloadScript, packetLoss
    simulatePacketLoss, latencyMs, anomalyProbability, anomalyTypes, anomalyDuration, passiveMode
    syncIntervalMinutes
    device := { count, uplinkInterval, fPort, payload, frequency, bandwidth, spreadingFactor }
    gateway := { minCount, maxCount, eventTopicTemplate, commandTopicTemplate }
    deviceIntervals }

def loadHTTP : Option HTTPConfig := do
  let bind ← field s d.string "" "http.bind"
  let username ← field s d.string "" "http.username"
  let password ← field s d.string "" "http.password"
  let jwtSecret ← field s d.string "" "http.jwt_secret"
  return { bind, username, password, jwtSecret }

def loadSMTP : Option SMTPConfig := do
  let enabled ← field s d.boolean false "smtp.enabled"
  let host ← field s d.string "" "smtp.host"
  let port ← field s d.integer 0 "smtp.port"
  let username ← field s d.string "" "smtp.username"
  let password ← field s d.string "" "smtp.password"
  let encryption ← field s d.string "" "smtp.encryption"
  let fromEmail ← field s d.string "" "smtp.from_email"
  let reportEmail ← field s d.string "" "smtp.report_email"
  return { enabled, host, port, username, password, encryption, fromEmail, reportEmail }

/-- `viper.Unmarshal` of `initConfig`: `config.C`, if every value can be decoded. -/
def initConfig : Option Config := do
  let logLevel ← field s d.integer 0 "general.log_level"
  let chirpStack ← loadChirpStack d s
  let simulator ← (List.range s.simulators).mapM (loadSimulator d s)
  let bind ← field s d.string "" "prometheus.bind"
  let http ← loadHTTP d s
  let smtp ← loadSMTP d s
  return { general := { logLevel }, chirpStack, simulator, prometheus := { bind }, http, smtp }

end

/-- The printed text is TOML, and whatever viper may answer, `initConfig` arrives at the
    configuration that was printed. -/
def ReadsBack (g : Grammar) (d : Decoder) (duration : Int → String) (c : Config) : Prop :=
  ∃ doc, parse g (configfile duration c).1 = some doc ∧
    ∀ s : Settings doc, initConfig d s = some c

/-! ## The rows of a configuration -/

/-- What a document has to say for a configuration without simulator entries. -/
def rows (c : Config) : List (String × Value) :=
  [("general.log_level", .integer c.general.logLevel),
   ("chirpstack.api.api_key", .string c.chirpStack.api.apiKey.toList),
   ("chirpstack.api.server", .string c.chirpStack.api.server.toList),
   ("chirpstack.api.insecure", .boolean c.chirpStack.api.insecure),
   ("chirpstack.integration.mqtt.server", .string c.chirpStack.integration.mqtt.server.toList),
   ("chirpstack.integration.mqtt.username", .string c.chirpStack.integration.mqtt.username.toList),
   ("chirpstack.integration.mqtt.password", .string c.chirpStack.integration.mqtt.password.toList),
   ("chirpstack.gateway.backend.mqtt.server",
    .string c.chirpStack.gateway.backend.mqtt.server.toList),
   ("chirpstack.gateway.backend.mqtt.username",
    .string c.chirpStack.gateway.backend.mqtt.username.toList),
   ("chirpstack.gateway.backend.mqtt.password",
    .string c.chirpStack.gateway.backend.mqtt.password.toList),
   ("prometheus.bind", .string c.prometheus.bind.toList),
   ("http.bind", .string c.http.bind.toList),
   ("http.username", .string c.http.username.toList),
   ("http.password", .string c.http.password.toList),
   ("http.jwt_secret", .string c.http.jwtSecret.toList),
   ("smtp.enabled", .boolean c.smtp.enabled),
   ("smtp.host", .string c.smtp.host.toList),
   ("smtp.port", .integer c.smtp.port),
   ("smtp.username", .string c.smtp.username.toList),
   ("smtp.password", .string c.smtp.password.toList),
   ("smtp.encryption", .string c.smtp.encryption.toList),
   ("smtp.from_email", .string c.smtp.fromEmail.toList),
   ("smtp.report_email", .string c.smtp.reportEmail.toList)]

/-! ### Comments -/

/-- Texts, character by character. -/
inductive Spelled : List String → List (List Char) → Prop
  | nil : Spelled [] []
  | cons {text texts chars} : Spelled texts chars →
      Spelled (String.ofList text :: texts) (text :: chars)

/-- The texts, from the characters they are spelled with. -/
theorem map_toList_of_spelled {texts : List String} {chars : List (List Char)}
    (h : Spelled texts chars) : texts.map String.toList = chars := by
  induction h with
  | nil => rfl
  | cons _ ih => rw [List.map_cons, ih, String.toList_ofList]

/-- Comments of printable characters are well-formed. -/
theorem wellFormed_notes {indent : List Char} {texts : List String} {chars : List (List Char)}
    (h : Spelled texts chars)
    (hall : (chars.all fun text => (Line.comment indent text).wellFormed) = true) :
    (notes (String.ofList indent) texts).all Line.wellFormed = true := by
  rw [← map_toList_of_spelled h, List.all_map] at hall
  rwa [notes, List.all_map, String.toList_ofList]

/-- What the lines of a section set can be read off them; a comment sets nothing. -/
theorem entries_notes (path : Path) (indent : String) (texts : List String) (lines : List Line) :
    entries path (notes indent texts ++ lines) = entries path lines := by
  induction texts with
  | nil => rfl
  | cons text texts ih => exact ih

theorem erase_notes (indent : String) (texts : List String) :
    (notes indent texts).map Line.erase = notes indent texts := by
  rw [notes, List.map_map]
  rfl

/-! ### Other lines -/

theorem entries_blank (path : Path) (lines : List Line) :
    entries path (.blank :: lines) = entries path lines := (rfl)

/-- A header changes the section that is set. -/
theorem entries_table (path : Path) (indent name : String) (lines : List Line) :
    entries path (table indent name :: lines) =
      entries (((bareKeys name.toList).getD []).map .key) lines := (rfl)

/-- A pair sets its key in the section. -/
theorem entries_string (path : Path) (indent key value : String) (lines : List Line) :
    entries path (string indent key value :: lines) =
      (path ++ [.key key.toList], .string value.toList) :: entries path lines := (rfl)

theorem entries_integer (path : Path) (indent key : String) (value : Int) (lines : List Line) :
    entries path (integer indent key value :: lines) =
      (path ++ [.key key.toList], .integer value) :: entries path lines := (rfl)

theorem entries_boolean (path : Path) (indent key : String) (value : Bool) (lines : List Line) :
    entries path (boolean indent key value :: lines) =
      (path ++ [.key key.toList], .boolean value) :: entries path lines := (rfl)

theorem entries_nil (path : Path) : entries path [] = [] := (rfl)

/-- Where the values are blanked out, only the keys are left. -/
theorem erase_string (indent key value : String) :
    (string indent key value).erase = string indent key "" := (rfl)

theorem erase_integer (indent key : String) (value : Int) :
    (integer indent key value).erase = integer indent key 0 := (rfl)

theorem erase_boolean (indent key : String) (value : Bool) :
    (boolean indent key value).erase = boolean indent key false := (rfl)

/-! ### All lines -/

set_option maxRecDepth 2000 in
theorem wellFormed_example : exampleLines.all Line.wellFormed = true :=
  wellFormed_notes (by repeat constructor) (by decide +kernel)

/-- **Every line is well-formed**, whatever the values: the keys and comments are fixed. -/
theorem wellFormed_lines (c : Config) :
    (headLines c ++ tailLines c).all Line.wellFormed = true := by
  simp only [headLines, generalLines, chirpStackLines, apiLines, mqttLines, tailLines,
    prometheusLines, httpLines, smtpLines, wellFormed_example, List.all_append, Bool.and_eq_true,
    and_true]
  and_intros
  all_goals first
    | exact wellFormed_notes (by repeat constructor) (by decide +kernel)
    | rfl

/-- Some configuration. -/
def zero : Config where
  general := ⟨0⟩
  chirpStack := ⟨⟨"", "", false⟩, ⟨⟨"", "", ""⟩⟩, ⟨⟨⟨"", "", ""⟩⟩⟩⟩
  simulator := []
  prometheus := ⟨""⟩
  http := ⟨"", "", "", ""⟩
  smtp := ⟨false, "", 0, "", "", "", "", ""⟩

/-- The lines have the same keys whatever the configuration is. -/
theorem lines_erase (c : Config) :
    (headLines c ++ tailLines c).map Line.erase =
      (headLines zero ++ tailLines zero).map Line.erase := by
  simp only [headLines, generalLines, chirpStackLines, apiLines, mqttLines, tailLines, exampleLines,
    prometheusLines, httpLines, smtpLines, List.map_append, List.map_cons, List.map_nil, erase_notes,
    erase_string, erase_integer, erase_boolean]

/-- No key is set twice, so the parser takes every line. -/
theorem applyAll_lines (c : Config) :
    (applyAll Doc.empty (headLines c ++ tailLines c)).isSome = true := by
  rw [isSome_applyAll_of_erase (lines_erase c)]
  decide +kernel

/-- The keys of the lines are those of the fields, in order. -/
theorem keys_eq (c : Config) :
    (entries [] (headLines c ++ tailLines c)).map (fun e => viperKey e.1) =
      (rows c).map Prod.fst := by
  have hzero : ((entries [] (headLines zero ++ tailLines zero)).map Prod.fst).map viperKey =
      (rows zero).map Prod.fst := by
    decide +kernel
  rw [← paths_of_erase [] (lines_erase c), List.map_map] at hzero
  exact hzero

/-- The values of the lines are those of the fields, in order. -/
theorem values_eq (c : Config) :
    (entries [] (headLines c ++ tailLines c)).map Prod.snd = (rows c).map Prod.snd := by
  simp only [headLines, generalLines, chirpStackLines, apiLines, mqttLines, tailLines, exampleLines,
    prometheusLines, httpLines, smtpLines, List.append_assoc, List.cons_append, List.nil_append,
    entries_notes, entries_blank, entries_table, entries_string, entries_integer, entries_boolean,
    entries_nil, List.map_cons, List.map_nil, rows]

/-- The lines spell out the rows. -/
theorem rows_eq (c : Config) :
    (entries [] (headLines c ++ tailLines c)).map (fun e => (viperKey e.1, e.2)) = rows c := by
  rw [← List.zip_map', keys_eq, values_eq, List.zip_map']
  exact List.map_id _

/-! ## What `initConfig` arrives at -/

section
variable (d : Decoder) {doc : Doc} (s : Settings doc)

/-- Viper has for the row's key what decodes to the row's value. -/
def Gives (row : String × Value) : Prop :=
  match row.2 with
  | .string t => field s d.string "" row.1 = some (String.ofList t)
  | .integer i => field s d.integer 0 row.1 = some i
  | .boolean b => field s d.boolean false row.1 = some b
  | .other text => s.get row.1 = some (.other text)

/-- A value viper finds is one of the file. -/
theorem gives_of_get {key : String} {v : Value} (h : s.get key = some v) : Gives d s (key, v) := by
  cases v with
  | string t => simp [Gives, field, h, d.string_string]
  | integer i => simp [Gives, field, h, d.integer_integer]
  | boolean b => simp [Gives, field, h, d.boolean_boolean]
  | other text => exact h

/-- A struct is filled exactly if each of its fields is. -/
theorem loadMQTT_eq_some {key : String} {m : MQTTConfig} :
    loadMQTT d s key = some m ↔
      field s d.string "" (key ++ ".server") = some m.server ∧
      field s d.string "" (key ++ ".username") = some m.username ∧
      field s d.string "" (key ++ ".password") = some m.password := by
  cases m
  simp [loadMQTT, Option.bind_eq_some_iff]

theorem loadChirpStack_eq_some {c : ChirpStackConfig} :
    loadChirpStack d s = some c ↔
      field s d.string "" "chirpstack.api.api_key" = some c.api.apiKey ∧
      field s d.string "" "chirpstack.api.server" = some c.api.server ∧
      field s d.boolean false "chirpstack.api.insecure" = some c.api.insecure ∧
      loadMQTT d s "chirpstack.integration.mqtt" = some c.integration.mqtt ∧
      loadMQTT d s "chirpstack.gateway.backend.mqtt" = some c.gateway.backend.mqtt := by
  obtain ⟨⟨apiKey, server, insecure⟩, ⟨integration⟩, ⟨⟨backend⟩⟩⟩ := c
  simp [loadChirpStack, Option.bind_eq_some_iff, -Bool.exists_bool]

theorem loadHTTP_eq_some {c : HTTPConfig} :
    loadHTTP d s = some c ↔
      field s d.string "" "http.bind" = some c.bind ∧
      field s d.string "" "http.username" = some c.username ∧
      field s d.string "" "http.password" = some c.password ∧
      field s d.string "" "http.jwt_secret" = some c.jwtSecret := by
  cases c
  simp [loadHTTP, Option.bind_eq_some_iff]

theorem loadSMTP_eq_some {c : SMTPConfig} :
    loadSMTP d s = some c ↔
      field s d.boolean false "smtp.enabled" = some c.enabled ∧
      field s d.string "" "smtp.host" = some c.host ∧
      field s d.integer 0 "smtp.port" = some c.port ∧
      field s d.string "" "smtp.username" = some c.username ∧
      field s d.string "" "smtp.password" = some c.password ∧
      field s d.string "" "smtp.encryption" = some c.encryption ∧
      field s d.string "" "smtp.from_email" = some c.fromEmail ∧
      field s d.string "" "smtp.report_email" = some c.reportEmail := by
  cases c
  simp [loadSMTP, Option.bind_eq_some_iff, -Bool.exists_bool]

/-- The configuration that `initConfig` arrives at is the one whose rows viper answers with. -/
theorem initConfig_eq_some {c : Config} :
    initConfig d s = some c ↔
      (∀ row ∈ rows c, Gives d s row) ∧
        (List.range s.simulators).mapM (loadSimulator d s) = some c.simulator := by
  obtain ⟨⟨logLevel⟩, chirpStack, simulator, ⟨bind⟩, http, smtp⟩ := c
  have hbind : initConfig d s = some ⟨⟨logLevel⟩, chirpStack, simulator, ⟨bind⟩, http, smtp⟩ ↔
      field s d.integer 0 "general.log_level" = some logLevel ∧
      loadChirpStack d s = some chirpStack ∧
      (List.range s.simulators).mapM (loadSimulator d s) = some simulator ∧
      field s d.string "" "prometheus.bind" = some bind ∧
      loadHTTP d s = some http ∧ loadSMTP d s = some smtp := by
    simp [initConfig, Option.bind_eq_some_iff]
  rw [hbind, loadChirpStack_eq_some, loadHTTP_eq_some, loadSMTP_eq_some, loadMQTT_eq_some,
    loadMQTT_eq_some]
  simp only [rows, List.forall_mem_cons, Gives, String.ofList_toList]
  simp only [List.not_mem_nil, false_implies, implies_true, and_true]
  tauto

end

/-! ## What viper may answer -/

/-- Any value of a document may be the one that viper answers with. -/
theorem exists_settings {doc : Doc} {path : Path} {v : Value} (h : (path, v) ∈ doc.values) :
    ∃ s : Settings doc, s.get (viperKey path) = some v := by
  classical
  -- under every other key, some value if there is one
  let Stands (key : String) (v : Value) : Prop := ∃ path, (path, v) ∈ doc.values ∧ viperKey path = key
  let get (key : String) : Option Value :=
    if key = viperKey path then some v
    else if hv : ∃ v, Stands key v then some hv.choose else none
  have hfound : ∀ {key w}, get key = some w → Stands key w := by
    intro key w hw
    simp only [get] at hw
    split_ifs at hw with hkey hv
    · cases hw
      exact ⟨path, h, hkey.symm⟩
    · rw [← Option.some.inj hw]
      exact hv.choose_spec
  have hmissing : ∀ {key}, get key = none → ∀ e ∈ doc.values, viperKey e.1 ≠ key := by
    intro key hw e he heq
    simp only [get] at hw
    split_ifs at hw with hkey hv
    exact hv ⟨e.2, e.1, he, heq⟩
  by_cases hcount : ∃ n path, (path, n) ∈ doc.elements ∧ viperKey path = "simulator"
  · obtain ⟨n, hn⟩ := hcount
    exact ⟨⟨get, n, hfound, hmissing, .inl hn⟩, if_pos rfl⟩
  · refine ⟨⟨get, 0, hfound, hmissing, .inr ⟨rfl, fun e he hkey => ?_⟩⟩, if_pos rfl⟩
    exact hcount ⟨e.2, e.1, he, hkey⟩

/-- A key with one value only is answered with it. -/
theorem get_eq {doc : Doc} (s : Settings doc)
    (hnodup : (doc.values.map fun e => viperKey e.1).Nodup) {path : Path} {v : Value}
    (h : (path, v) ∈ doc.values) : s.get (viperKey path) = some v := by
  cases hget : s.get (viperKey path) with
  | none => exact absurd rfl (s.missing hget (path, v) h)
  | some w =>
    obtain ⟨path', hmem, hkey⟩ := s.found hget
    have hsame : (path', w) = (path, v) := List.inj_on_of_nodup_map hnodup hmem h hkey
    rw [(Prod.mk.inj hsame).2]

/-! ## Printing and reading -/

/-- The strings that the template prints. -/
def texts (c : Config) : List String :=
  [c.chirpStack.api.apiKey, c.chirpStack.api.server,
   c.chirpStack.integration.mqtt.server, c.chirpStack.integration.mqtt.username,
   c.chirpStack.integration.mqtt.password, c.chirpStack.gateway.backend.mqtt.server,
   c.chirpStack.gateway.backend.mqtt.username, c.chirpStack.gateway.backend.mqtt.password,
   c.prometheus.bind, c.http.bind, c.http.username, c.http.password, c.http.jwtSecret,
   c.smtp.host, c.smtp.username, c.smtp.password, c.smtp.encryption, c.smtp.fromEmail,
   c.smtp.reportEmail]

/-- The lines are plain exactly if the texts of the configuration are. -/
theorem plain_lines (dialect : Dialect) (c : Config) :
    (∀ line ∈ headLines c ++ tailLines c, line.Plain dialect) ↔
      ∀ t ∈ texts c, dialect.Plain t.toList := by
  have hrows : (∀ e ∈ entries [] (headLines c ++ tailLines c), e.2.Plain dialect) ↔
      ∀ row ∈ rows c, row.2.Plain dialect := by
    rw [← rows_eq, List.forall_mem_map]
  rw [forall_plain_iff dialect [], hrows]
  simp only [rows, texts, List.forall_mem_cons, Value.Plain, true_and, List.not_mem_nil, false_implies,
    implies_true]

/-! ### A section that is never finished -/

/-- What is printed of the first simulator entry. -/
def stub : List Char := "\n[[simulator]]\nservice_profile_id=\"".toList

/-- The first entry already ends the execution, at a field there is not. -/
theorem executeRange_cons (duration : Int → String) (e : SimulatorConfig)
    (es : List SimulatorConfig) : executeRange duration (e :: es) = (stub, false) := rfl

/-- What is written of an entry until then. -/
theorem stub_eq : stub =
    '\n' :: '[' :: '[' :: ("simulator".toList ++ ']' :: ']' :: '\n' ::
      ("service_profile_id".toList ++ '=' :: '"' :: [])) := by
  decide +kernel

/-- The stub opens a string and never closes it. -/
theorem guarded_stub : Guarded stub := by
  have hquote : '"' ∉ "\n[[simulator]]\nservice_profile_id".toList := by decide +kernel
  have hstub : stub = "\n[[simulator]]\nservice_profile_id".toList ++ '=' :: ['"'] := by
    decide +kernel
  rw [hstub]
  exact guarded_mark hquote rfl ['"']

/-- The text ends inside a string. -/
theorem parse_stub (g : Grammar) (fuel : Nat) (doc : Doc) : parseFrom g fuel doc stub = none := by
  have hkeys : bareKeys "simulator".toList = some ["simulator".toList] := by decide +kernel
  have hstring : ∀ doc fuel,
      parseFrom g fuel doc ("service_profile_id".toList ++ '=' :: '"' :: []) = none := by
    intro doc fuel
    cases fuel with
    | zero => rfl
    | succ fuel =>
      have hkey : statement g doc ([] ++ ("service_profile_id".toList ++ '=' :: '"' :: [])) = none := by
        rw [statement_string g doc rfl (by decide +kernel) (by decide +kernel)]
        rfl
      rw [List.nil_append] at hkey
      rw [parseFrom_step g fuel doc (by simp), hkey]
      rfl
  rw [stub_eq]
  cases fuel with
  | zero => rfl
  | succ fuel =>
    rw [parseFrom_step g fuel doc (by simp), statement_blank]
    cases fuel with
    | zero => rfl
    | succ fuel =>
      rw [Option.bind_some, parseFrom_step g fuel doc (by simp),
        statement_array g doc (by decide +kernel) hkeys]
      cases doc.append ["simulator".toList] with
      | none => rfl
      | some next => exact hstring next fuel

/-! ## The result -/

section
variable {g : Grammar} {d : Decoder} {duration : Int → String} {c : Config}

/-- Without entries the file is complete. -/
theorem configfile_nil (h : c.simulator = []) :
    (configfile duration c).1 = render (headLines c ++ tailLines c) := by
  simp [configfile, h, executeRange, render]

/-- With an entry it ends in the stub. -/
theorem configfile_cons (h : c.simulator ≠ []) :
    (configfile duration c).1 = render (headLines c) ++ stub := by
  obtain ⟨e, es, hcons⟩ := List.exists_cons_of_ne_nil h
  rw [configfile, hcons, executeRange_cons]

/-- The row of an entry. -/
theorem mem_rows {path : Path} {v : Value}
    (h : (path, v) ∈ entries [] (headLines c ++ tailLines c)) : (viperKey path, v) ∈ rows c := by
  rw [← rows_eq]
  exact List.mem_map.mpr ⟨_, h, rfl⟩

/-- A document that has another string under a key of the configuration may be read as another
    configuration. -/
theorem not_readsBack_of_ne {doc : Doc} {path : Path} {t out : List Char}
    (hrow : (path, .string t) ∈ entries [] (headLines c ++ tailLines c)) (hne : out ≠ t)
    (hvalue : (path, .string out) ∈ doc.values) : ¬ ∀ s : Settings doc, initConfig d s = some c := by
  intro hall
  obtain ⟨s, hs⟩ := exists_settings hvalue
  have hgives := ((initConfig_eq_some d s).mp (hall s)).1 _ (mem_rows hrow)
  simp only [Gives, field, hs, Option.some_or, d.string_string, Option.some.injEq] at hgives
  exact hne (String.ofList_injective hgives)

/-- The keys of the fields are distinct. -/
theorem nodup_rows (c : Config) : ((rows c).map Prod.fst).Nodup := by
  have hkeys : (rows c).map Prod.fst = (rows zero).map Prod.fst := rfl
  rw [hkeys]
  decide +kernel

/-- The condition is enough: the file is parsed back line by line. -/
theorem readsBack_of_plain (hsim : c.simulator = []) (hplain : ∀ t ∈ texts c, g.Plain t.toList) :
    ReadsBack g d duration c := by
  obtain ⟨doc, hdoc⟩ := Option.isSome_iff_exists.mp (applyAll_lines c)
  obtain ⟨helements, hvalues⟩ := values_of_lines hdoc
  refine ⟨doc, ?_, fun s => (initConfig_eq_some d s).mpr ⟨?_, ?_⟩⟩
  · rw [configfile_nil hsim, parse_render g (wellFormed_lines c) ((plain_lines _ c).mpr hplain), hdoc]
  · intro row hrow
    rw [← rows_eq] at hrow
    obtain ⟨e, he, rfl⟩ := List.mem_map.mp hrow
    have hnodup : (doc.values.map fun e => viperKey e.1).Nodup := by
      have hkeys := nodup_rows c
      rwa [← rows_eq, List.map_map, ← hvalues] at hkeys
    rw [← hvalues] at he
    exact gives_of_get d s (get_eq s hnodup he)
  · have hcount : s.simulators = 0 := by
      rcases s.counted with ⟨path, hmem, -⟩ | ⟨hzero, -⟩
      · rw [helements] at hmem
        cases hmem
      · exact hzero
    rw [hcount, hsim]
    rfl

/-- And it is needed: a text that is not plain is read as another one, or the file is refused. -/
theorem plain_of_readsBack (h : ReadsBack g d duration c) :
    c.simulator = [] ∧ ∀ t ∈ texts c, g.Plain t.toList := by
  obtain ⟨doc, hparse, hall⟩ := h
  have hwell := wellFormed_lines c
  by_cases hsim : c.simulator = []
  · refine ⟨hsim, (plain_lines _ c).mp ?_⟩
    by_contra hplain
    rw [configfile_nil hsim, ← List.append_nil (render _)] at hparse
    obtain ⟨path, t, out, hrow, hne, hvalue⟩ := parse_ne hwell guarded_nil hplain hparse
    exact not_readsBack_of_ne hrow hne hvalue hall
  · exfalso
    rw [configfile_cons hsim] at hparse
    rw [List.all_append, Bool.and_eq_true] at hwell
    by_cases hplain : ∀ line ∈ headLines c, line.Plain g.toDialect
    · obtain ⟨fuel, -, hstub⟩ := parse_lines g hwell.1 hplain stub
      rw [hstub] at hparse
      obtain ⟨_, -, hnone⟩ := Option.bind_eq_some_iff.mp hparse
      rw [parse_stub] at hnone
      cases hnone
    · obtain ⟨path, t, out, hrow, hne, hvalue⟩ :=
        parseFrom_ne rfl hwell.1 guarded_stub hplain hparse
      exact not_readsBack_of_ne (mem_entries_append hrow _) hne hvalue hall

end

/-- The printed file reads back exactly when there is no simulator entry and every printed string is
    plain. -/
theorem readsBack_iff (g : Grammar) (d : Decoder) (duration : Int → String) (c : Config) :
    ReadsBack g d duration c ↔ c.simulator = [] ∧ ∀ t ∈ texts c, g.Plain t.toList :=
  ⟨plain_of_readsBack, fun h => readsBack_of_plain h.1 h.2⟩

/-! ### Two configurations that do not read back -/

/-- TOML 0.4 without the statements that are not modelled. -/
def plainToml : Grammar where
  escaped c := c.toNat < 32
  barred _ := false
  escaped_newline := rfl
  barred_printable _ _ _ := rfl
  other _ _ := none
  other_keeps h := by cases h

/-- Decodes a value to a field of its own type only. -/
def strict : Decoder where
  string
    | .string s => some (String.ofList s)
    | _ => none
  integer
    | .integer i => some i
    | _ => none
  boolean
    | .boolean b => some b
    | _ => none
  byte _ := none
  float _ := none
  duration _ := none
  string_string _ := rfl
  integer_integer _ := rfl
  boolean_boolean _ := rfl

/-- One simulation of ten devices. -/
def oneEntry : SimulatorConfig where
  tenantID := "52f14cd4-c6f1-4fbd-8f87-4025e1d49242"
  duration := 300000000000
  activationTime := 60000000000
  appName := ""
  deviceNamePrefix := ""
  payloadScript := ""
  packetLoss := 0
  simulatePacketLoss := false
  latencyMs := 0
  anomalyProbability := 0
  anomalyTypes := ""
  anomalyDuration := 0
  passiveMode := false
  syncIntervalMinutes := 0
  device := ⟨10, 60000000000, 10, "010203", 868100000, 125000, 7⟩
  gateway := ⟨1, 1, "eu868/gateway/\x7b\x7b .GatewayID \x7d\x7d/event/\x7b\x7b .Event \x7d\x7d",
    "eu868/gateway/\x7b\x7b .GatewayID \x7d\x7d/command/\x7b\x7b .Command \x7d\x7d"⟩
  deviceIntervals := []

/-- Neither a simulator entry nor a quote in a password survives. -/
theorem entry_and_quote_not_readBack :
    ¬ ReadsBack plainToml strict toString { zero with simulator := [oneEntry] } ∧
      ¬ ReadsBack plainToml strict toString { zero with http := ⟨"", "admin", "a\"b", ""⟩ } := by
  refine ⟨fun h => ?_, fun h => ?_⟩
  · have hsim := (plain_of_readsBack h).1
    cases hsim
  · have hplain := (plain_of_readsBack h).2 "a\"b" (by decide)
    exact absurd hplain (by decide)

end ChirpStackSimulator.ConfigFile
