/-
  The saved configurations of the organisations (`internal/api/database.go`).

  `SaveOrgConfig` inserts a row of `org_configs` or updates the one of the organisation; two queries
  read rows back, `GetOrgConfig` one of them and `GetActiveOrgConfigs` all.  The columns are named by
  hand five times: in the `INSERT` with its values, in the `DO UPDATE SET`, in either `SELECT`, and as
  the destinations of either `Scan`.  SQLite is a keyed table whose columns keep what is put into them
  (`Table`).

  1. **Lists** — the five of them, in the order of the source.
  2. **Queries** — `saveOrgConfig`, `getOrgConfig`, `getActiveOrgConfigs`; `db` is `none` before
     `SetupDB`.
  3. **Round trip** — a row inserted is read back as `stored` of the configuration
     (`readRow_insertedRow`): the lists agree, but `passive_mode` and `sync_interval_minutes` are in
     none of them.  So the store keeps its law (`RoundTrip`) exactly as long as nothing is saved in
     these two fields (`roundTrip_iff`).
  4. **The database of the programs** — `held` is what a history leaves, as the programs that read
     configurations are answered.
-/
import ChirpStackSimulator.Discovery
import ChirpStackSimulator.Lib.Table
import Mathlib.Data.List.Induction

namespace ChirpStackSimulator.OrgConfigs

open Discovery (stored Rows)

/-! ## Columns -/

/-- The columns of `org_configs`. -/
inductive Column where
  | orgId | tenantId | deviceCount | gatewayCount | duration | activationTime | uplinkInterval
  | appName | devicePrefix | fPort | payload | payloadScript | packetLoss | simulatePacketLoss
  | latencyMs | frequency | bandwidth | spreadingFactor | eventTopicTemplate | commandTopicTemplate
  | anomalyProbability | anomalyTypes | anomalyDuration | updatedAt
  deriving DecidableEq

inductive Value where
  | null
  | integer (n : Int)
  | real (q : ℚ)
  | text (s : String)
  | datetime (t : Int)
  deriving DecidableEq

abbrev Row := Column → Value

/-- The defaults the `CREATE TABLE` declares. -/
def defaultRow : Row
  | .simulatePacketLoss | .anomalyDuration => .integer 0
  | .anomalyProbability => .real 0
  | .anomalyTypes => .text ""
  | _ => .null

/-- `INSERT INTO org_configs (…)`. -/
def insertColumns : List Column :=
  [.orgId, .tenantId, .deviceCount, .gatewayCount, .duration, .activationTime,
   .uplinkInterval, .appName, .devicePrefix, .fPort, .payload, .payloadScript, .packetLoss,
   .simulatePacketLoss, .latencyMs, .frequency, .bandwidth, .spreadingFactor, .eventTopicTemplate,
   .commandTopicTemplate, .anomalyProbability, .anomalyTypes, .anomalyDuration, .updatedAt]

/-- The arguments of the `VALUES`. -/
def insertValues (orgID : String) (cfg : StartRequest) (now : Int) : List Value :=
  let simulatePacketLossVal : Int := if cfg.simulatePacketLoss then 1 else 0
  [.text orgID, .text cfg.tenantID, .integer cfg.deviceCount, .integer cfg.gatewayCount,
   .text cfg.duration, .text cfg.activationTime, .text cfg.uplinkInterval, .text cfg.appName,
   .text cfg.devicePrefix, .integer cfg.fPort.toNat, .text cfg.payload, .text cfg.payloadScript,
   .real cfg.packetLoss, .integer simulatePacketLossVal, .integer cfg.latencyMs,
   .integer cfg.frequency, .integer cfg.bandwidth, .integer cfg.spreadingFactor,
   .text cfg.eventTopicTemplate, .text cfg.commandTopicTemplate, .real cfg.anomalyProbability,
   .text cfg.anomalyTypes, .integer cfg.anomalyDuration, .datetime now]

/-- `ON CONFLICT(org_id) DO UPDATE SET c = excluded.c, …`. -/
def updateColumns : List Column :=
  [.tenantId, .deviceCount, .gatewayCount, .duration, .activationTime, .uplinkInterval, .appName,
   .devicePrefix, .fPort, .payload, .payloadScript, .packetLoss, .simulatePacketLoss, .latencyMs,
   .frequency, .bandwidth, .spreadingFactor, .eventTopicTemplate, .commandTopicTemplate,
   .anomalyProbability, .anomalyTypes, .anomalyDuration, .updatedAt]

/-- The `SELECT` of `GetOrgConfig`. -/
def selectOrgConfig : List Column :=
  [.tenantId, .deviceCount, .gatewayCount, .duration, .activationTime, .uplinkInterval, .appName,
   .devicePrefix, .fPort, .payload, .payloadScript, .packetLoss, .simulatePacketLoss, .latencyMs,
   .frequency, .bandwidth, .spreadingFactor, .eventTopicTemplate, .commandTopicTemplate,
   .anomalyProbability, .anomalyTypes, .anomalyDuration]

/-- The `SELECT` of `GetActiveOrgConfigs`. -/
def selectActiveOrgConfigs : List Column :=
  [.tenantId, .deviceCount, .gatewayCount, .duration, .activationTime, .uplinkInterval, .appName,
   .devicePrefix, .fPort, .payload, .payloadScript, .packetLoss, .simulatePacketLoss, .latencyMs,
   .frequency, .bandwidth, .spreadingFactor, .eventTopicTemplate, .commandTopicTemplate,
   .anomalyProbability, .anomalyTypes, .anomalyDuration]

/-! ## Scanning -/

/-- The variables a row is scanned into. -/
structure Scanned where
  cfg : StartRequest
  fPort : Int
  payloadScript : String
  simulatePacketLoss : Int
  anomalyProbability : ℚ
  anomalyTypes : String
  anomalyDuration : Int

/-- Their zero values. -/
def Scanned.zero : Scanned := ⟨StartRequest.empty, 0, "", 0, 0, "", 0⟩

/-- A destination of `Scan`. -/
abbrev Dest := Value → Scanned → Except String Scanned

/-- A `*string`. -/
def textDest (set : String → Scanned → Scanned) : Dest
  | .text s, r => .ok (set s r)
  | _, _ => .error "unsupported Scan, storing driver.Value into type *string"

/-- A `*int`. -/
def intDest (set : Int → Scanned → Scanned) : Dest
  | .integer n, r => .ok (set n r)
  | _, _ => .error "unsupported Scan, storing driver.Value into type *int"

/-- A `*float64`. -/
def realDest (set : ℚ → Scanned → Scanned) : Dest
  | .real q, r => .ok (set q r)
  | _, _ => .error "unsupported Scan, storing driver.Value into type *float64"

/-- A nullable destination: `NULL` leaves the zero value. -/
def nullDest (dest : Dest) (zero : Scanned → Scanned) : Dest
  | .null, r => .ok (zero r)
  | v, r => dest v r

def payloadScriptDest : Dest :=
  nullDest (textDest fun s r => { r with payloadScript := s }) fun r => { r with payloadScript := "" }

def simulatePacketLossDest : Dest :=
  nullDest (intDest fun n r => { r with simulatePacketLoss := n })
    fun r => { r with simulatePacketLoss := 0 }

def anomalyProbabilityDest : Dest :=
  nullDest (realDest fun q r => { r with anomalyProbability := q })
    fun r => { r with anomalyProbability := 0 }

def anomalyTypesDest : Dest :=
  nullDest (textDest fun s r => { r with anomalyTypes := s }) fun r => { r with anomalyTypes := "" }

def anomalyDurationDest : Dest :=
  nullDest (intDest fun n r => { r with anomalyDuration := n })
    fun r => { r with anomalyDuration := 0 }

/-- The destinations in `GetOrgConfig`. -/
def scanOrgConfig : List Dest :=
  [textDest fun s r => { r with cfg.tenantID := s },
   intDest fun n r => { r with cfg.deviceCount := n },
   intDest fun n r => { r with cfg.gatewayCount := n },
   textDest fun s r => { r with cfg.duration := s },
   textDest fun s r => { r with cfg.activationTime := s },
   textDest fun s r => { r with cfg.uplinkInterval := s },
   textDest fun s r => { r with cfg.appName := s },
   textDest fun s r => { r with cfg.devicePrefix := s },
   intDest fun n r => { r with fPort := n },
   textDest fun s r => { r with cfg.payload := s },
   payloadScriptDest,
   realDest fun q r => { r with cfg.packetLoss := q },
   simulatePacketLossDest,
   intDest fun n r => { r with cfg.latencyMs := n },
   intDest fun n r => { r with cfg.frequency := n },
   intDest fun n r => { r with cfg.bandwidth := n },
   intDest fun n r => { r with cfg.spreadingFactor := n },
   textDest fun s r => { r with cfg.eventTopicTemplate := s },
   textDest fun s r => { r with cfg.commandTopicTemplate := s },
   anomalyProbabilityDest, anomalyTypesDest, anomalyDurationDest]

/-- The destinations in `GetActiveOrgConfigs`. -/
def scanActiveOrgConfigs : List Dest :=
  [textDest fun s r => { r with cfg.tenantID := s },
   intDest fun n r => { r with cfg.deviceCount := n },
   intDest fun n r => { r with cfg.gatewayCount := n },
   textDest fun s r => { r with cfg.duration := s },
   textDest fun s r => { r with cfg.activationTime := s },
   textDest fun s r => { r with cfg.uplinkInterval := s },
   textDest fun s r => { r with cfg.appName := s },
   textDest fun s r => { r with cfg.devicePrefix := s },
   intDest fun n r => { r with fPort := n },
   textDest fun s r => { r with cfg.payload := s },
   payloadScriptDest,
   realDest fun q r => { r with cfg.packetLoss := q },
   simulatePacketLossDest,
   intDest fun n r => { r with cfg.latencyMs := n },
   intDest fun n r => { r with cfg.frequency := n },
   intDest fun n r => { r with cfg.bandwidth := n },
   intDest fun n r => { r with cfg.spreadingFactor := n },
   textDest fun s r => { r with cfg.eventTopicTemplate := s },
   textDest fun s r => { r with cfg.commandTopicTemplate := s },
   anomalyProbabilityDest, anomalyTypesDest, anomalyDurationDest]

/-- `Scan`: one value for each destination, in order. -/
def scan : List Dest → List Value → Scanned → Except String Scanned
  | [], [], r => .ok r
  | dest :: dests, v :: vs, r => do scan dests vs (← dest v r)
  | _, _, _ => .error "sql: expected other number of destination arguments in Scan"

/-- What is made of the variables after the `Scan`. -/
def Scanned.finish (r : Scanned) : StartRequest :=
  { r.cfg with
    payloadScript := r.payloadScript
    simulatePacketLoss := decide (r.simulatePacketLoss ≠ 0)
    fPort := UInt8.ofInt r.fPort
    anomalyProbability := r.anomalyProbability
    anomalyTypes := r.anomalyTypes
    anomalyDuration := r.anomalyDuration }

/-! ## Queries -/

/-- The rows of `org_configs`; `none` is `db == nil`. -/
abbrev DB := Option (List Row)

def orgKey (row : Row) : Value := row .orgId

def getOrgConfig (db : DB) (orgID : String) : Except String (Option StartRequest) :=
  match db with
  | none => .error "database not initialized"
  | some rows =>
    match Table.find orgKey (.text orgID) rows with
    | none => .ok none
    | some row => do
      let r ← scan scanOrgConfig (selectOrgConfig.map row) Scanned.zero
      pure (some r.finish)

def saveOrgConfig (db : DB) (orgID : String) (cfg : StartRequest) (now : Int) : Except String DB :=
  match db with
  | none => .error "database not initialized"
  | some rows =>
    let cfg := sanitize cfg
    .ok (some (Table.upsert orgKey (Table.overwrite updateColumns)
      (Table.proposed defaultRow insertColumns (insertValues orgID cfg now)) rows))

def getActiveOrgConfigs (db : DB) : Except String (List StartRequest) :=
  match db with
  | none => .error "database not initialized"
  | some rows =>
    rows.mapM fun row => do
      let r ← scan scanActiveOrgConfigs (selectActiveOrgConfigs.map row) Scanned.zero
      pure r.finish

/-! ## What a row says -/

/-- The row a save proposes. -/
def insertedRow (orgID : String) (cfg : StartRequest) (now : Int) : Row :=
  Table.proposed defaultRow insertColumns (insertValues orgID cfg now)

/-- A row as `GetOrgConfig` reads it. -/
def readRow (row : Row) : Except String StartRequest := do
  let r ← scan scanOrgConfig (selectOrgConfig.map row) Scanned.zero
  pure r.finish

/-- A row as `GetActiveOrgConfigs` reads it. -/
def readActiveRow (row : Row) : Except String StartRequest := do
  let r ← scan scanActiveOrgConfigs (selectActiveOrgConfigs.map row) Scanned.zero
  pure r.finish

/-- Every selected column is one the update sets. -/
theorem selectOrgConfig_subset : selectOrgConfig ⊆ updateColumns := by decide

/-- An updated row is read as the row that was proposed. -/
theorem readRow_overwrite (new old : Row) :
    readRow (Table.overwrite updateColumns new old) = readRow new := by
  unfold readRow
  rw [Table.map_overwrite selectOrgConfig_subset]

theorem orgKey_overwrite (new old : Row) :
    orgKey (Table.overwrite updateColumns new old) = orgKey old := rfl

@[simp] theorem orgKey_insertedRow (orgID : String) (cfg : StartRequest) (now : Int) :
    orgKey (insertedRow orgID cfg now) = .text orgID := rfl

/-- The selected columns of an inserted row are the values between the key and the time. -/
theorem select_insertedRow (orgID : String) (cfg : StartRequest) (now : Int) :
    selectOrgConfig.map (insertedRow orgID cfg now) =
      (insertValues orgID cfg now).tail.dropLast := rfl

theorem ofInt_toNat (n : UInt8) : UInt8.ofInt n.toNat = n := by
  have hmod : ((n.toNat : Int) % 256).toNat = n.toNat := by
    have hlt := n.toNat_lt
    omega
  show UInt8.ofNat ((n.toNat : Int) % 256).toNat = n
  rw [hmod, UInt8.ofNat_toNat]

/-- **What is inserted is read back**, but for the two fields without a column. -/
theorem readRow_insertedRow (orgID : String) (cfg : StartRequest) (now : Int) :
    readRow (insertedRow orgID cfg now) = .ok (stored cfg) := by
  unfold readRow
  rw [select_insertedRow]
  show Except.ok _ = _
  have hflag : decide ((if cfg.simulatePacketLoss then (1 : Int) else 0) ≠ 0) =
      cfg.simulatePacketLoss := by
    cases cfg.simulatePacketLoss <;> rfl
  simp only [Scanned.finish, hflag, ofInt_toNat]
  rfl

/-! ## Histories of saves -/

/-- A call of `SaveOrgConfig`, at the time `now`. -/
structure Save where
  orgID : String
  cfg : StartRequest
  now : Int

/-- The database after a save; one that fails leaves it. -/
def Save.apply (db : DB) (s : Save) : DB :=
  match saveOrgConfig db s.orgID s.cfg s.now with
  | .error _ => db
  | .ok db => db

/-- The database after `SetupDB` and these saves. -/
def after (saves : List Save) : DB := saves.foldl Save.apply (some [])

/-- The last configuration saved for an organisation, clamped. -/
def lastSaved (saves : List Save) (orgID : String) : Option StartRequest :=
  (Table.latest (fun s : Save => s.orgID = orgID) saves).map fun s => sanitize s.cfg

/-- The organisations saved, in the order of their first save. -/
def savedOrgs (saves : List Save) : List String :=
  saves.foldl (fun orgs s => if s.orgID ∈ orgs then orgs else orgs ++ [s.orgID]) []

/-- The law of the store after these saves. -/
structure RoundTrip (saves : List Save) : Prop where
  get : ∀ orgID, getOrgConfig (after saves) orgID = .ok (lastSaved saves orgID)
  frame : ∀ (s : Save) (orgID : String), s.orgID ≠ orgID →
    getOrgConfig (after (saves ++ [s])) orgID = getOrgConfig (after saves) orgID
  active : ∃ (orgs : List String) (configs : List StartRequest), orgs.Nodup ∧ (∀ orgID, orgID ∈ orgs ↔ ∃ s ∈ saves, s.orgID = orgID) ∧
    getActiveOrgConfigs (after saves) = .ok configs ∧
    configs.map some = orgs.map (lastSaved saves)

theorem after_append (saves : List Save) (s : Save) :
    after (saves ++ [s]) = (after saves).map fun rows =>
      Table.upsert orgKey (Table.overwrite updateColumns)
        (insertedRow s.orgID (sanitize s.cfg) s.now) rows := by
  unfold after
  rw [List.foldl_append]
  cases saves.foldl Save.apply (some []) <;> rfl

theorem lastSaved_append (saves : List Save) (s : Save) (orgID : String) :
    lastSaved (saves ++ [s]) orgID =
      if orgID = s.orgID then some (sanitize s.cfg) else lastSaved saves orgID := by
  unfold lastSaved
  rw [Table.latest_append]
  by_cases h : s.orgID = orgID
  · rw [if_pos (decide_eq_true h), if_pos h.symm, Option.map_some]
  · rw [if_neg (Bool.not_eq_true _ ▸ decide_eq_false h), if_neg (Ne.symm h)]

theorem savedOrgs_append (saves : List Save) (s : Save) :
    savedOrgs (saves ++ [s]) =
      if s.orgID ∈ savedOrgs saves then savedOrgs saves else savedOrgs saves ++ [s.orgID] := by
  unfold savedOrgs
  rw [List.foldl_append]
  rfl

theorem mem_savedOrgs {saves : List Save} {orgID : String} :
    orgID ∈ savedOrgs saves ↔ ∃ s ∈ saves, s.orgID = orgID := by
  induction saves using List.reverseRecOn with
  | nil => simp [savedOrgs]
  | append_singleton saves s ih =>
    rw [savedOrgs_append]
    split
    · rename_i hs
      rw [ih]
      simp only [List.mem_append, List.mem_singleton]
      constructor
      · rintro ⟨s', hs', rfl⟩
        exact ⟨s', .inl hs', rfl⟩
      · rintro ⟨s', hs' | rfl, rfl⟩
        · exact ⟨s', hs', rfl⟩
        · exact ih.mp hs
    · simp only [List.mem_append, List.mem_singleton, ih]
      grind

theorem lastSaved_isSome {saves : List Save} {orgID : String} :
    (lastSaved saves orgID).isSome ↔ orgID ∈ savedOrgs saves := by
  rw [mem_savedOrgs, ← not_iff_not, Bool.not_eq_true, Option.isSome_eq_false_iff, Option.isNone_iff_eq_none]
  unfold lastSaved
  rw [Option.map_eq_none_iff, Table.latest_eq_none]
  simp

/-- **The table after a history.**  Its keys are the organisations saved, once each, and a row reads
    as the last save of its organisation. -/
theorem rows_after (saves : List Save) : ∃ rows, after saves = some rows ∧
    rows.map orgKey = (savedOrgs saves).map .text ∧ (savedOrgs saves).Nodup ∧
    ∀ orgID, (Table.find orgKey (.text orgID) rows).map readRow =
      (lastSaved saves orgID).map fun cfg => .ok (stored cfg) := by
  induction saves using List.reverseRecOn with
  | nil => exact ⟨[], rfl, rfl, List.nodup_nil, fun _ => rfl⟩
  | append_singleton saves s ih =>
    obtain ⟨rows, hafter, hkeys, hnodup, hfind⟩ := ih
    have hmerge : ∀ new old : Row, orgKey new = orgKey old →
        orgKey (Table.overwrite updateColumns new old) = orgKey old :=
      fun new old _ => orgKey_overwrite new old
    have hmem : Value.text s.orgID ∈ rows.map orgKey ↔ s.orgID ∈ savedOrgs saves := by
      rw [hkeys]
      simp
    refine ⟨_, by rw [after_append, hafter, Option.map_some], ?_, ?_, ?_⟩
    · rw [Table.map_key_upsert hmerge, orgKey_insertedRow, savedOrgs_append]
      by_cases hs : s.orgID ∈ savedOrgs saves
      · rw [if_pos hs, if_pos (hmem.mpr hs), hkeys]
      · rw [if_neg hs, if_neg (mt hmem.mp hs), hkeys, List.map_append, List.map_singleton]
    · rw [savedOrgs_append]
      split
      · exact hnodup
      · rename_i hs
        rw [List.nodup_append]
        refine ⟨hnodup, List.nodup_singleton _, ?_⟩
        rintro orgID horg _ hone rfl
        exact hs (List.mem_singleton.mp hone ▸ horg)
    · intro orgID
      rw [Table.map_find_upsert hmerge fun new old _ => readRow_overwrite new old, orgKey_insertedRow,
        readRow_insertedRow, lastSaved_append, hfind]
      by_cases h : orgID = s.orgID
      · rw [if_pos h, if_pos (congrArg Value.text h), Option.map_some]
      · have hne : Value.text orgID ≠ Value.text s.orgID := fun e => h (Value.text.inj e)
        rw [if_neg h, if_neg hne]

theorem getOrgConfig_some (rows : List Row) (orgID : String) :
    getOrgConfig (some rows) orgID = match Table.find orgKey (.text orgID) rows with
      | none => .ok none
      | some row => (readRow row).map some := by
  show (match Table.find orgKey (.text orgID) rows with
    | none => Except.ok none
    | some row => do
      let r ← scan scanOrgConfig (selectOrgConfig.map row) Scanned.zero
      pure (some r.finish)) = _
  cases Table.find orgKey (.text orgID) rows with
  | none => rfl
  | some row =>
    dsimp only
    unfold readRow
    cases scan scanOrgConfig (selectOrgConfig.map row) Scanned.zero <;> rfl

/-- What `GetOrgConfig` answers after any history. -/
theorem getOrgConfig_after (saves : List Save) (orgID : String) :
    getOrgConfig (after saves) orgID = .ok ((lastSaved saves orgID).map stored) := by
  obtain ⟨rows, hafter, -, -, hfind⟩ := rows_after saves
  have h := hfind orgID
  rw [hafter, getOrgConfig_some]
  cases hrow : Table.find orgKey (.text orgID) rows with
  | none =>
    rw [hrow] at h
    cases hlast : lastSaved saves orgID with
    | none => rfl
    | some cfg => simp [hlast] at h
  | some row =>
    rw [hrow] at h
    cases hlast : lastSaved saves orgID with
    | none => simp [hlast] at h
    | some cfg =>
      have hread : readRow row = .ok (stored cfg) := by simpa [hlast] using h
      show (readRow row).map some = _
      rw [hread]
      rfl

/-- A listing that reads, row by row, as `f` says gives what `f` says. -/
theorem mapM_listed {ρ κ β : Type} {read : ρ → Except String β} {f : κ → Option β} :
    ∀ {rows : List ρ} {keys : List κ},
      (rows.map fun row => some (read row)) = keys.map (fun k => (f k).map .ok) →
        ∃ configs, rows.mapM read = .ok configs ∧ configs.map some = keys.map f
  | [], [], _ => ⟨[], rfl, rfl⟩
  | [], _ :: _, h => by simp at h
  | _ :: _, [], h => by simp at h
  | row :: rows, k :: keys, h => by
    obtain ⟨hrow, hrows⟩ := List.cons.inj h
    obtain ⟨configs, hread, hconfigs⟩ := mapM_listed hrows
    cases hk : f k with
    | none => simp [hk] at hrow
    | some config =>
      have hfirst : read row = .ok config := by simpa [hk] using hrow
      refine ⟨config :: configs, ?_, ?_⟩
      · rw [List.mapM_cons, hfirst, hread]
        rfl
      · rw [List.map_cons, List.map_cons, hk, hconfigs]

/-- What `GetActiveOrgConfigs` answers after any history: one record for each organisation. -/
theorem getActiveOrgConfigs_after (saves : List Save) : ∃ configs,
    getActiveOrgConfigs (after saves) = .ok configs ∧
      configs.map some =
        (savedOrgs saves).map fun orgID => (lastSaved saves orgID).map stored := by
  obtain ⟨rows, hafter, hkeys, hnodup, hfind⟩ := rows_after saves
  have hkeysNodup : (rows.map orgKey).Nodup := by
    rw [hkeys]
    exact hnodup.map fun _ _ e => Value.text.inj e
  have hlisted : rows.map (fun row => some (readActiveRow row)) = (savedOrgs saves).map fun orgID =>
      ((lastSaved saves orgID).map stored).map .ok := by
    show rows.map (fun row => some (readRow row)) = _
    rw [Table.map_eq_find hkeysNodup readRow, hkeys, List.map_map]
    refine List.map_congr_left fun orgID _ => ?_
    rw [Option.map_map]
    exact hfind orgID
  obtain ⟨configs, hread, hconfigs⟩ := mapM_listed hlisted
  rw [hafter]
  exact ⟨configs, hread, hconfigs⟩

/-- A save leaves the answers for the other organisations. -/
theorem getOrgConfig_frame (saves : List Save) {s : Save} {orgID : String} (h : s.orgID ≠ orgID) :
    getOrgConfig (after (saves ++ [s])) orgID = getOrgConfig (after saves) orgID := by
  rw [getOrgConfig_after, getOrgConfig_after, lastSaved_append, if_neg (Ne.symm h)]

theorem stored_eq_self {cfg : StartRequest} :
    stored cfg = cfg ↔ cfg.passiveMode = false ∧ cfg.syncIntervalMinutes = 0 := by
  unfold stored
  constructor
  · intro h
    rw [← h]
    exact ⟨rfl, rfl⟩
  · rintro ⟨hp, hs⟩
    rw [← hp, ← hs]

/-- **The store keeps its law** after a history exactly if the last configuration of every
    organisation has nothing in the two fields without a column. -/
theorem roundTrip_iff (saves : List Save) :
    RoundTrip saves ↔ ∀ orgID cfg, lastSaved saves orgID = some cfg →
      cfg.passiveMode = false ∧ cfg.syncIntervalMinutes = 0 := by
  constructor
  · intro law orgID cfg hlast
    have hget := law.get orgID
    rw [getOrgConfig_after, hlast] at hget
    exact stored_eq_self.mp (Option.some.inj (Except.ok.inj hget))
  · intro h
    have hsame : ∀ orgID, (lastSaved saves orgID).map stored = lastSaved saves orgID := by
      intro orgID
      cases hlast : lastSaved saves orgID with
      | none => rfl
      | some cfg => exact congrArg some (stored_eq_self.mpr (h orgID cfg hlast))
    refine ⟨fun orgID => ?_, fun s orgID => getOrgConfig_frame saves, ?_⟩
    · rw [getOrgConfig_after, hsame]
    · obtain ⟨rows, -, -, hnodup, -⟩ := rows_after saves
      obtain ⟨configs, hread, hconfigs⟩ := getActiveOrgConfigs_after saves
      refine ⟨savedOrgs saves, configs, hnodup, fun _ => mem_savedOrgs, hread, ?_⟩
      rw [hconfigs]
      exact List.map_congr_left fun orgID _ => hsame orgID

/-- One save with a synchronisation interval of five minutes, as bootstrap makes it. -/
theorem roundTrip_fails :
    ¬ RoundTrip [⟨"acme", { StartRequest.empty with syncIntervalMinutes := 5 }, 0⟩] := by
  intro law
  have hget := law.get "acme"
  rw [getOrgConfig_after] at hget
  have hsame := stored_eq_self.mp (Option.some.inj (Except.ok.inj hget))
  exact absurd hsame.2 (by decide)

/-! ## The database of the programs -/

/-- The configurations a history leaves. -/
def held (saves : List Save) : Rows := fun orgID => (lastSaved saves orgID).map stored

end ChirpStackSimulator.OrgConfigs
