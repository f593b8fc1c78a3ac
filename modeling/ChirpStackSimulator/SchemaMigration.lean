/-
  Migrating older databases (`SetupDB` of `internal/api/database.go`).

  Seven columns of `org_configs` came later.  `SetupDB` creates the table if there is none, tries to add
  each of the seven and ignores what comes of it.  What an added column gives an old row is declared
  in the statement, and only some of the variables that `GetOrgConfig` scans into can take a `NULL`.

  1. **Migration** — the statements of `SetupDB`, over the relations of `Schema`.

  2. **Older versions** — a `Version` is what it lacks.  Its `SaveOrgConfig` writes the columns it has;
     what else it does to a configuration is a parameter, since it is not in the repository.

  3. **Old rows** (`readRow_fill`) — a migrated row is read as what was saved, but for the fields that
     had no column, which are empty (`Version.legacy`).

  4. **The law** (`migrated_reads`): after any saves of any version and a migration every organisation
     is read so, and further migrations change nothing.
-/
import ChirpStackSimulator.Lib.Schema
import ChirpStackSimulator.OrgConfigs
import Mathlib.Logic.Function.Iterate

namespace ChirpStackSimulator.OrgConfigs

open Schema
open Discovery (stored)

/-! ## Migration -/

/-- The columns of the `CREATE TABLE`, in its order. -/
def tableColumns : List Column :=
  [.orgId, .tenantId, .deviceCount, .gatewayCount, .duration, .activationTime, .uplinkInterval,
   .appName, .devicePrefix, .fPort, .payload, .payloadScript, .packetLoss, .simulatePacketLoss,
   .latencyMs, .frequency, .bandwidth, .spreadingFactor, .eventTopicTemplate, .commandTopicTemplate,
   .anomalyProbability, .anomalyTypes, .anomalyDuration, .updatedAt]

/-- The `ALTER TABLE org_configs ADD COLUMN` statements with the value an old row gets: the default as
    a value of the column's type, or `NULL` if none is declared. -/
def migrations : List (Column × Value) :=
  [(.payloadScript, .null), (.packetLoss, .real 0), (.simulatePacketLoss, .integer 0),
   (.latencyMs, .integer 0), (.anomalyProbability, .real 0), (.anomalyTypes, .text ""),
   (.anomalyDuration, .integer 0)]

/-- `SetupDB`, on the table there is in the file. -/
def setupDB (db : Option (Relation Column Value)) : Relation Column Value :=
  migrate migrations (db.getD ⟨tableColumns, []⟩)

/-- `GetOrgConfig` on a table that may lack columns. -/
def getOrgConfigFrom (t : Relation Column Value) (orgID : String) :
    Except String (Option StartRequest) :=
  if ∀ c ∈ Column.orgId :: selectOrgConfig, c ∈ t.columns then getOrgConfig (some t.rows) orgID
  else .error "SQL logic error: no such column"

/-- A new file has the table of `SaveOrgConfig` and `GetOrgConfig`. -/
theorem setupDB_none : setupDB none = ⟨tableColumns, []⟩ :=
  migrate_of_subset (by decide)

/-! ## Older versions -/

/-- A version that lacks some of the later columns. -/
structure Version where
  lacks : List Column
  later : lacks ⊆ migrations.map Prod.fst

namespace Version

def has (v : Version) (c : Column) : Bool := c ∉ v.lacks

/-- The columns of its table. -/
def columns (v : Version) : List Column := tableColumns.filter v.has

/-- The columns and values of its `INSERT`. -/
def assignments (v : Version) (orgID : String) (cfg : StartRequest) (now : Int) :
    List (Column × Value) :=
  (insertColumns.zip (insertValues orgID cfg now)).filter fun a => v.has a.1

/-- The row its `INSERT` proposes. -/
def inserted (v : Version) (orgID : String) (cfg : StartRequest) (now : Int) : Row :=
  Table.proposed defaultRow ((v.assignments orgID cfg now).map Prod.fst)
    ((v.assignments orgID cfg now).map Prod.snd)

/-- Its `SaveOrgConfig`, which stores what `prepare` makes of a configuration. -/
def save (v : Version) (prepare : StartRequest → StartRequest) (rows : List Row) (s : Save) :
    List Row :=
  Table.upsert orgKey (Table.overwrite (updateColumns.filter v.has))
    (v.inserted s.orgID (prepare s.cfg) s.now) rows

/-- Its table after these saves. -/
def table (v : Version) (prepare : StartRequest → StartRequest) (saves : List Save) :
    Relation Column Value :=
  ⟨v.columns, saves.foldl (v.save prepare) []⟩

/-- What is left of a configuration: the fields without a column are empty, zero or false. -/
def legacy (v : Version) (cfg : StartRequest) : StartRequest :=
  { stored cfg with
    payloadScript := if v.has .payloadScript then cfg.payloadScript else ""
    packetLoss := if v.has .packetLoss then cfg.packetLoss else 0
    simulatePacketLoss := if v.has .simulatePacketLoss then cfg.simulatePacketLoss else false
    latencyMs := if v.has .latencyMs then cfg.latencyMs else 0
    anomalyProbability := if v.has .anomalyProbability then cfg.anomalyProbability else 0
    anomalyTypes := if v.has .anomalyTypes then cfg.anomalyTypes else ""
    anomalyDuration := if v.has .anomalyDuration then cfg.anomalyDuration else 0 }

/-- The version of the repository lacks nothing. -/
def current : Version := ⟨[], by decide⟩

/-- Its saves are those of `saveOrgConfig`. -/
theorem save_current (rows : List Row) (s : Save) :
    Save.apply (some rows) s = some (current.save sanitize rows s) := by
  have hinserted : current.inserted s.orgID (sanitize s.cfg) s.now =
      insertedRow s.orgID (sanitize s.cfg) s.now := rfl
  have hupdate : updateColumns.filter current.has = updateColumns := by decide
  rw [save, hinserted, hupdate]
  rfl

end Version

/-! ## Old rows -/

/-- The row of a save, column by column. -/
theorem insertedRow_apply (orgID : String) (cfg : StartRequest) (now : Int) (c : Column) :
    insertedRow orgID cfg now c =
      match c with
      | .orgId => .text orgID
      | .tenantId => .text cfg.tenantID
      | .deviceCount => .integer cfg.deviceCount
      | .gatewayCount => .integer cfg.gatewayCount
      | .duration => .text cfg.duration
      | .activationTime => .text cfg.activationTime
      | .uplinkInterval => .text cfg.uplinkInterval
      | .appName => .text cfg.appName
      | .devicePrefix => .text cfg.devicePrefix
      | .fPort => .integer cfg.fPort.toNat
      | .payload => .text cfg.payload
      | .payloadScript => .text cfg.payloadScript
      | .packetLoss => .real cfg.packetLoss
      | .simulatePacketLoss => .integer (if cfg.simulatePacketLoss then 1 else 0)
      | .latencyMs => .integer cfg.latencyMs
      | .frequency => .integer cfg.frequency
      | .bandwidth => .integer cfg.bandwidth
      | .spreadingFactor => .integer cfg.spreadingFactor
      | .eventTopicTemplate => .text cfg.eventTopicTemplate
      | .commandTopicTemplate => .text cfg.commandTopicTemplate
      | .anomalyProbability => .real cfg.anomalyProbability
      | .anomalyTypes => .text cfg.anomalyTypes
      | .anomalyDuration => .integer cfg.anomalyDuration
      | .updatedAt => .datetime now := by
  cases c <;> rfl

namespace Version

variable (v : Version)

/-- The columns that did not come later are in every version. -/
theorem has_of_not_later {c : Column} (h : c ∉ migrations.map Prod.fst) : v.has c = true :=
  decide_eq_true fun hc => h (v.later hc)

theorem mem_columns {c : Column} : c ∈ v.columns ↔ v.has c = true := by
  have hall : c ∈ tableColumns := by cases c <;> decide
  rw [columns, List.mem_filter]
  exact and_iff_right hall

theorem inserted_apply (orgID : String) (cfg : StartRequest) (now : Int) (c : Column) :
    v.inserted orgID cfg now c = if v.has c then insertedRow orgID cfg now c else defaultRow c := by
  have hlength : insertColumns.length = (insertValues orgID cfg now).length := rfl
  rw [inserted, assignments, Table.proposed_filter, List.map_fst_zip (le_of_eq hlength),
    List.map_snd_zip (le_of_eq hlength.symm)]
  rfl

/-- What `fill` and `inserted` say of one column. -/
theorem fill_inserted_apply (orgID : String) (cfg : StartRequest) (now : Int) (c : Column) :
    fill v.columns migrations (v.inserted orgID cfg now) c =
      if v.has c then insertedRow orgID cfg now c
      else (migrations.lookup c).getD (defaultRow c) := by
  by_cases h : v.has c = true
  · rw [fill, if_pos (v.mem_columns.mpr h), if_pos h, inserted_apply, if_pos h]
  · rw [fill, if_neg (mt v.mem_columns.mp h), if_neg h, inserted_apply, if_neg h]

/-- A column the version has is not touched by `legacy`. -/
theorem insertedRow_legacy {orgID : String} {cfg : StartRequest} {now : Int} {c : Column}
    (h : v.has c = true) :
    insertedRow orgID (v.legacy cfg) now c = insertedRow orgID cfg now c := by
  rw [insertedRow_apply, insertedRow_apply]
  cases c
  case payloadScript => exact congrArg Value.text (if_pos h)
  case packetLoss => exact congrArg Value.real (if_pos h)
  case simulatePacketLoss =>
    exact congrArg (fun b : Bool => Value.integer (if b then 1 else 0)) (if_pos h)
  case latencyMs => exact congrArg Value.integer (if_pos h)
  case anomalyProbability => exact congrArg Value.real (if_pos h)
  case anomalyTypes => exact congrArg Value.text (if_pos h)
  case anomalyDuration => exact congrArg Value.integer (if_pos h)
  all_goals rfl

/-- Under a column it lacks, what `legacy` leaves is the default of the migration, unless that is
    `NULL`. -/
theorem insertedRow_legacy_of_lacks {orgID : String} {cfg : StartRequest} {now : Int} {c : Column}
    (h : ¬ v.has c = true) (hscript : c ≠ .payloadScript) :
    insertedRow orgID (v.legacy cfg) now c = (migrations.lookup c).getD (defaultRow c) := by
  rw [insertedRow_apply]
  cases c
  case payloadScript => exact absurd rfl hscript
  case packetLoss => exact congrArg Value.real (if_neg h)
  case simulatePacketLoss =>
    exact congrArg (fun b : Bool => Value.integer (if b then 1 else 0)) (if_neg h)
  case latencyMs => exact congrArg Value.integer (if_neg h)
  case anomalyProbability => exact congrArg Value.real (if_neg h)
  case anomalyTypes => exact congrArg Value.text (if_neg h)
  case anomalyDuration => exact congrArg Value.integer (if_neg h)
  all_goals exact absurd (v.has_of_not_later (by decide)) h

/-- **A row after the migration**: the row of what is left of the configuration, but for a script
    that is `NULL`. -/
theorem fill_inserted (orgID : String) (cfg : StartRequest) (now : Int) (c : Column) :
    fill v.columns migrations (v.inserted orgID cfg now) c =
      if c = .payloadScript ∧ ¬ v.has .payloadScript = true then .null
      else insertedRow orgID (v.legacy cfg) now c := by
  rw [fill_inserted_apply]
  by_cases h : v.has c = true
  · rw [if_pos h, if_neg (by rintro ⟨rfl, hlacks⟩; exact hlacks h), insertedRow_legacy v h]
  · rw [if_neg h]
    by_cases hscript : c = .payloadScript
    · subst hscript
      rw [if_pos ⟨rfl, h⟩]
      rfl
    · rw [if_neg fun hboth => hscript hboth.1, insertedRow_legacy_of_lacks v h hscript]

/-- A script that is `NULL` is read as the empty text. -/
theorem readRow_null_script (orgID : String) (cfg : StartRequest) (now : Int) :
    readRow (Function.update (insertedRow orgID cfg now) .payloadScript .null) =
      .ok (stored { cfg with payloadScript := "" }) := by
  rw [← readRow_insertedRow orgID { cfg with payloadScript := "" } now]
  rfl

/-- **An old row is read** as what is left of the configuration. -/
theorem readRow_fill (orgID : String) (cfg : StartRequest) (now : Int) :
    readRow (fill v.columns migrations (v.inserted orgID cfg now)) = .ok (v.legacy cfg) := by
  by_cases h : v.has .payloadScript = true
  · have hrow : fill v.columns migrations (v.inserted orgID cfg now) =
        insertedRow orgID (v.legacy cfg) now := by
      funext c
      rw [fill_inserted, if_neg fun hboth => hboth.2 h]
    rw [hrow, readRow_insertedRow]
    rfl
  · have hrow : fill v.columns migrations (v.inserted orgID cfg now) =
        Function.update (insertedRow orgID (v.legacy cfg) now) .payloadScript .null := by
      funext c
      rw [fill_inserted, Function.update_apply]
      by_cases hscript : c = .payloadScript
      · rw [if_pos ⟨hscript, h⟩, if_pos hscript]
      · rw [if_neg fun hboth => hscript hboth.1, if_neg hscript]
    rw [hrow, readRow_null_script]
    have hempty : (v.legacy cfg).payloadScript = "" := if_neg h
    rw [← hempty]
    rfl

/-! ## The law -/

theorem orgKey_fill (row : Row) : orgKey (fill v.columns migrations row) = orgKey row :=
  if_pos (v.mem_columns.mpr (v.has_of_not_later (by decide)))

/-- An update leaves nothing of the old row to be read. -/
theorem readRow_fill_overwrite (new old : Row) :
    readRow (fill v.columns migrations (Table.overwrite (updateColumns.filter v.has) new old)) =
      readRow (fill v.columns migrations new) := by
  have hselect : ∀ c ∈ selectOrgConfig,
      fill v.columns migrations (Table.overwrite (updateColumns.filter v.has) new old) c =
        fill v.columns migrations new c := by
    intro c hc
    unfold fill
    by_cases h : v.has c = true
    · have hset : c ∈ updateColumns.filter v.has :=
        List.mem_filter.mpr ⟨selectOrgConfig_subset hc, h⟩
      rw [if_pos (v.mem_columns.mpr h), if_pos (v.mem_columns.mpr h)]
      exact if_pos hset
    · -- a column that is lacking has a default, whatever the rows are
      have hlater : (migrations.lookup c).isSome := by
        have hmem : c ∈ migrations.map Prod.fst := by
          by_contra hc'
          exact h (v.has_of_not_later hc')
        revert hmem
        cases c <;> decide
      obtain ⟨value, hvalue⟩ := Option.isSome_iff_exists.mp hlater
      rw [if_neg (mt v.mem_columns.mp h), if_neg (mt v.mem_columns.mp h), hvalue]
      rfl
  unfold readRow
  rw [List.map_congr_left hselect]

theorem orgKey_inserted (orgID : String) (cfg : StartRequest) (now : Int) :
    orgKey (v.inserted orgID cfg now) = .text orgID := by
  show v.inserted orgID cfg now .orgId = .text orgID
  rw [inserted_apply, if_pos (v.has_of_not_later (by decide))]
  rfl

/-- What an old table holds for an organisation, read as it will be after the migration. -/
theorem find_table (prepare : StartRequest → StartRequest) (saves : List Save) (orgID : String) :
    (Table.find orgKey (.text orgID) (saves.foldl (v.save prepare) [])).map
        (readRow ∘ fill v.columns migrations) =
      (Table.latest (fun s : Save => s.orgID = orgID) saves).map fun s =>
        .ok (v.legacy (prepare s.cfg)) := by
  induction saves using List.reverseRecOn with
  | nil => rfl
  | append_singleton saves s ih =>
    have hmerge : ∀ new old : Row, orgKey new = orgKey old →
        orgKey (Table.overwrite (updateColumns.filter v.has) new old) = orgKey old := by
      intro new old _
      exact if_neg (by simp [updateColumns])
    rw [List.foldl_append]
    show (Table.find orgKey (.text orgID) (Table.upsert orgKey _ _ _)).map _ = _
    rw [Table.map_find_upsert hmerge fun new old _ => v.readRow_fill_overwrite new old,
      orgKey_inserted, ih, Table.latest_append, Function.comp_apply, readRow_fill]
    by_cases h : s.orgID = orgID
    · rw [if_pos (congrArg Value.text h.symm), if_pos (decide_eq_true h), Option.map_some]
    · have hne : Value.text orgID ≠ Value.text s.orgID := fun e => h (Value.text.inj e).symm
      rw [if_neg hne, if_neg (by simpa using h)]

/-- Every column that is selected is there after the migration. -/
theorem mem_columns_setupDB (prepare : StartRequest → StartRequest) (saves : List Save)
    (c : Column) : c ∈ (setupDB (some (v.table prepare saves))).columns := by
  refine mem_columns_migrate.mpr ?_
  by_cases h : v.has c = true
  · exact .inl (v.mem_columns.mpr h)
  · right
    by_contra hc
    exact h (v.has_of_not_later hc)

end Version

/-- **Migration.**  Whatever later columns a version lacks and whatever it saved: after `SetupDB` every
    organisation is read as the last configuration saved for it, the fields without a column empty,
    and running `SetupDB` again any number of times changes nothing. -/
theorem migrated_reads (v : Version) (prepare : StartRequest → StartRequest) (saves : List Save) :
    let db := setupDB (some (v.table prepare saves))
    (∀ orgID, getOrgConfigFrom db orgID =
      .ok ((Table.latest (fun s : Save => s.orgID = orgID) saves).map fun s =>
        v.legacy (prepare s.cfg))) ∧
    ∀ n, (fun db => setupDB (some db))^[n] db = db := by
  refine ⟨fun orgID => ?_, fun n => ?_⟩
  · have hrows : (setupDB (some (v.table prepare saves))).rows =
        (saves.foldl (v.save prepare) []).map (fill v.columns migrations) := rows_migrate
    have hfind := v.find_table prepare saves orgID
    rw [getOrgConfigFrom, if_pos fun c _ => v.mem_columns_setupDB prepare saves c,
      getOrgConfig_some, hrows, Table.find_map v.orgKey_fill]
    cases hrow : Table.find orgKey (.text orgID) (saves.foldl (v.save prepare) []) with
    | none =>
      rw [hrow, Option.map_none] at hfind
      rw [Option.map_none, Option.map_eq_none_iff.mp hfind.symm]
      rfl
    | some row =>
      rw [hrow, Option.map_some] at hfind
      obtain ⟨s, hs, hread⟩ := Option.map_eq_some_iff.mp hfind.symm
      rw [Option.map_some, hs]
      show (readRow (fill v.columns migrations row)).map some = _
      rw [← Function.comp_apply (f := readRow), ← hread]
      rfl
  · exact Function.iterate_fixed migrate_migrate n

end ChirpStackSimulator.OrgConfigs
