/-
  Filling in missing configurations beside saves (`syncMissingOrgConfigs`, `handleSaveOrgConfig`,
  `handleBootstrap`).

  A listing of the organisations, and a start, first go through the tenants: they read the
  configuration of each, and where there is none they ask ChirpStack for its applications and devices
  and save a generated one.  The save is an upsert.  A configuration that is saved between the read
  and the save is overwritten.

  1. **Requests** — the four that save configurations, side by side over one table
     (`Shared.step`).  The table knows of each row whether it was generated, and all configurations
     saved by a user or by bootstrap, oldest first.
  2. **The law** — `Kept`: what was saved last for an organisation by a user or by bootstrap is what
     its row holds.
  3. **Reading and saving** — a generated configuration is saved only for the tenant that was read as
     missing last (`Discovery.asks_syncTenants`), so nothing was saved for it before the read
     (`invariant_step`).
  4. `kept_throughout_iff`: the law holds in every state of a run exactly if no generated
     configuration is saved for an organisation that another one was saved for since the read.
-/
import ChirpStackSimulator.Lib.Shared
import ChirpStackSimulator.Lib.Table
import ChirpStackSimulator.Routes
import ChirpStackSimulator.TenantIsolation

namespace ChirpStackSimulator.MissingConfigs

open Discovery Handlers Bootstrap Routes Transition
open Lifecycle (Status)

/-! ## Requests over one table -/

inductive Request where
  | listOrganizations (m : Method)
  | start (post : Bool) (body : Except String StartRequest) (status : Status)
  | saveOrgConfig (orgID : String) (body : Except String StartRequest)
  | bootstrap (m : Method) (body : Except String BootstrapRequest)

/-- What the request saves is generated, by `syncMissingOrgConfigs`. -/
def Request.generates : Request → Bool
  | .listOrganizations _ | .start _ _ _ => true
  | .saveOrgConfig _ _ | .bootstrap _ _ => false

section
variable (parseDuration : String → Except String Int)

def Request.program : Request → Action Response
  | .listOrganizations m => handleListOrganizations m
  | .start post body status => handleStart parseDuration post body status
  | .saveOrgConfig orgID body => handleSaveOrgConfig parseDuration orgID body
  | .bootstrap m body => handleBootstrap m body

end

/-- A row, and whether it was generated. -/
structure Row where
  cfg : StartRequest
  generated : Bool
  deriving DecidableEq

structure Configs where
  rows : String → Option Row
  /-- What users and bootstrap have saved, oldest first. -/
  saves : List (String × StartRequest)

/-- What is noted about a request that is served. -/
structure Note where
  request : Request
  /-- The organisation it read last, if it had no row, and how many saves there were then. -/
  missing : Option (String × Nat)

/-- The answer to a call, if the surroundings offer `x`: the database may fail, and if it does not it
    answers with what the table holds. -/
def respond (n : Note) (t : Configs) : (c : Call) → c.Answer → c.Answer × Configs
  | .getOrgConfig _, .error e => (.error e, t)
  | .getOrgConfig orgID, .ok _ => (.ok ((t.rows orgID).map Row.cfg), t)
  | .saveOrgConfig _ _, some e => (some e, t)
  | .saveOrgConfig orgID cfg, none => (none,
      { rows := Function.update t.rows orgID (some ⟨stored cfg, n.request.generates⟩)
        saves := if n.request.generates then t.saves else t.saves ++ [(orgID, stored cfg)] })
  | _, x => (x, t)

/-- The note after an answer. -/
def noteAnswer (n : Note) (t : Configs) : (c : Call) → c.Answer → Note
  | .getOrgConfig orgID, .ok none => { n with missing := some (orgID, t.saves.length) }
  | .getOrgConfig _, _ => { n with missing := none }
  | _, _ => n

abbrev State := Shared.State Configs Note Call Call.Answer Response
abbrev Label := Shared.Label Request Call Call.Answer

def init : State := ⟨⟨fun _ => none, []⟩, []⟩

/-- One step of the requests side by side. -/
def step (parseDuration : String → Except String Int) : State → Label → Option State :=
  Shared.step (fun r => (⟨r, none⟩, r.program parseDuration)) respond noteAnswer

/-! ## The law -/

/-- The last configuration a user or bootstrap saved for an organisation. -/
def Configs.owed (t : Configs) (orgID : String) : Option StartRequest :=
  (Table.latest (fun save : String × StartRequest => save.1 = orgID) t.saves).map Prod.snd

/-- **Saved configurations are kept**: the row holds what was saved last, not a generated one. -/
def Kept (t : Configs) : Prop :=
  ∀ orgID cfg, t.owed orgID = some cfg → t.rows orgID = some ⟨cfg, false⟩

/-- No generated configuration is saved for an organisation for which another one was saved since it
    was read as missing. -/
def Timely (s : State) : Label → Prop
  | .enter _ => True
  | .answer i x => ∀ n orgID cfg k, s.running[i]? = some (n, .call (.saveOrgConfig orgID cfg) k) →
      n.request.generates = true → (x (.saveOrgConfig orgID cfg) : Option String) = none →
      ∀ mark, n.missing = some (orgID, mark) → ∀ save ∈ s.store.saves.drop mark, save.1 ≠ orgID

/-! ## Reading and saving -/

/-- Every organisation something was saved for has a row. -/
def Sound (t : Configs) : Prop := ∀ save ∈ t.saves, t.rows save.1 ≠ none

/-- A request that generates configurations saves one only for the organisation it has read as
    missing, and of that there was no save when it was read. -/
structure Tracked (t : Configs) (n : Note) (p : Action Response) : Prop where
  sound : Sound t
  asks : n.request.generates = true →
    p.Tracks lastMissing AsksOrLaunches (fun _ _ => True) (n.missing.map Prod.fst)
  unsaved : ∀ orgID mark, n.missing = some (orgID, mark) →
    mark ≤ t.saves.length ∧ ∀ save ∈ t.saves.take mark, save.1 ≠ orgID

theorem asks_generates (parseDuration : String → Except String Int) {r : Request}
    (h : r.generates = true) :
    (r.program parseDuration).Tracks lastMissing AsksOrLaunches (fun _ _ => True) none := by
  cases r with
  | listOrganizations m =>
    show (handleListOrganizations m).Tracks _ _ _ _
    unfold handleListOrganizations only
    split
    · trivial
    · refine Prog.Tracks.ask_bind (Or.inl trivial) fun x => ?_
      match x with
      | false => trivial
      | true =>
        refine ((asks_syncMissingOrgConfigs none).mono_calls fun _ _ => Or.inl).bind fun s _ _ =>
          Prog.Tracks.ask_bind (Or.inl not_false) fun x => ?_
        match x with
        | .error e => trivial
        | .ok tenants => trivial
  | start post body status => exact asks_handleStart parseDuration post body status none
  | saveOrgConfig orgID body => cases h
  | bootstrap m body => cases h

/-- Only a save that succeeds changes the table. -/
theorem respond_unchanged {n : Note} {t : Configs} {c : Call} {x : c.Answer}
    (h : ∀ orgID cfg, c ≠ .saveOrgConfig orgID cfg) : (respond n t c x).2 = t := by
  cases c with
  | saveOrgConfig orgID cfg => exact absurd rfl (h orgID cfg)
  | getOrgConfig orgID =>
    match x with
    | .error e => rfl
    | .ok cfg => rfl
  | _ => rfl

/-- A generated configuration. -/
theorem respond_generated {n : Note} (hgen : n.request.generates = true) (t : Configs)
    (orgID : String) (cfg : StartRequest) :
    (respond n t (.saveOrgConfig orgID cfg) none).2 =
      { t with rows := Function.update t.rows orgID (some ⟨stored cfg, true⟩) } := by
  show Configs.mk (Function.update t.rows orgID (some ⟨stored cfg, n.request.generates⟩))
    (if n.request.generates then t.saves else t.saves ++ [(orgID, stored cfg)]) = _
  rw [hgen]
  rfl

/-- One saved by a user or by bootstrap. -/
theorem respond_saved {n : Note} (hgen : n.request.generates = false) (t : Configs)
    (orgID : String) (cfg : StartRequest) :
    (respond n t (.saveOrgConfig orgID cfg) none).2 =
      ⟨Function.update t.rows orgID (some ⟨stored cfg, false⟩),
        t.saves ++ [(orgID, stored cfg)]⟩ := by
  show Configs.mk (Function.update t.rows orgID (some ⟨stored cfg, n.request.generates⟩))
    (if n.request.generates then t.saves else t.saves ++ [(orgID, stored cfg)]) = _
  rw [hgen]
  rfl

/-- A row that is put in or replaced leaves every organisation with a row that had one. -/
theorem update_ne_none {rows : String → Option Row} {orgID id : String} {row : Row}
    (h : rows id ≠ none ∨ id = orgID) : Function.update rows orgID (some row) id ≠ none := by
  by_cases hid : id = orgID
  · rw [hid, Function.update_self]
    exact Option.some_ne_none _
  · rw [Function.update_of_ne hid]
    exact h.resolve_right hid

/-- The saves only get more, and each of them has a row. -/
theorem saves_respond (n : Note) (t : Configs) (c : Call) (x : c.Answer) :
    ∃ more, (respond n t c x).2.saves = t.saves ++ more ∧
      (Sound t → Sound (respond n t c x).2) := by
  cases c with
  | saveOrgConfig orgID cfg =>
    match x with
    | some e => exact ⟨[], (List.append_nil _).symm, id⟩
    | none =>
      cases hgen : n.request.generates with
      | true =>
        rw [respond_generated hgen]
        exact ⟨[], (List.append_nil _).symm, fun hs save hsave => update_ne_none (Or.inl (hs save hsave))⟩
      | false =>
        rw [respond_saved hgen]
        refine ⟨[(orgID, stored cfg)], rfl, fun hs save hsave => update_ne_none ?_⟩
        rcases List.mem_append.mp hsave with hsave | hsave
        · exact Or.inl (hs save hsave)
        · exact Or.inr (congrArg Prod.fst (List.mem_singleton.mp hsave))
  | _ =>
    rw [respond_unchanged fun _ _ h => by cases h]
    exact ⟨[], (List.append_nil _).symm, id⟩

/-- The note follows `Discovery.lastMissing`. -/
theorem missing_noteAnswer (n : Note) (t : Configs) (c : Call) (y : c.Answer) :
    (noteAnswer n t c y).missing.map Prod.fst = lastMissing (n.missing.map Prod.fst) c y := by
  cases c with
  | getOrgConfig orgID =>
    match y with
    | .error e => rfl
    | .ok none => rfl
    | .ok (some cfg) => rfl
  | _ => rfl

theorem request_noteAnswer (n : Note) (t : Configs) (c : Call) (y : c.Answer) :
    (noteAnswer n t c y).request = n.request := by
  cases c with
  | getOrgConfig orgID =>
    match y with
    | .error e => rfl
    | .ok none => rfl
    | .ok (some cfg) => rfl
  | _ => rfl

/-- What is noted as missing was missing before, or has no row now. -/
theorem noteAnswer_missing {n : Note} {t : Configs} {c : Call} {x : c.Answer} {orgID : String}
    {mark : Nat} (h : (noteAnswer n t c (respond n t c x).1).missing = some (orgID, mark)) :
    n.missing = some (orgID, mark) ∨ (mark = t.saves.length ∧ t.rows orgID = none) := by
  cases c with
  | getOrgConfig id =>
    match x with
    | .error e => exact absurd h (by simp [respond, noteAnswer])
    | .ok cfg =>
      cases hrow : t.rows id with
      | none =>
        have hsome : some (id, t.saves.length) = some (orgID, mark) := by
          simpa [respond, noteAnswer, hrow] using h
        obtain ⟨rfl, rfl⟩ := Prod.mk.inj (Option.some.inj hsome)
        exact Or.inr ⟨rfl, hrow⟩
      | some row => exact absurd h (by simp [respond, noteAnswer, hrow])
  | _ => exact Or.inl h

/-- What is noted stays true while others are answered. -/
theorem Tracked.other {t : Configs} {n : Note} {p : Action Response} (h : Tracked t n p)
    (n' : Note) (c : Call) (x : c.Answer) : Tracked (respond n' t c x).2 n p := by
  obtain ⟨more, hsaves, hsound⟩ := saves_respond n' t c x
  refine ⟨hsound h.sound, h.asks, fun orgID mark hmissing => ?_⟩
  obtain ⟨hmark, hunsaved⟩ := h.unsaved orgID mark hmissing
  rw [hsaves, List.take_append_of_le_length hmark, List.length_append]
  exact ⟨Nat.le_add_right_of_le hmark, hunsaved⟩

/-- A request's own answers keep it as well. -/
theorem Tracked.own {t : Configs} {n : Note} {c : Call} {k : c.Answer → Action Response}
    (h : Tracked t n (.call c k)) (x : c.Answer) :
    Tracked (respond n t c x).2 (noteAnswer n t c (respond n t c x).1) (k (respond n t c x).1) := by
  obtain ⟨more, hsaves, hsound⟩ := saves_respond n t c x
  refine ⟨hsound h.sound, fun hgen => ?_, fun orgID mark hmissing => ?_⟩
  · rw [request_noteAnswer] at hgen
    rw [missing_noteAnswer]
    exact (h.asks hgen).2 _
  · rcases noteAnswer_missing hmissing with hbefore | ⟨rfl, hrow⟩
    · obtain ⟨hmark, hunsaved⟩ := h.unsaved orgID mark hbefore
      rw [hsaves, List.take_append_of_le_length hmark, List.length_append]
      exact ⟨Nat.le_add_right_of_le hmark, hunsaved⟩
    · rw [hsaves, List.take_left', List.length_append]
      · exact ⟨Nat.le_add_right _ _, fun save hsave heq => h.sound save hsave (heq ▸ hrow)⟩
      · rfl

section
variable {parseDuration : String → Except String Int} {s s' : State} {l : Label}

/-- What holds of every run. -/
structure Invariant (s : State) : Prop where
  sound : Sound s.store
  each : Shared.Each Tracked s

theorem invariant_init : Invariant init :=
  ⟨fun _ h => absurd h List.not_mem_nil, fun _ _ h => absurd h List.not_mem_nil⟩

theorem invariant_step (hs : Invariant s) (h : step parseDuration s l = some s') :
    Invariant s' := by
  refine ⟨?_, hs.each.step h (fun r => ⟨hs.sound, asks_generates parseDuration, ?_⟩)
    (fun n c k x hn => hn.own x) fun n c k x n' p' _ hn' => hn'.other n c x⟩
  · rcases Shared.step_cases h with ⟨r, -, rfl⟩ | ⟨i, x, n, c, k, -, hi, rfl⟩
    · exact hs.sound
    · obtain ⟨-, -, hsound⟩ := saves_respond n s.store c (x c)
      exact hsound hs.sound
  · exact fun orgID mark hmissing => by cases hmissing

/-! ## The law over runs -/

theorem owed_eq_none {t : Configs} {orgID : String} :
    t.owed orgID = none ↔ ∀ save ∈ t.saves, save.1 ≠ orgID := by
  unfold Configs.owed
  rw [Option.map_eq_none_iff, Table.latest_eq_none]
  simp only [decide_eq_true_eq, ne_eq]

/-- A save by a user or by bootstrap keeps the law. -/
theorem kept_saved {t : Configs} (ht : Kept t) (orgID : String) (cfg : StartRequest) :
    Kept ⟨Function.update t.rows orgID (some ⟨cfg, false⟩), t.saves ++ [(orgID, cfg)]⟩ := by
  intro id cfg' howed
  unfold Configs.owed at howed
  rw [Table.latest_append] at howed
  by_cases hid : orgID = id
  · subst hid
    rw [if_pos (decide_eq_true rfl)] at howed
    obtain rfl := Option.some.inj howed
    show Function.update t.rows orgID _ orgID = _
    rw [Function.update_self]
  · have hne : ¬ decide (orgID = id) = true := by rwa [decide_eq_true_eq]
    rw [if_neg hne] at howed
    show Function.update t.rows orgID _ id = _
    rw [Function.update_of_ne (Ne.symm hid)]
    exact ht id cfg' howed

/-- A generated configuration keeps it exactly if none was saved for the organisation. -/
theorem kept_generated_iff {t : Configs} (ht : Kept t) (orgID : String) (cfg : StartRequest) :
    Kept { t with rows := Function.update t.rows orgID (some ⟨cfg, true⟩) } ↔
      ∀ save ∈ t.saves, save.1 ≠ orgID := by
  rw [← owed_eq_none]
  constructor
  · intro h
    cases howed : t.owed orgID with
    | none => rfl
    | some owed =>
      have hrow : Function.update t.rows orgID (some ⟨cfg, true⟩) orgID = some ⟨owed, false⟩ :=
        h orgID owed howed
      rw [Function.update_self] at hrow
      cases hrow
  · intro hnone id cfg' howed
    have hid : id ≠ orgID := by
      rintro rfl
      exact absurd (howed.symm.trans hnone) (by simp)
    show Function.update t.rows orgID _ id = _
    rw [Function.update_of_ne hid]
    exact ht id cfg' howed

/-- Only the save of a generated configuration can be untimely. -/
theorem timely_answer_iff {i : Nat} {x : (c : Call) → c.Answer} {n : Note} {orgID : String}
    {cfg : StartRequest} {k : Option String → Action Response}
    (hi : s.running[i]? = some (n, .call (.saveOrgConfig orgID cfg) k)) :
    Timely s (.answer i x) ↔ (n.request.generates = true →
      (x (.saveOrgConfig orgID cfg) : Option String) = none →
      ∀ mark, n.missing = some (orgID, mark) → ∀ save ∈ s.store.saves.drop mark, save.1 ≠ orgID) := by
  constructor
  · exact fun h => h n orgID cfg k hi
  · intro h n' orgID' cfg' k' hi'
    obtain ⟨rfl, hcall⟩ := Prod.mk.inj (Option.some.inj (hi.symm.trans hi'))
    cases hcall
    exact h

/-- A step keeps the law exactly if it is timely. -/
theorem kept_step (hs : Invariant s) (hkept : Kept s.store)
    (h : step parseDuration s l = some s') : Kept s'.store ↔ Timely s l := by
  rcases Shared.step_cases h with ⟨r, rfl, rfl⟩ | ⟨i, x, n, c, k, rfl, hi, rfl⟩
  · exact iff_of_true hkept trivial
  · show Kept (respond n s.store c (x c)).2 ↔ _
    by_cases hsave : ∃ orgID cfg, c = .saveOrgConfig orgID cfg
    · obtain ⟨orgID, cfg, rfl⟩ := hsave
      rw [timely_answer_iff hi]
      cases hx : (x (.saveOrgConfig orgID cfg) : Option String) with
      | some e => exact iff_of_true hkept fun _ hnone => by cases hnone
      | none =>
        cases hgen : n.request.generates with
        | false =>
          rw [respond_saved hgen]
          exact iff_of_true (kept_saved hkept orgID (stored cfg)) fun htrue => by cases htrue
        | true =>
          -- the generated configuration is for the tenant noted as missing
          have htracked := hs.each n _ (List.mem_of_getElem? hi)
          obtain ⟨mark, hmissing⟩ : ∃ mark, n.missing = some (orgID, mark) := by
            rcases (htracked.asks hgen).1 with ⟨hmissing, -⟩ | ⟨sim, hlaunch⟩
            · obtain ⟨⟨id, mark⟩, hn, rfl⟩ := Option.map_eq_some_iff.mp hmissing
              exact ⟨mark, hn⟩
            · cases hlaunch
          obtain ⟨-, hbefore⟩ := htracked.unsaved orgID mark hmissing
          rw [respond_generated hgen, kept_generated_iff hkept]
          constructor
          · intro hnone _ _ mark' _ save hmem
            exact hnone save (List.mem_of_mem_drop hmem)
          · intro hsince save hmem
            rw [← List.take_append_drop mark s.store.saves] at hmem
            rcases List.mem_append.mp hmem with hmem | hmem
            · exact hbefore save hmem
            · exact hsince rfl rfl mark hmissing save hmem
    · have hother : ∀ orgID cfg, c ≠ .saveOrgConfig orgID cfg :=
        fun orgID cfg hc => hsave ⟨orgID, cfg, hc⟩
      rw [respond_unchanged hother]
      refine iff_of_true hkept fun n' orgID cfg k' hi' => ?_
      obtain ⟨-, hcall⟩ := Prod.mk.inj (Option.some.inj (hi.symm.trans hi'))
      cases hcall
      exact absurd rfl (hother orgID cfg)

end

theorem kept_init : Kept init.store := fun _ _ h => by cases h

/-- **Filling in never overwrites** in a run exactly if no generated configuration is saved for an
    organisation that another one was saved for since it was read as missing. -/
theorem kept_throughout_iff (parseDuration : String → Except String Int) {ls : List Label} {s : State}
    (hrun : exec (step parseDuration) init ls = some s) :
    Throughout (step parseDuration) (fun s => Kept s.store) init ls ↔
      Always (step parseDuration) Timely init ls :=
  throughout_iff_always (fun _ _ _ hs ht => invariant_step hs ht)
    (fun _ _ _ hs hkept ht => kept_step hs hkept ht) invariant_init kept_init hrun

/-! ## A listing and a save -/

/-- A tenant of which nothing more is known. -/
def oneTenant : (r : RPC) → r.Answer
  | .listTenants _ => .ok [⟨"acme", "Acme"⟩]
  | r => r.unavailable

/-- The configuration a user saves for it. -/
def userConfig : StartRequest := { StartRequest.empty with payload := "0a" }

/-- The user's request, and its only call. -/
def userSaves (i : Nat) : List Label :=
  [.enter (.saveOrgConfig "acme" (.ok userConfig)), .answer i (Call.answer oneTenant)]

/-- The next call of the `i`-th request is answered. -/
def goesOn (i : Nat) : Label := .answer i (Call.answer oneTenant)

/-- A listing up to the read of the tenant's configuration. -/
def listingReads : List Label :=
  [.enter (.listOrganizations .get), goesOn 0, goesOn 0, goesOn 0, goesOn 0]

/-- It goes on: the applications, and the save of the generated configuration. -/
def listingSaves : List Label := [goesOn 0, goesOn 0]

/-- As long as nothing was saved every step is timely. -/
theorem timely_of_noSaves {s : State} (h : s.store.saves = []) (l : Label) : Timely s l := by
  cases l with
  | enter r => trivial
  | answer i x =>
    intro n orgID cfg k _ _ _ mark _ save hmem
    rw [h, List.drop_nil] at hmem
    cases hmem

/-- A save after the listing's is kept. -/
theorem kept_afterListing : Throughout (step someDurations) (fun s => Kept s.store) init
    (listingReads ++ listingSaves ++ userSaves 1) := by
  refine (kept_throughout_iff someDurations rfl).mpr ?_
  iterate 9
    refine ⟨timely_of_noSaves rfl _, fun s hs => ?_⟩
    obtain rfl := Option.some.inj hs
  trivial

/-- A save between the listing's read and its save is lost. -/
theorem lost_between : ∃ s, exec (step someDurations) init
    (listingReads ++ userSaves 1 ++ listingSaves) = some s ∧
      s.store.owed "acme" = some userConfig ∧
      (s.store.rows "acme").map Row.generated = some true ∧
      ¬ Throughout (step someDurations) (fun s => Kept s.store) init
        (listingReads ++ userSaves 1 ++ listingSaves) := by
  refine ⟨_, rfl, rfl, rfl, fun h => ?_⟩
  have hkept := h.last rfl "acme" userConfig rfl
  exact absurd (congrArg (Option.map Row.generated) hkept) (by decide)

end ChirpStackSimulator.MissingConfigs
