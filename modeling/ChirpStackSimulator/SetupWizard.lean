/-
  The setup wizard of the browser (`bootstrap-wizard.js`) in front of `handleBootstrap`.

  Four panes collect names and counts, the fifth lists the devices of an application with a profile
  and an interval for each, and the confirm button there sends what the panes hold.  A field is looked
  at when its pane is left with the next button, and not again when the request is built.

  1. **Panes** — the fields, what the next button checks, and the rows of the summary.
  2. **Steps** — clicks, edits of what the current pane shows, and answers, in any order: the previous
     button can be used while a request is under way.
  3. **What is sent** (`requests_match`) — the server refuses none of the requests, selects for every
     device the profile and the interval of its row, creates the device with that profile if it is not
     there and saves no other interval for it.  A device that is there already keeps its profile.

  The texts of the wizard, its focus and the lists fetched after a success are left out; the modal may
  be hidden or shown, no step asks.
-/
import ChirpStackSimulator.Bootstrap
import ChirpStackSimulator.Lib.JsText
import ChirpStackSimulator.Lib.Objects
import ChirpStackSimulator.Lib.Panes
import ChirpStackSimulator.Lib.Run
import ChirpStackSimulator.Lib.Table

namespace ChirpStackSimulator.SetupWizard

open Transition JsText Panes Objects
open Bootstrap (BootstrapRequest BootstrapDeviceConfig refusal devSettings bootstrapDevice replaceKeys
  devEUIOf)

/-! ## Panes -/

/-- The fields of the first four panes. -/
structure Fields where
  orgName : String
  scenario : String
  appPrefix : String
  appCount : String
  dpPrefix : String
  dpCount : String
  devPrefix : String
  devCount : String
  deriving DecidableEq

/-- `parseInt(value, 10) || 0`. -/
def countOf (value : String) : Int := (parseInt value).getD 0

/-- `!(isNaN(cnt) || cnt < 1 || cnt > max)`. -/
def countOk (value : String) (max : Int) : Prop := ∃ cnt ∈ parseInt value, 1 ≤ cnt ∧ cnt ≤ max

instance (value : String) (max : Int) : Decidable (countOk value max) := by
  unfold countOk
  infer_instance

/-- What the next button asks of a pane. -/
def paneOk (pane : Nat) (f : Fields) : Prop :=
  match pane with
  | 1 => trim f.orgName ≠ ""
  | 2 => trim f.appPrefix ≠ "" ∧ countOk f.appCount 50
  | 3 => trim f.dpPrefix ≠ "" ∧ countOk f.dpCount 50
  | 4 => trim f.devPrefix ≠ "" ∧ countOk f.devCount 100
  | _ => True

instance (pane : Nat) (f : Fields) : Decidable (paneOk pane f) := by
  unfold paneOk
  split <;> infer_instance

/-- A row of the summary: its slot, the profile chosen and the interval. -/
structure Row where
  slot : Nat
  profile : Nat
  interval : String
  deriving DecidableEq

/-- The values of the interval options. -/
def intervalsList : List String := ["1m", "2m", "4m", "5m", "10m"]

/-- The row of a slot as it is drawn; a select without options has no value. -/
def newRow (dpCount : Nat) (sIdx : Nat) : Row where
  slot := sIdx
  profile := if dpCount = 0 then 0 else (sIdx - 1) % dpCount + 1
  interval := "2m"

/-- The rows of the summary. -/
def newRows (f : Fields) : List Row :=
  (List.range' 1 (countOf f.devCount).toNat).map (newRow (countOf f.dpCount).toNat)

/-! ## Steps -/

/-- A request with the rows that were shown when it was sent. -/
structure Sent where
  request : BootstrapRequest
  rows : List Row
  deriving DecidableEq

/-- The wizard; `unanswered` counts the requests under way, `sent` is the history. -/
structure State where
  wizardCurrentStep : Nat
  fields : Fields
  rows : List Row
  /-- How many profiles the selects of the rows offer. -/
  dpOptions : Nat
  nextDisabled : Bool
  unanswered : Nat
  sent : List Sent
  deriving DecidableEq

/-- The fields of the page and of `showBootstrapWizard`. -/
def defaults : Fields := ⟨"", "default", "ag", "5", "profile", "5", "device", "5"⟩

/-- The page when it has been loaded. -/
def init : State := ⟨1, defaults, [], 0, false, 0, []⟩

/-- An input of the user. -/
inductive Edit where
  | orgName (value : String)
  | scenario (value : String)
  | appPrefix (value : String)
  | appCount (value : String)
  | dpPrefix (value : String)
  | dpCount (value : String)
  | devPrefix (value : String)
  | devCount (value : String)
  /-- The profile of the `i`-th row. -/
  | profile (i : Nat) (option : Nat)
  | interval (i : Nat) (option : String)

/-- The pane that shows the field. -/
def Edit.pane : Edit → Nat
  | .orgName _ | .scenario _ => 1
  | .appPrefix _ | .appCount _ => 2
  | .dpPrefix _ | .dpCount _ => 3
  | .devPrefix _ | .devCount _ => 4
  | .profile _ _ | .interval _ _ => 5

inductive Label where
  | showBootstrapWizard
  | edit (e : Edit)
  | prev
  | next
  | answered (ok : Bool)

namespace State

/-- `renderBootstrapStep`. -/
def render (s : State) : State :=
  if s.wizardCurrentStep = 5 then
    { s with
      rows := newRows s.fields
      dpOptions := (countOf s.fields.dpCount).toNat
      nextDisabled := false }
  else { s with nextDisabled := false }

/-- The request of `submitBootstrap`. -/
def payload (s : State) : BootstrapRequest where
  orgName := trim s.fields.orgName
  appPrefix := trim s.fields.appPrefix
  appCount := countOf s.fields.appCount
  dpPrefix := trim s.fields.dpPrefix
  dpCount := countOf s.fields.dpCount
  devPrefix := trim s.fields.devPrefix
  devCount := countOf s.fields.devCount
  devicesConfig := s.rows.map fun row => ⟨row.slot, row.interval, row.profile⟩
  scenario := s.fields.scenario

/-- `nextBootstrapStep`. -/
def next (s : State) : State :=
  if s.wizardCurrentStep = 6 then s
  else if s.wizardCurrentStep = 5 then
    { s with
      nextDisabled := true
      unanswered := s.unanswered + 1
      sent := s.sent ++ [⟨s.payload, s.rows⟩] }
  else if paneOk s.wizardCurrentStep s.fields then
    { s with wizardCurrentStep := s.wizardCurrentStep + 1 }.render
  else s

/-- A field takes the value; a select takes only what it offers. -/
def apply (s : State) : Edit → Option State
  | .orgName v => some { s with fields := { s.fields with orgName := v } }
  | .scenario v =>
    some { s with
      fields := { s.fields with
        scenario := v
        orgName := if v = "batman_oil" then "Raman-Petrol" else "" } }
  | .appPrefix v => some { s with fields := { s.fields with appPrefix := v } }
  | .appCount v => some { s with fields := { s.fields with appCount := v } }
  | .dpPrefix v => some { s with fields := { s.fields with dpPrefix := v } }
  | .dpCount v => some { s with fields := { s.fields with dpCount := v } }
  | .devPrefix v => some { s with fields := { s.fields with devPrefix := v } }
  | .devCount v => some { s with fields := { s.fields with devCount := v } }
  | .profile i option =>
    if 1 ≤ option ∧ option ≤ s.dpOptions then
      some { s with rows := s.rows.modify i fun row => { row with profile := option } }
    else none
  | .interval i option =>
    if option ∈ intervalsList then
      some { s with rows := s.rows.modify i fun row => { row with interval := option } }
    else none

end State

def step (s : State) : Label → Option State
  | .showBootstrapWizard =>
    some { s with
      wizardCurrentStep := 1
      fields := defaults
      nextDisabled := false }
  | .edit e => if e.pane = s.wizardCurrentStep then s.apply e else none
  | .prev =>
    -- the button is not shown on the first and the last pane
    if s.wizardCurrentStep = 1 ∨ s.wizardCurrentStep = 6 then none
    else some { s with wizardCurrentStep := s.wizardCurrentStep - 1 }.render
  | .next => if s.nextDisabled then none else some s.next
  | .answered ok =>
    if s.unanswered = 0 then none
    else if ok then
      some { s with wizardCurrentStep := 6, unanswered := s.unanswered - 1 }.render
    else some { s with nextDisabled := false, unanswered := s.unanswered - 1 }

/-- What a step can do, with its guards. -/
inductive Steps (s : State) : Label → State → Prop where
  | showBootstrapWizard :
    Steps s .showBootstrapWizard
      { s with
        wizardCurrentStep := 1
        fields := defaults
        nextDisabled := false }
  | edit (e : Edit) (t : State) (hpane : e.pane = s.wizardCurrentStep) (happly : s.apply e = some t) :
    Steps s (.edit e) t
  | prev (hfirst : s.wizardCurrentStep ≠ 1) (hlast : s.wizardCurrentStep ≠ 6) :
    Steps s .prev { s with wizardCurrentStep := s.wizardCurrentStep - 1 }.render
  | next (henabled : s.nextDisabled = false) : Steps s .next s.next
  | success (hunder : s.unanswered ≠ 0) :
    Steps s (.answered true)
      { s with wizardCurrentStep := 6, unanswered := s.unanswered - 1 }.render
  | failure (hunder : s.unanswered ≠ 0) :
    Steps s (.answered false) { s with nextDisabled := false, unanswered := s.unanswered - 1 }

/-- **What a step can do.** -/
theorem step_cases {s t : State} {a : Label} (h : step s a = some t) : Steps s a t := by
  cases a with
  | showBootstrapWizard =>
    obtain rfl := Option.some.inj h
    exact .showBootstrapWizard
  | edit e =>
    rw [step, Option.ite_none_right_eq_some] at h
    exact .edit e t h.1 h.2
  | prev =>
    simp only [step] at h
    split at h
    · cases h
    · rename_i hpane
      obtain rfl := Option.some.inj h
      exact .prev (fun h1 => hpane (.inl h1)) fun h6 => hpane (.inr h6)
  | next =>
    simp only [step] at h
    split at h
    · cases h
    · rename_i henabled
      obtain rfl := Option.some.inj h
      exact .next (Bool.eq_false_iff.mpr henabled)
  | answered ok =>
    simp only [step] at h
    split at h
    · cases h
    · rename_i hunder
      cases ok with
      | true =>
        obtain rfl := Option.some.inj h
        exact .success hunder
      | false =>
        obtain rfl := Option.some.inj h
        exact .failure hunder

/-! ## Small lemmas -/

section
variable (s : State)

@[simp] theorem render_wizardCurrentStep : s.render.wizardCurrentStep = s.wizardCurrentStep := by
  unfold State.render
  split <;> rfl

@[simp] theorem render_fields : s.render.fields = s.fields := by
  unfold State.render
  split <;> rfl

@[simp] theorem render_sent : s.render.sent = s.sent := by
  unfold State.render
  split <;> rfl

end

theorem countOk_countOf {value : String} {max : Int} (h : countOk value max) :
    1 ≤ countOf value ∧ countOf value ≤ max := by
  obtain ⟨cnt, hcnt, hrange⟩ := h
  rw [Option.mem_def] at hcnt
  rw [countOf, hcnt]
  exact hrange

/-- An edit changes only the fields of its pane, the rows only on the fifth. -/
theorem apply_frame {s t : State} {e : Edit} (h : s.apply e = some t) :
    t.wizardCurrentStep = s.wizardCurrentStep ∧ t.sent = s.sent ∧ t.dpOptions = s.dpOptions ∧
      (∀ p, p ≠ e.pane → (paneOk p s.fields → paneOk p t.fields)) ∧
      (e.pane = 5 → t.fields = s.fields) := by
  cases e with
  | profile i option =>
    rw [State.apply, Option.ite_none_right_eq_some] at h
    obtain rfl := Option.some.inj h.2
    exact ⟨rfl, rfl, rfl, fun _ _ hp => hp, fun _ => rfl⟩
  | interval i option =>
    rw [State.apply, Option.ite_none_right_eq_some] at h
    obtain rfl := Option.some.inj h.2
    exact ⟨rfl, rfl, rfl, fun _ _ hp => hp, fun _ => rfl⟩
  | _ =>
    obtain rfl := Option.some.inj h
    refine ⟨rfl, rfl, rfl, fun p hp => ?_, fun h5 => by cases h5⟩
    match p with
    | 0 => exact fun _ => trivial
    | 1 => first | exact absurd rfl hp | exact id
    | 2 => first | exact absurd rfl hp | exact id
    | 3 => first | exact absurd rfl hp | exact id
    | 4 => first | exact absurd rfl hp | exact id
    | _ + 5 => exact fun _ => trivial

/-! ## The rows -/

/-- The rows are those of the fields: one for each device, each with an option of its two selects. -/
structure Drawn (f : Fields) (dpOptions : Nat) (rows : List Row) : Prop where
  options : dpOptions = (countOf f.dpCount).toNat
  slots : rows.map Row.slot = List.range' 1 (countOf f.devCount).toNat
  profiles : dpOptions ≠ 0 → ∀ row ∈ rows, 1 ≤ row.profile ∧ row.profile ≤ dpOptions
  intervals : ∀ row ∈ rows, row.interval ∈ intervalsList

theorem newRows_drawn (f : Fields) : Drawn f (countOf f.dpCount).toNat (newRows f) where
  options := rfl
  slots := by
    rw [newRows, List.map_map]
    exact List.map_id _
  profiles hne row hrow := by
    obtain ⟨sIdx, -, rfl⟩ := List.mem_map.mp hrow
    have hlt : (sIdx - 1) % (countOf f.dpCount).toNat < (countOf f.dpCount).toNat :=
      Nat.mod_lt _ (by omega)
    simp only [newRow, if_neg hne]
    omega
  intervals row hrow := by
    obtain ⟨sIdx, -, rfl⟩ := List.mem_map.mp hrow
    show "2m" ∈ intervalsList
    decide

/-- A row that is changed in its selects only. -/
theorem Drawn.modify {f : Fields} {dpOptions i : Nat} {rows : List Row} {g : Row → Row}
    (h : Drawn f dpOptions rows) (hslot : ∀ row, (g row).slot = row.slot)
    (hprofile : ∀ row, 1 ≤ row.profile ∧ row.profile ≤ dpOptions →
      1 ≤ (g row).profile ∧ (g row).profile ≤ dpOptions)
    (hinterval : ∀ row, row.interval ∈ intervalsList → (g row).interval ∈ intervalsList) :
    Drawn f dpOptions (rows.modify i g) where
  options := h.options
  slots := by
    rw [map_modify hslot]
    exact h.slots
  profiles hne row hrow := by
    obtain hold | ⟨old, hold, rfl⟩ := mem_of_mem_modify hrow
    · exact h.profiles hne row hold
    · exact hprofile old (h.profiles hne old hold)
  intervals row hrow := by
    obtain hold | ⟨old, hold, rfl⟩ := mem_of_mem_modify hrow
    · exact h.intervals row hold
    · exact hinterval old (h.intervals old hold)

/-- An edit of the fifth pane leaves the rows drawn. -/
theorem Drawn.apply {s t : State} {e : Edit} (h : Drawn s.fields s.dpOptions s.rows)
    (he : e.pane = 5) (happly : s.apply e = some t) : Drawn t.fields t.dpOptions t.rows := by
  cases e with
  | profile i option =>
    rw [State.apply, Option.ite_none_right_eq_some] at happly
    obtain ⟨hoption, happly⟩ := happly
    obtain rfl := Option.some.inj happly
    exact h.modify (fun _ => rfl) (fun _ _ => hoption) fun _ hrow => hrow
  | interval i option =>
    rw [State.apply, Option.ite_none_right_eq_some] at happly
    obtain ⟨hoption, happly⟩ := happly
    obtain rfl := Option.some.inj happly
    exact h.modify (fun _ => rfl) (fun _ hrow => hrow) fun _ _ => hoption
  | _ => cases he

/-! ## What is sent -/

/-- A device is created with no other profile, and no other interval is saved. -/
def Gives (dpID interval : String) : Call → Prop
  | .rpc (.createDevice device) => device.deviceProfileID = dpID
  | .saveDeviceInterval _ text => text = interval
  | _ => True

/-- The calls of the handler for a device give it what `devSettings` selects. -/
theorem gives_bootstrapDevice (req : BootstrapRequest) (app appID : String) (dpIDs : List String)
    (existing : List DeviceListItem) (j : Nat) :
    (bootstrapDevice req app appID dpIDs existing j).Keeps (fun _ _ => True)
      (Gives (devSettings req dpIDs j).1 (devSettings req dpIDs j).2) fun _ => True := by
  have hkeys : ∀ name devEUI appKey, (replaceKeys name devEUI appKey (devSettings req dpIDs j).2).Keeps
      (fun _ _ => True) (Gives (devSettings req dpIDs j).1 (devSettings req dpIDs j).2)
      fun _ => True := by
    intro name devEUI appKey
    refine Prog.Keeps.ask_bind trivial fun _ _ => Prog.Keeps.ask_bind trivial fun x _ => ?_
    cases x with
    | some e => trivial
    | none => exact Prog.Keeps.ask_bind rfl fun _ _ => trivial
  have hEUI : ∀ name, (devEUIOf existing name).Keeps (fun _ _ => True)
      (Gives (devSettings req dpIDs j).1 (devSettings req dpIDs j).2) fun _ => True := by
    intro name
    unfold devEUIOf
    split
    · trivial
    · refine Prog.Keeps.ask_bind trivial fun x _ => ?_
      cases x <;> trivial
  refine (hEUI _).bind fun x _ => ?_
  cases x with
  | error e => trivial
  | ok devEUI =>
    refine Prog.Keeps.ask_bind trivial fun x _ => ?_
    cases x with
    | error e => trivial
    | ok bytes =>
      dsimp only
      split
      · exact hkeys _ _ _
      · refine Prog.Keeps.ask_bind rfl fun x _ => ?_
        cases x with
        | some e => trivial
        | none => exact hkeys _ _ _

/-- What a request has to be for its rows: the server takes it, and whatever ids the profiles have got,
    the handler selects for every device what its row says, creates the device with that profile if
    it is not there, and saves no other interval for it. -/
structure Sent.Matches (x : Sent) : Prop where
  accepted : refusal x.request = none
  appCount : x.request.appCount ≤ 50
  dpCount : x.request.dpCount ≤ 50
  devCount : x.request.devCount ≤ 100
  slots : x.rows.map Row.slot = List.range' 1 x.request.devCount.toNat
  profiles : ∀ row ∈ x.rows, 1 ≤ row.profile ∧ (row.profile : Int) ≤ x.request.dpCount
  intervals : ∀ row ∈ x.rows, row.interval ∈ intervalsList
  settings : ∀ row ∈ x.rows, ∀ dpIDs : List String, (dpIDs.length : Int) = x.request.dpCount →
    devSettings x.request dpIDs row.slot = (dpIDs.getD (row.profile - 1) "", row.interval)
  calls : ∀ row ∈ x.rows, ∀ dpIDs : List String, (dpIDs.length : Int) = x.request.dpCount →
    ∀ app appID existing, (bootstrapDevice x.request app appID dpIDs existing row.slot).Keeps
      (fun _ _ => True) (Gives (dpIDs.getD (row.profile - 1) "") row.interval) fun _ => True

/-- The server finds the entry of the row for its device. -/
theorem devSettings_of_row {s : State} (hdrawn : Drawn s.fields s.dpOptions s.rows) {row : Row}
    (hrow : row ∈ s.rows) (dpIDs : List String) (hprofile : 1 ≤ row.profile)
    (hle : row.profile ≤ dpIDs.length) :
    devSettings s.payload dpIDs row.slot = (dpIDs.getD (row.profile - 1) "", row.interval) := by
  have hkeys : s.payload.devicesConfig.map BootstrapDeviceConfig.deviceIndex =
      (s.rows.map Row.slot).map ((↑) : Nat → Int) := by
    simp [State.payload, List.map_map, Function.comp_def]
  have hnodup : (s.payload.devicesConfig.map BootstrapDeviceConfig.deviceIndex).Nodup := by
    rw [hkeys, hdrawn.slots]
    exact (List.nodup_range' 1).map fun a b hab => Int.ofNat.inj hab
  have hentry : (⟨row.slot, row.interval, row.profile⟩ : BootstrapDeviceConfig) ∈
      s.payload.devicesConfig :=
    List.mem_map.mpr ⟨row, hrow, rfl⟩
  have hfind : s.payload.devicesConfig.find?
      (fun dCfg => dCfg.deviceIndex = ((row.slot : Nat) : Int)) =
        some ⟨row.slot, row.interval, row.profile⟩ :=
    Table.find_of_mem hnodup hentry
  have hinterval : row.interval ≠ "" := by
    have hmem := hdrawn.intervals row hrow
    intro hempty
    rw [hempty] at hmem
    revert hmem
    decide
  have hindex : ((row.profile : Int) - 1).toNat = row.profile - 1 := by omega
  have hrange : 1 ≤ (row.profile : Int) ∧ (row.profile : Int) ≤ dpIDs.length := by omega
  rw [devSettings, hfind]
  simp only [if_pos hrange, if_pos hinterval, hindex]

/-- A request of the fifth pane. -/
theorem payload_matches {s : State} (hpassed : Passed (fun p s => paneOk p s.fields) 5 s)
    (hdrawn : Drawn s.fields s.dpOptions s.rows) : Sent.Matches ⟨s.payload, s.rows⟩ := by
  have h1 : trim s.fields.orgName ≠ "" := hpassed 1 (by omega) (by omega)
  obtain ⟨happ, happs⟩ : trim s.fields.appPrefix ≠ "" ∧ countOk s.fields.appCount 50 :=
    hpassed 2 (by omega) (by omega)
  obtain ⟨hdp, hdps⟩ : trim s.fields.dpPrefix ≠ "" ∧ countOk s.fields.dpCount 50 :=
    hpassed 3 (by omega) (by omega)
  obtain ⟨hdev, hdevs⟩ : trim s.fields.devPrefix ≠ "" ∧ countOk s.fields.devCount 100 :=
    hpassed 4 (by omega) (by omega)
  have hA := countOk_countOf happs
  have hP := countOk_countOf hdps
  have hD := countOk_countOf hdevs
  have hoptions := hdrawn.options
  have hchosen : ∀ row ∈ s.rows, 1 ≤ row.profile ∧ row.profile ≤ s.dpOptions :=
    hdrawn.profiles (by omega)
  have hsettings : ∀ row ∈ s.rows, ∀ dpIDs : List String,
      (dpIDs.length : Int) = countOf s.fields.dpCount →
        devSettings s.payload dpIDs row.slot = (dpIDs.getD (row.profile - 1) "", row.interval) := by
    intro row hrow dpIDs hlength
    have hrange := hchosen row hrow
    exact devSettings_of_row hdrawn hrow dpIDs hrange.1 (by omega)
  refine ⟨?_, hA.2, hP.2, hD.2, hdrawn.slots, fun row hrow => ?_, hdrawn.intervals, hsettings,
    fun row hrow dpIDs hlength app appID existing => ?_⟩
  · have hA1 : ¬ countOf s.fields.appCount < 1 := by omega
    have hP1 : ¬ countOf s.fields.dpCount < 1 := by omega
    have hD1 : ¬ countOf s.fields.devCount < 1 := by omega
    simp [refusal, State.payload, h1, happ, hdp, hdev, hA1, hP1, hD1]
  · have hrange := hchosen row hrow
    show 1 ≤ row.profile ∧ (row.profile : Int) ≤ countOf s.fields.dpCount
    omega
  · have hcalls := gives_bootstrapDevice s.payload app appID dpIDs existing row.slot
    rwa [hsettings row hrow dpIDs hlength] at hcalls

/-! ## The invariant -/

/-- What every state of the wizard satisfies; the last pane is reached from any of the others. -/
structure Inv (s : State) : Prop where
  first : 1 ≤ s.wizardCurrentStep
  last : s.wizardCurrentStep ≤ 6
  passed : s.wizardCurrentStep ≠ 6 →
    Passed (fun p s => paneOk p s.fields) s.wizardCurrentStep s
  drawn : s.wizardCurrentStep = 5 → Drawn s.fields s.dpOptions s.rows
  sent : ∀ x ∈ s.sent, x.Matches

theorem inv_init : Inv init where
  first := le_refl 1
  last := by decide
  passed _ := passed_first
  drawn h := by cases h
  sent x hx := by cases hx

/-- A pane comes up. -/
theorem Inv.render {s : State} (hfirst : 1 ≤ s.wizardCurrentStep) (hlast : s.wizardCurrentStep ≤ 6)
    (hpassed : s.wizardCurrentStep ≠ 6 →
      Passed (fun p s => paneOk p s.fields) s.wizardCurrentStep s)
    (hsent : ∀ x ∈ s.sent, x.Matches) : Inv s.render where
  first := by rwa [render_wizardCurrentStep]
  last := by rwa [render_wizardCurrentStep]
  passed hne p hp hlt := by
    rw [render_wizardCurrentStep] at hne hlt
    rw [render_fields]
    exact hpassed hne p hp hlt
  drawn h5 := by
    rw [render_wizardCurrentStep] at h5
    rw [State.render, if_pos h5]
    exact newRows_drawn s.fields
  sent := by rwa [render_sent]

/-- The next button. -/
theorem Inv.next {s : State} (h : Inv s) : Inv s.next := by
  unfold State.next
  split
  · exact h
  · rename_i h6
    split
    · rename_i h5
      refine ⟨h.first, h.last, h.passed, h.drawn, fun x hx => ?_⟩
      rcases List.mem_append.mp hx with hold | hnew
      · exact h.sent x hold
      · rw [List.mem_singleton.mp hnew]
        have hpassed := h.passed h6
        rw [h5] at hpassed
        exact payload_matches hpassed (h.drawn h5)
    · rename_i h5
      split
      · rename_i hok
        have hfirst := h.first
        have hlast := h.last
        refine Inv.render (by show 1 ≤ s.wizardCurrentStep + 1; omega)
          (by show s.wizardCurrentStep + 1 ≤ 6; omega) (fun _ => ?_) h.sent
        exact (h.passed h6).next hok
      · exact h

/-- **Every step keeps the invariant.** -/
theorem Inv.step {s t : State} {a : Label} (h : Inv s) (hs : step s a = some t) : Inv t := by
  cases step_cases hs with
  | showBootstrapWizard =>
    exact {
      first := le_refl 1
      last := by
        show 1 ≤ 6
        omega
      passed := fun _ => passed_first
      drawn := fun h5 => by cases h5
      sent := h.sent }
  | edit e _ hpane happly =>
    obtain ⟨hstep, hsent, -, hframe, hfields⟩ := apply_frame happly
    refine ⟨hstep ▸ h.first, hstep ▸ h.last, fun hne => ?_, fun h5 => ?_, hsent ▸ h.sent⟩
    · rw [hstep] at hne ⊢
      exact (h.passed hne).keep fun p hp => hframe p (by omega)
    · rw [hstep] at h5
      exact (h.drawn h5).apply (hpane.trans h5) happly
  | prev hfirst hlast =>
    have hge := h.first
    have hle := h.last
    refine Inv.render (by show 1 ≤ s.wizardCurrentStep - 1; omega)
      (by show s.wizardCurrentStep - 1 ≤ 6; omega) (fun _ => ?_) h.sent
    have hpassed : Passed (fun p s => paneOk p s.fields) (s.wizardCurrentStep - 1) s :=
      (h.passed hlast).prev (by omega)
    exact hpassed
  | next henabled => exact h.next
  | success hunder =>
    exact Inv.render (by show 1 ≤ 6; omega) (le_refl 6) (fun hne => absurd rfl hne) h.sent
  | failure hunder => exact ⟨h.first, h.last, h.passed, h.drawn, h.sent⟩

/-- **What is sent is what the wizard shows, and the server takes it**: in every run of clicks, edits
    and answers each request passes the checks of `handleBootstrap`, has one row for every device of an
    application, and the handler selects for the device the profile and the interval chosen there and
    creates it with no other. -/
theorem requests_match {as : List Label} {s : State} (h : exec step init as = some s) :
    ∀ x ∈ s.sent, x.Matches :=
  (exec_invariant (fun _ _ _ hinv hs => hinv.step hs) inv_init h).sent

/-- A run in which the counts are edited, and the profile of the third device. -/
def exampleRun : List Label :=
  [.edit (.orgName " Org "), .next, .edit (.appCount "2"), .next, .edit (.dpCount "2"), .next,
    .edit (.devCount "3"), .next, .edit (.profile 2 2), .next, .answered true]

theorem requests_match_oneRequest :
    ∃ s x, exec step init exampleRun = some s ∧ x ∈ s.sent ∧ x.request.devCount = 3 ∧ x.Matches := by
  have hrun : (exec step init exampleRun).isSome = true := by decide +kernel
  obtain ⟨s, hs⟩ := Option.isSome_iff_exists.mp hrun
  have hsent : (exec step init exampleRun).map (fun s => s.sent.map fun x => x.request.devCount) =
      some [3] := by
    decide +kernel
  rw [hs, Option.map_some, Option.some_inj] at hsent
  obtain ⟨x, hx, hcount⟩ : ∃ x ∈ s.sent, x.request.devCount = 3 := by
    have hmem : (3 : Int) ∈ s.sent.map fun x => x.request.devCount := by simp [hsent]
    obtain ⟨x, hx, hcount⟩ := List.mem_map.mp hmem
    exact ⟨x, hx, hcount⟩
  exact ⟨s, x, hs, hx, hcount, requests_match hs x hx⟩

end ChirpStackSimulator.SetupWizard
