/-
  The wizard of the browser that creates one device (`dev-wizard.js`).

  The first pane takes an organisation and one of its networks, the second the EUI, a name and a
  profile of the organisation, the third sends them.  The next button is disabled while the pane shown
  is incomplete; that is computed when a pane comes up and at each input.  When an answer arrives the
  button is enabled whatever pane is shown.

  1. **Selects** — what they offer, taken from the lists the page has at that moment.
  2. **Steps** — clicks, inputs, answers, and new lists of organisations, networks and profiles, in any
     order.
  3. **What is posted** (`posts_consistent`) — the network and the profile always belong to the same
     organisation; the EUI has its length, and the confirm button posts something, if every answer is
     waited for on the third pane.

  The texts of the summary and the modal itself are left out; no step asks whether it is shown.
-/
import ChirpStackSimulator.Lib.JsText
import ChirpStackSimulator.Lib.Panes
import ChirpStackSimulator.Lib.Run

namespace ChirpStackSimulator.DeviceWizard

open Transition JsText Panes

/-! ## The state -/

/-- An entry of `state.applications` or `state.dpList`. -/
structure Listed where
  id : String
  tenantID : String
  deriving DecidableEq

/-- The body of `POST /api/devices`. -/
structure CreateDeviceRequest where
  devEUI : String
  name : String
  applicationID : String
  deviceProfileID : String
  description : String
  deriving DecidableEq

/-- The page and the wizard; for the history, what was posted and every entry ever listed. -/
structure State where
  organizations : List String
  applications : List Listed
  dpList : List Listed
  devWizCurrentStep : Nat
  tenantOptions : List String
  tenant : String
  appOptions : List Listed
  app : String
  profileOptions : List Listed
  profile : String
  eui : String
  name : String
  desc : String
  nextDisabled : Bool
  unanswered : Nat
  posted : List CreateDeviceRequest
  listedApps : List Listed
  listedProfiles : List Listed
  deriving DecidableEq

/-- The page before its lists have come; the button is out of reach until the modal is shown. -/
def init : State := ⟨[], [], [], 1, [], "", [], "", [], "", "", "", "", true, 0, [], [], []⟩

/-- An input of the user. -/
inductive Edit where
  | tenant (option : String)
  | app (option : String)
  | profile (option : String)
  | eui (value : String)
  | name (value : String)
  | desc (value : String)

/-- The pane that shows the field. -/
def Edit.pane : Edit → Nat
  | .tenant _ | .app _ => 1
  | .profile _ | .eui _ | .name _ | .desc _ => 2

/-- What the user and the server may do next. -/
inductive Label where
  | organizations (listed : List String)
  | applications (listed : List Listed)
  | dpList (listed : List Listed)
  | showDevWizModal
  | edit (e : Edit)
  | prev
  | next
  | answered (ok : Bool)

/-! ## Steps -/

/-- The value of an option of the select, or of the one that asks to select. -/
def Offered (options : List Listed) (option : String) : Prop :=
  option = "" ∨ option ∈ options.map Listed.id

instance (options : List Listed) (option : String) : Decidable (Offered options option) := by
  unfold Offered
  infer_instance

namespace State

/-- What the pane shown needs. -/
def Complete (s : State) : Prop :=
  match s.devWizCurrentStep with
  | 1 => s.tenant ≠ "" ∧ s.app ≠ ""
  | 2 => length (trim s.eui) = 16 ∧ trim s.name ≠ "" ∧ s.profile ≠ ""
  | _ => True

instance (s : State) : Decidable s.Complete := by
  unfold Complete
  split <;> infer_instance

/-- `checkDevWizValidation`. -/
def check (s : State) : State := { s with nextDisabled := decide ¬ s.Complete }

/-- `onDevWizTenantChange`: without an organisation it returns before the check. -/
def onDevWizTenantChange (s : State) : State :=
  if s.tenant = "" then { s with appOptions := [], app := "", profileOptions := [], profile := "" }
  else
    { s with
      appOptions := s.applications.filter fun app => app.tenantID = s.tenant
      app := ""
      profileOptions := s.dpList.filter fun dp => dp.tenantID = s.tenant
      profile := "" }.check

/-- `showDevWizModal`. -/
def showDevWizModal (s : State) : State :=
  { { s with
        eui := ""
        name := ""
        desc := ""
        tenantOptions := s.organizations
        tenant := "" }.onDevWizTenantChange with
    devWizCurrentStep := 1 }.check

/-- An input, with the handler of its field; the description has none. -/
def apply (s : State) : Edit → Option State
  | .tenant option =>
    if option = "" ∨ option ∈ s.tenantOptions then
      some { s with tenant := option }.onDevWizTenantChange
    else none
  | .app option => if Offered s.appOptions option then some { s with app := option }.check else none
  | .profile option =>
    if Offered s.profileOptions option then some { s with profile := option }.check else none
  | .eui value => some { s with eui := value }.check
  | .name value => some { s with name := value }.check
  | .desc value => some { s with desc := value }

/-- What the fields give to post. -/
def request (s : State) : Option CreateDeviceRequest :=
  if trim s.eui = "" ∨ trim s.name = "" ∨ s.app = "" ∨ s.profile = "" then none
  else some ⟨trim s.eui, trim s.name, s.app, s.profile, trim s.desc⟩

/-- `submitDevWiz` up to the request. -/
def submit (s : State) : State :=
  match s.request with
  | none => s
  | some r =>
    { s with
      nextDisabled := true
      unanswered := s.unanswered + 1
      posted := s.posted ++ [r] }

end State

/-- One step. -/
def step (s : State) : Label → Option State
  | .organizations listed => some { s with organizations := listed }
  | .applications listed =>
    some { s with applications := listed, listedApps := s.listedApps ++ listed }
  | .dpList listed => some { s with dpList := listed, listedProfiles := s.listedProfiles ++ listed }
  | .showDevWizModal => some s.showDevWizModal
  | .edit e => if e.pane = s.devWizCurrentStep then s.apply e else none
  | .prev =>
    if 1 < s.devWizCurrentStep then
      some { s with devWizCurrentStep := s.devWizCurrentStep - 1 }.check
    else none
  | .next =>
    if s.nextDisabled then none
    else if s.devWizCurrentStep = 3 then some s.submit
    else some { s with devWizCurrentStep := s.devWizCurrentStep + 1 }.check
  | .answered _ =>
    if s.unanswered = 0 then none
    else some { s with nextDisabled := false, unanswered := s.unanswered - 1 }

/-- What a step can do, with its guards. -/
inductive Steps (s : State) : Label → State → Prop where
  | organizations (listed : List String) :
    Steps s (.organizations listed) { s with organizations := listed }
  | applications (listed : List Listed) :
    Steps s (.applications listed)
      { s with applications := listed, listedApps := s.listedApps ++ listed }
  | dpList (listed : List Listed) :
    Steps s (.dpList listed) { s with dpList := listed, listedProfiles := s.listedProfiles ++ listed }
  | showDevWizModal : Steps s .showDevWizModal s.showDevWizModal
  | tenant (option : String) (hpane : s.devWizCurrentStep = 1) :
    Steps s (.edit (.tenant option)) { s with tenant := option }.onDevWizTenantChange
  | app (option : String) (hpane : s.devWizCurrentStep = 1) (hoption : Offered s.appOptions option) :
    Steps s (.edit (.app option)) { s with app := option }.check
  | profile (option : String) (hpane : s.devWizCurrentStep = 2)
      (hoption : Offered s.profileOptions option) :
    Steps s (.edit (.profile option)) { s with profile := option }.check
  | eui (value : String) (hpane : s.devWizCurrentStep = 2) :
    Steps s (.edit (.eui value)) { s with eui := value }.check
  | name (value : String) (hpane : s.devWizCurrentStep = 2) :
    Steps s (.edit (.name value)) { s with name := value }.check
  | desc (value : String) (hpane : s.devWizCurrentStep = 2) :
    Steps s (.edit (.desc value)) { s with desc := value }
  | prev (hfirst : 1 < s.devWizCurrentStep) :
    Steps s .prev { s with devWizCurrentStep := s.devWizCurrentStep - 1 }.check
  | submit (henabled : s.nextDisabled = false) (hpane : s.devWizCurrentStep = 3) :
    Steps s .next s.submit
  | next (henabled : s.nextDisabled = false) (hpane : s.devWizCurrentStep ≠ 3) :
    Steps s .next { s with devWizCurrentStep := s.devWizCurrentStep + 1 }.check
  | answered (ok : Bool) (hunder : s.unanswered ≠ 0) :
    Steps s (.answered ok) { s with nextDisabled := false, unanswered := s.unanswered - 1 }

/-- **What a step can do.** -/
theorem step_cases {s t : State} {a : Label} (h : step s a = some t) : Steps s a t := by
  cases a with
  | organizations listed =>
    obtain rfl := Option.some.inj h
    exact .organizations listed
  | applications listed =>
    obtain rfl := Option.some.inj h
    exact .applications listed
  | dpList listed =>
    obtain rfl := Option.some.inj h
    exact .dpList listed
  | showDevWizModal =>
    obtain rfl := Option.some.inj h
    exact .showDevWizModal
  | edit e =>
    rw [step, Option.ite_none_right_eq_some] at h
    obtain ⟨hpane, h⟩ := h
    cases e with
    | tenant option =>
      rw [State.apply, Option.ite_none_right_eq_some] at h
      obtain rfl := Option.some.inj h.2
      exact .tenant option hpane.symm
    | app option =>
      rw [State.apply, Option.ite_none_right_eq_some] at h
      obtain rfl := Option.some.inj h.2
      exact .app option hpane.symm h.1
    | profile option =>
      rw [State.apply, Option.ite_none_right_eq_some] at h
      obtain rfl := Option.some.inj h.2
      exact .profile option hpane.symm h.1
    | eui value =>
      obtain rfl := Option.some.inj h
      exact .eui value hpane.symm
    | name value =>
      obtain rfl := Option.some.inj h
      exact .name value hpane.symm
    | desc value =>
      obtain rfl := Option.some.inj h
      exact .desc value hpane.symm
  | prev =>
    rw [step, Option.ite_none_right_eq_some] at h
    obtain rfl := Option.some.inj h.2
    exact .prev h.1
  | next =>
    simp only [step] at h
    split at h
    · cases h
    · rename_i henabled
      split at h
      · rename_i hpane
        obtain rfl := Option.some.inj h
        exact .submit (Bool.eq_false_iff.mpr henabled) hpane
      · rename_i hpane
        obtain rfl := Option.some.inj h
        exact .next (Bool.eq_false_iff.mpr henabled) hpane
  | answered ok =>
    simp only [step] at h
    split at h
    · cases h
    · rename_i hunder
      obtain rfl := Option.some.inj h
      exact .answered ok hunder

/-! ## The selects -/

/-- The value of the select is one of its options, and they are of the organisation. -/
structure Selected (tenant : String) (listed options : List Listed) (value : String) : Prop where
  offered : Offered options value
  belong : ∀ x ∈ options, x.tenantID = tenant
  listed : ∀ x ∈ options, x ∈ listed

/-- A select without options has no value. -/
theorem selected_nil (tenant : String) (listed : List Listed) : Selected tenant listed [] "" where
  offered := .inl rfl
  belong x hx := by cases hx
  listed x hx := by cases hx

/-- A select that is filled anew has the options of the organisation and no value. -/
theorem selected_filter (tenant : String) {page listed : List Listed} (h : ∀ x ∈ page, x ∈ listed) :
    Selected tenant listed (page.filter fun x => x.tenantID = tenant) "" where
  offered := .inl rfl
  belong x hx := by simpa using (List.mem_filter.mp hx).2
  listed x hx := h x (List.mem_filter.mp hx).1

/-- The user chooses what is offered. -/
theorem Selected.choose {tenant value option : String} {listed options : List Listed}
    (h : Selected tenant listed options value) (hoption : Offered options option) :
    Selected tenant listed options option :=
  ⟨hoption, h.belong, h.listed⟩

/-- More listings take no option away. -/
theorem Selected.more {tenant value : String} {listed options : List Listed}
    (h : Selected tenant listed options value) (added : List Listed) :
    Selected tenant (listed ++ added) options value :=
  ⟨h.offered, h.belong, fun x hx => List.mem_append_left added (h.listed x hx)⟩

/-- What a value that is not empty stands for. -/
theorem Selected.entry {tenant value : String} {listed options : List Listed}
    (h : Selected tenant listed options value) (hne : value ≠ "") :
    ∃ x ∈ listed, x.id = value ∧ x.tenantID = tenant := by
  obtain ⟨x, hx, rfl⟩ := List.mem_map.mp (h.offered.resolve_left hne)
  exact ⟨x, h.listed x hx, rfl, h.belong x hx⟩

/-- What is posted is whole, and its network and its profile have been listed with the same
    organisation. -/
structure Consistent (listedApps listedProfiles : List Listed) (r : CreateDeviceRequest) : Prop where
  devEUI : r.devEUI ≠ ""
  name : r.name ≠ ""
  tenant : ∃ app ∈ listedApps, ∃ dp ∈ listedProfiles, app.id = r.applicationID ∧
    dp.id = r.deviceProfileID ∧ app.tenantID = dp.tenantID

theorem Consistent.more {apps profiles : List Listed} {r : CreateDeviceRequest}
    (h : Consistent apps profiles r) (moreApps moreProfiles : List Listed) :
    Consistent (apps ++ moreApps) (profiles ++ moreProfiles) r where
  devEUI := h.devEUI
  name := h.name
  tenant := by
    obtain ⟨app, happ, dp, hdp, h⟩ := h.tenant
    exact ⟨app, List.mem_append_left _ happ, dp, List.mem_append_left _ hdp, h⟩

/-! ## The fields of any run -/

/-- What every state satisfies. -/
structure Inv (s : State) : Prop where
  apps : ∀ x ∈ s.applications, x ∈ s.listedApps
  profiles : ∀ x ∈ s.dpList, x ∈ s.listedProfiles
  app : Selected s.tenant s.listedApps s.appOptions s.app
  profile : Selected s.tenant s.listedProfiles s.profileOptions s.profile
  posted : ∀ r ∈ s.posted, Consistent s.listedApps s.listedProfiles r

theorem inv_init : Inv init where
  apps x hx := by cases hx
  profiles x hx := by cases hx
  app := selected_nil "" []
  profile := selected_nil "" []
  posted r hr := by cases hr

/-- Another organisation fills both selects anew. -/
theorem Inv.tenantChange {s : State} (h : Inv s) (tenant : String) :
    Inv { s with tenant := tenant }.onDevWizTenantChange := by
  unfold State.onDevWizTenantChange
  split
  · exact ⟨h.apps, h.profiles, selected_nil _ _, selected_nil _ _, h.posted⟩
  · exact ⟨h.apps, h.profiles, selected_filter _ h.apps, selected_filter _ h.profiles, h.posted⟩

/-- What the fields give to post. -/
theorem Inv.request {s : State} (h : Inv s) {r : CreateDeviceRequest} (hr : s.request = some r) :
    Consistent s.listedApps s.listedProfiles r := by
  simp only [State.request] at hr
  split at hr
  · cases hr
  · rename_i hne
    simp only [not_or] at hne
    obtain ⟨heui, hname, happ, hprofile⟩ := hne
    obtain rfl := Option.some.inj hr
    obtain ⟨app, hlisted, hid, htenant⟩ := h.app.entry happ
    obtain ⟨dp, hdp, hdpid, hdptenant⟩ := h.profile.entry hprofile
    exact ⟨heui, hname, app, hlisted, dp, hdp, hid, hdpid, htenant.trans hdptenant.symm⟩

/-- What is posted was selected. -/
theorem Inv.submit {s : State} (h : Inv s) : Inv s.submit := by
  unfold State.submit
  split
  · exact h
  · rename_i r hr
    refine ⟨h.apps, h.profiles, h.app, h.profile, fun r' hr' => ?_⟩
    rcases List.mem_append.mp hr' with hold | hnew
    · exact h.posted r' hold
    · rw [List.mem_singleton.mp hnew]
      exact h.request hr

/-- **One step** keeps both selects filled from the listings. -/
theorem Inv.step {s t : State} {a : Label} (h : Inv s) (hs : step s a = some t) : Inv t := by
  cases step_cases hs with
  | organizations listed => exact ⟨h.apps, h.profiles, h.app, h.profile, h.posted⟩
  | applications listed =>
    refine ⟨fun x hx => List.mem_append_right _ hx, h.profiles, h.app.more listed, h.profile,
      fun r hr => ?_⟩
    have hmore := (h.posted r hr).more listed []
    rwa [List.append_nil] at hmore
  | dpList listed =>
    refine ⟨h.apps, fun x hx => List.mem_append_right _ hx, h.app, h.profile.more listed,
      fun r hr => ?_⟩
    have hmore := (h.posted r hr).more [] listed
    rwa [List.append_nil] at hmore
  | showDevWizModal =>
    have hcleared : Inv { s with eui := "", name := "", desc := "", tenantOptions := s.organizations } :=
      ⟨h.apps, h.profiles, h.app, h.profile, h.posted⟩
    have hchanged := hcleared.tenantChange ""
    exact ⟨hchanged.apps, hchanged.profiles, hchanged.app, hchanged.profile, hchanged.posted⟩
  | tenant option hpane => exact h.tenantChange option
  | app option hpane hoption =>
    exact ⟨h.apps, h.profiles, h.app.choose hoption, h.profile, h.posted⟩
  | profile option hpane hoption =>
    exact ⟨h.apps, h.profiles, h.app, h.profile.choose hoption, h.posted⟩
  | eui value hpane => exact ⟨h.apps, h.profiles, h.app, h.profile, h.posted⟩
  | name value hpane => exact ⟨h.apps, h.profiles, h.app, h.profile, h.posted⟩
  | desc value hpane => exact ⟨h.apps, h.profiles, h.app, h.profile, h.posted⟩
  | prev hfirst => exact ⟨h.apps, h.profiles, h.app, h.profile, h.posted⟩
  | submit henabled hpane => exact h.submit
  | next henabled hpane => exact ⟨h.apps, h.profiles, h.app, h.profile, h.posted⟩
  | answered ok hunder => exact ⟨h.apps, h.profiles, h.app, h.profile, h.posted⟩

/-! ## Runs whose answers are waited for -/

/-- What the panes behind have.  Without an organisation the next button may have stayed enabled, but
    then there is no profile to go on with. -/
def paneOk (pane : Nat) (s : State) : Prop :=
  match pane with
  | 1 => s.app ≠ "" ∨ s.profileOptions = []
  | 2 => length (trim s.eui) = 16 ∧ trim s.name ≠ "" ∧ s.profile ≠ ""
  | _ => True

/-- An answer comes on the third pane. -/
def Waited (s : State) : Label → Prop
  | .answered _ => s.devWizCurrentStep = 3
  | _ => True

instance (s : State) (a : Label) : Decidable (Waited s a) := by
  unfold Waited
  split <;> infer_instance

/-- What every state satisfies in which no answer came late. -/
structure Steady (s : State) : Prop where
  inv : Inv s
  first : 1 ≤ s.devWizCurrentStep
  last : s.devWizCurrentStep ≤ 3
  passed : Passed paneOk s.devWizCurrentStep s
  enabled : s.nextDisabled = false → paneOk s.devWizCurrentStep s
  lengths : ∀ r ∈ s.posted, length r.devEUI = 16

theorem paneOk_of_complete {s : State} (h : s.Complete) : paneOk s.devWizCurrentStep s := by
  unfold State.Complete at h
  unfold paneOk
  split
  · rename_i h1
    rw [h1] at h
    exact .inl h.2
  · rename_i h2
    rw [h2] at h
    exact h
  · trivial

/-- The next button is enabled only on a pane that is filled in. -/
theorem paneOk_of_check {s : State} (h : s.check.nextDisabled = false) :
    paneOk s.devWizCurrentStep s := by
  have hcomplete : ¬ ¬ s.Complete := of_decide_eq_false h
  exact paneOk_of_complete (not_not.mp hcomplete)

/-- A state after a check. -/
theorem Steady.check {s : State} (hinv : Inv s) (hfirst : 1 ≤ s.devWizCurrentStep)
    (hlast : s.devWizCurrentStep ≤ 3) (hpassed : Passed paneOk s.devWizCurrentStep s)
    (hlengths : ∀ r ∈ s.posted, length r.devEUI = 16) : Steady s.check where
  inv := ⟨hinv.apps, hinv.profiles, hinv.app, hinv.profile, hinv.posted⟩
  first := hfirst
  last := hlast
  passed := hpassed
  enabled := paneOk_of_check
  lengths := hlengths

/-- The wizard opens on its first pane. -/
theorem steady_init : Steady init where
  inv := inv_init
  first := le_refl 1
  last := by decide
  passed := passed_first
  enabled h := by cases h
  lengths r hr := by cases hr

/-- From the third pane a whole form is posted. -/
theorem Steady.submit {s : State} (h : Steady s) (hpane : s.devWizCurrentStep = 3) :
    Steady s.submit := by
  have hpassed := h.passed
  rw [hpane] at hpassed
  obtain ⟨hlength, -⟩ : length (trim s.eui) = 16 ∧ trim s.name ≠ "" ∧ s.profile ≠ "" :=
    hpassed 2 (by omega) (by omega)
  have hinv := h.inv.submit
  unfold State.submit at hinv ⊢
  split
  · exact h
  · rename_i r hr
    rw [hr] at hinv
    refine ⟨hinv, h.first, h.last, h.passed, fun henabled => (nomatch henabled), fun r' hr' => ?_⟩
    rcases List.mem_append.mp hr' with hold | hnew
    · exact h.lengths r' hold
    · simp only [State.request] at hr
      split at hr
      · cases hr
      · obtain rfl := Option.some.inj hr
        rw [List.mem_singleton.mp hnew]
        exact hlength

/-- **A step keeps the panes behind complete**, unless it is an answer on another pane. -/
theorem Steady.step {s t : State} {a : Label} (h : Steady s) (hwaited : Waited s a)
    (hs : step s a = some t) : Steady t := by
  have hinv := h.inv.step hs
  have hfirst := h.first
  have hlast := h.last
  cases step_cases hs with
  | organizations listed => exact ⟨hinv, h.first, h.last, h.passed, h.enabled, h.lengths⟩
  | applications listed => exact ⟨hinv, h.first, h.last, h.passed, h.enabled, h.lengths⟩
  | dpList listed => exact ⟨hinv, h.first, h.last, h.passed, h.enabled, h.lengths⟩
  | showDevWizModal =>
    refine ⟨hinv, le_refl 1, ?_, passed_first, paneOk_of_check, h.lengths⟩
    show 1 ≤ 3
    omega
  | tenant option hpane =>
    have hpassed : Passed paneOk s.devWizCurrentStep { s with tenant := option }.onDevWizTenantChange := by
      rw [hpane]
      exact passed_first
    unfold State.onDevWizTenantChange at hinv hpassed ⊢
    split at hinv
    · rename_i hempty
      rw [if_pos hempty] at hpassed ⊢
      refine ⟨hinv, h.first, h.last, hpassed, fun _ => ?_, h.lengths⟩
      show paneOk s.devWizCurrentStep _
      rw [hpane]
      exact .inr rfl
    · rename_i hne
      rw [if_neg hne] at hpassed ⊢
      exact ⟨hinv, h.first, h.last, hpassed, paneOk_of_check, h.lengths⟩
  | app option hpane hoption =>
    have hpassed : Passed paneOk s.devWizCurrentStep { s with app := option } := by
      rw [hpane]
      exact passed_first
    exact ⟨hinv, h.first, h.last, hpassed, paneOk_of_check, h.lengths⟩
  | profile option hpane hoption =>
    have hpassed : Passed paneOk s.devWizCurrentStep { s with profile := option } :=
      h.passed.keep fun p hp => match p with
        | 0 => id
        | 1 => id
        | p + 2 => by omega
    exact ⟨hinv, h.first, h.last, hpassed, paneOk_of_check, h.lengths⟩
  | eui value hpane =>
    have hpassed : Passed paneOk s.devWizCurrentStep { s with eui := value } :=
      h.passed.keep fun p hp => match p with
        | 0 => id
        | 1 => id
        | p + 2 => by omega
    exact ⟨hinv, h.first, h.last, hpassed, paneOk_of_check, h.lengths⟩
  | name value hpane =>
    have hpassed : Passed paneOk s.devWizCurrentStep { s with name := value } :=
      h.passed.keep fun p hp => match p with
        | 0 => id
        | 1 => id
        | p + 2 => by omega
    exact ⟨hinv, h.first, h.last, hpassed, paneOk_of_check, h.lengths⟩
  | desc value hpane => exact ⟨hinv, h.first, h.last, h.passed, h.enabled, h.lengths⟩
  | prev hprev =>
    refine Steady.check ⟨h.inv.apps, h.inv.profiles, h.inv.app, h.inv.profile, h.inv.posted⟩
      (by show 1 ≤ s.devWizCurrentStep - 1; omega) (by show s.devWizCurrentStep - 1 ≤ 3; omega) ?_
      h.lengths
    have hpassed : Passed paneOk (s.devWizCurrentStep - 1) s := h.passed.prev (by omega)
    exact hpassed
  | submit henabled hpane => exact h.submit hpane
  | next henabled hpane =>
    refine Steady.check ⟨h.inv.apps, h.inv.profiles, h.inv.app, h.inv.profile, h.inv.posted⟩
      (by show 1 ≤ s.devWizCurrentStep + 1; omega) (by show s.devWizCurrentStep + 1 ≤ 3; omega) ?_
      h.lengths
    have hpassed : Passed paneOk (s.devWizCurrentStep + 1) s := h.passed.next (h.enabled henabled)
    exact hpassed
  | answered ok hunder =>
    refine ⟨hinv, h.first, h.last, h.passed, fun _ => ?_, h.lengths⟩
    have h3 : s.devWizCurrentStep = 3 := hwaited
    show paneOk s.devWizCurrentStep _
    rw [h3]
    trivial

/-- On the third pane there is something to post. -/
theorem Steady.request {s : State} (h : Steady s) (hpane : s.devWizCurrentStep = 3) :
    s.request.isSome = true := by
  have hpassed := h.passed
  rw [hpane] at hpassed
  obtain ⟨hlength, hname, hprofile⟩ :
      length (trim s.eui) = 16 ∧ trim s.name ≠ "" ∧ s.profile ≠ "" := hpassed 2 (by omega) (by omega)
  have heui : trim s.eui ≠ "" := by
    intro hempty
    rw [hempty, length_empty] at hlength
    omega
  have happ : s.app ≠ "" := by
    rcases (hpassed 1 (by omega) (by omega) : s.app ≠ "" ∨ s.profileOptions = []) with happ | hnone
    · exact happ
    · have hoffered := h.inv.profile.offered.resolve_left hprofile
      rw [hnone] at hoffered
      cases hoffered
  simp [State.request, heui, hname, happ, hprofile]

/-- **What the wizard posts**: in every run the EUI and the name are not empty, and the network and the
    profile were listed with one organisation, whatever lists came in between.  If every answer comes on
    the third pane, the EUI has sixteen characters as well, and the third pane always has something to
    post. -/
theorem posts_consistent {as : List Label} {s : State} (h : exec step init as = some s) :
    (∀ r ∈ s.posted, Consistent s.listedApps s.listedProfiles r) ∧
      (Always step Waited init as →
        (∀ r ∈ s.posted, length r.devEUI = 16) ∧
          (s.devWizCurrentStep = 3 → s.request.isSome = true)) := by
  refine ⟨(exec_invariant (fun _ _ _ hinv hs => hinv.step hs) inv_init h).posted, fun hwaited => ?_⟩
  have hsteady : Steady s :=
    exec_invariant_of_always (fun _ _ _ hsteady ha hs => hsteady.step ha hs) steady_init hwaited h
  exact ⟨hsteady.lengths, hsteady.request⟩

/-- A device of the organisation `t`, confirmed and created. -/
def exampleRun : List Label :=
  [.organizations ["t"], .applications [⟨"a", "t"⟩], .dpList [⟨"p", "t"⟩], .showDevWizModal,
    .edit (.tenant "t"), .edit (.app "a"), .next, .edit (.eui "0102030405060708"),
    .edit (.name "Sensor"), .edit (.profile "p"), .next, .next, .answered true]

theorem posts_consistent_oneDevice :
    ∃ s r, exec step init exampleRun = some s ∧ r ∈ s.posted ∧
      Consistent s.listedApps s.listedProfiles r ∧ length r.devEUI = 16 := by
  have hposted : (exec step init exampleRun).map (fun s => s.posted.length) = some 1 := by
    decide +kernel
  obtain ⟨s, hs, hlength⟩ := Option.map_eq_some_iff.mp hposted
  obtain ⟨r, hr⟩ : ∃ r, r ∈ s.posted := List.exists_mem_of_length_pos (by omega)
  have hwaited : Always step Waited init exampleRun := by decide +kernel
  obtain ⟨hconsistent, hsteady⟩ := posts_consistent hs
  exact ⟨s, r, hs, hr, hconsistent r hr, (hsteady hwaited).1 r hr⟩

-- an answer on the second pane enables the button in front of an EUI of three characters
example : (exec step init
    [.organizations ["t"], .applications [⟨"a", "t"⟩], .dpList [⟨"p", "t"⟩], .showDevWizModal,
      .edit (.tenant "t"), .edit (.app "a"), .next, .edit (.eui "0102030405060708"),
      .edit (.name "Sensor"), .edit (.profile "p"), .next, .next, .prev, .edit (.eui "abc"),
      .answered false, .next, .next]).map (fun s => s.posted.map CreateDeviceRequest.devEUI) =
    some ["0102030405060708", "abc"] := by
  decide +kernel

end ChirpStackSimulator.DeviceWizard
