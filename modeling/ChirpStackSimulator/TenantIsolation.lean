/-
  Whose configuration decides what a start launches (`handleStart`, `discoverAndBuildConfig`, `Start`).

  A saved configuration reaches the simulations of its own tenant only: the entries of two databases
  that differ in the tenant `A` are equal but for those of `A` (`entry_congr`).  But `Start` returns at
  the first payload it cannot decode, and nothing checks a payload before that, so a configuration
  decides about the simulations after its own as well.

  1. **The walk** — `Start`'s loop over the applications found, in two databases that differ in `A`.
     As long as `A`'s payload decodes in both or in neither they launch the same for the others
     (`walk_same`); where it decodes in one only, the other one stops at `A`'s first application
     (`walk_nil_iff`), and what is left makes the difference.  `walk_eq_iff` is both together.
  2. `isolated_iff`, and a tenant that stops the simulation of another.
-/
import ChirpStackSimulator.Discovery

namespace ChirpStackSimulator.Discovery

open Lifecycle (Status)

/-- The databases differ at most in the configuration of the tenant `A`. -/
def AgreeOff (A : String) (rows₁ rows₂ : Rows) : Prop := ∀ id, id ≠ A → rows₁ id = rows₂ id

/-- The simulations of the other tenants. -/
def others (A : String) (sims : List Simulation) : List Simulation :=
  sims.filter fun sim => sim.tenantID ≠ A

/-- An application of another tenant comes before all of `A`'s, and its payload does not decode. -/
def CutBefore (A : String) (rows : Rows) (fs : List Found) : Prop :=
  ∃ f ∈ fs.takeWhile fun f => f.tenantID ≠ A, ¬ Decodes (rows f.tenantID)

/-- Of the other tenants' applications the payload of the first does not decode, if there is one. -/
def NothingLeft (A : String) (rows : Rows) (fs : List Found) : Prop :=
  ∀ f ∈ (fs.filter fun f => f.tenantID ≠ A).head?, ¬ Decodes (rows f.tenantID)

section
variable (other : (c : Call) → c.Answer) (parseDuration : String → Except String Int)

/-! ## The walk -/

/-- The simulations launched for the applications from the number `i` on. -/
def walk (rows : Rows) (i : Nat) (fs : List Found) : List Simulation :=
  launchedFrom i (fs.map (Found.entry other rows parseDuration))

/-- The entry of an application depends on its own tenant's configuration only. -/
theorem entry_congr {rows₁ rows₂ : Rows} {f : Found} (h : rows₁ f.tenantID = rows₂ f.tenantID) :
    f.entry other rows₁ parseDuration = f.entry other rows₂ parseDuration := by
  unfold Found.entry
  rw [h]

theorem launches_entry_iff (rows : Rows) (f : Found) :
    Launches (f.entry other rows parseDuration) ↔ Decodes (rows f.tenantID) := by
  have hpayload : (f.entry other rows parseDuration).device.payload =
      savedPayload (rows f.tenantID) := by
    show (deviceConfig parseDuration f.devices (rows f.tenantID)).payload = _
    cases rows f.tenantID with
    | none => rfl
    | some cfg => rfl
  unfold Launches Decodes
  rw [hpayload]

/-- A simulation is its entry's tenant's. -/
theorem tenantID_newSimulation {i : Nat} {c : SimulatorConfig} {sim : Simulation}
    (h : newSimulation i c = .ok sim) : sim.tenantID = c.tenantID := by
  unfold newSimulation at h
  split at h
  · exact absurd h (by simp)
  · obtain rfl := Except.ok.inj h
    rfl

theorem walk_cons {rows : Rows} {f : Found} (i : Nat) (fs : List Found)
    (h : Decodes (rows f.tenantID)) :
    ∃ sim, newSimulation i (f.entry other rows parseDuration) = .ok sim ∧
      sim.tenantID = f.tenantID ∧
      walk other parseDuration rows i (f :: fs) = sim :: walk other parseDuration rows (i + 1) fs := by
  obtain ⟨sim, hsim⟩ :=
    (launches_iff i _).mp ((launches_entry_iff other parseDuration rows f).mpr h)
  refine ⟨sim, hsim, tenantID_newSimulation hsim, ?_⟩
  unfold walk
  rw [List.map_cons, launchedFrom, hsim]

theorem walk_cut {rows : Rows} {f : Found} (i : Nat) (fs : List Found)
    (h : ¬ Decodes (rows f.tenantID)) : walk other parseDuration rows i (f :: fs) = [] := by
  have herror := (not_launches_iff i _).mp (mt (launches_entry_iff other parseDuration rows f).mp h)
  unfold walk
  rw [List.map_cons, launchedFrom, herror]

section
variable {A : String} {rows rows₁ rows₂ : Rows}

theorem others_cons_self {sim : Simulation} (sims : List Simulation) (h : sim.tenantID = A) :
    others A (sim :: sims) = others A sims :=
  List.filter_cons_of_neg (by simpa using h)

theorem others_cons_of_ne {sim : Simulation} (sims : List Simulation) (h : sim.tenantID ≠ A) :
    others A (sim :: sims) = sim :: others A sims :=
  List.filter_cons_of_pos (by simpa using h)

/-- An application of another tenant: either both walks launch the same simulation and go on, or
    both are at their end. -/
theorem walk_other (hagree : AgreeOff A rows₁ rows₂) {f : Found} (hf : f.tenantID ≠ A) (i : Nat)
    (fs : List Found) (h : Decodes (rows₁ f.tenantID)) :
    others A (walk other parseDuration rows₁ i (f :: fs)) =
        others A (walk other parseDuration rows₂ i (f :: fs)) ↔
      others A (walk other parseDuration rows₁ (i + 1) fs) =
        others A (walk other parseDuration rows₂ (i + 1) fs) := by
  have h₂ : Decodes (rows₂ f.tenantID) := by rwa [← hagree f.tenantID hf]
  obtain ⟨sim₁, hsim₁, htenant, hwalk₁⟩ := walk_cons other parseDuration i fs h
  obtain ⟨sim₂, hsim₂, -, hwalk₂⟩ := walk_cons other parseDuration i fs h₂
  obtain rfl : sim₁ = sim₂ := by
    rw [entry_congr other parseDuration (hagree f.tenantID hf), hsim₂] at hsim₁
    exact (Except.ok.inj hsim₁).symm
  have hne : sim₁.tenantID ≠ A := by rwa [htenant]
  rw [hwalk₁, hwalk₂, others_cons_of_ne _ hne, others_cons_of_ne _ hne, List.cons.injEq]
  simp

/-- An application of `A`, launched or not, adds nothing. -/
theorem walk_own {f : Found} (hf : f.tenantID = A) (i : Nat) (fs : List Found)
    (h : Decodes (rows A)) :
    others A (walk other parseDuration rows i (f :: fs)) =
      others A (walk other parseDuration rows (i + 1) fs) := by
  have hown : Decodes (rows f.tenantID) := by rwa [hf]
  obtain ⟨sim, -, htenant, hwalk⟩ := walk_cons other parseDuration i fs hown
  rw [hwalk, others_cons_self _ (htenant.trans hf)]

/-- As long as `A`'s payload decodes in both or in neither, the others get the same. -/
theorem walk_same (hagree : AgreeOff A rows₁ rows₂)
    (hA : Decodes (rows₁ A) ↔ Decodes (rows₂ A)) (i : Nat) (fs : List Found) :
    others A (walk other parseDuration rows₁ i fs) =
      others A (walk other parseDuration rows₂ i fs) := by
  induction fs generalizing i with
  | nil => rfl
  | cons f fs ih =>
    by_cases hf : f.tenantID = A
    · by_cases h : Decodes (rows₁ A)
      · rw [walk_own other parseDuration hf i fs h, walk_own other parseDuration hf i fs (hA.mp h)]
        exact ih (i + 1)
      · rw [walk_cut other parseDuration i fs (hf ▸ h),
          walk_cut other parseDuration i fs (hf ▸ mt hA.mpr h)]
    · by_cases h : Decodes (rows₁ f.tenantID)
      · exact (walk_other other parseDuration hagree hf i fs h).mpr (ih (i + 1))
      · rw [walk_cut other parseDuration i fs h,
          walk_cut other parseDuration i fs (by rwa [← hagree f.tenantID hf])]

/-- A walk that gets past `A` launches nothing for the others exactly if there is nothing left. -/
theorem walk_nil_iff (hA : Decodes (rows A)) (i : Nat) (fs : List Found) :
    others A (walk other parseDuration rows i fs) = [] ↔ NothingLeft A rows fs := by
  induction fs generalizing i with
  | nil => simp [walk, launchedFrom, others, NothingLeft]
  | cons f fs ih =>
    by_cases hf : f.tenantID = A
    · rw [walk_own other parseDuration hf i fs hA, ih (i + 1)]
      simp [NothingLeft, hf]
    · by_cases h : Decodes (rows f.tenantID)
      · obtain ⟨sim, -, htenant, hwalk⟩ := walk_cons other parseDuration i fs h
        rw [hwalk, others_cons_of_ne _ (htenant ▸ hf)]
        simp [NothingLeft, hf, h]
      · rw [walk_cut other parseDuration i fs h]
        simp [others, NothingLeft, hf, h]

/-- **When the two walks launch the same for the others.** -/
theorem walk_eq_iff (hagree : AgreeOff A rows₁ rows₂) (i : Nat) (fs : List Found) :
    others A (walk other parseDuration rows₁ i fs) =
        others A (walk other parseDuration rows₂ i fs) ↔
      (Decodes (rows₁ A) ↔ Decodes (rows₂ A)) ∨ CutBefore A rows₁ fs ∨
        NothingLeft A rows₁ (fs.dropWhile fun f => f.tenantID ≠ A) := by
  by_cases hA : Decodes (rows₁ A) ↔ Decodes (rows₂ A)
  · exact iff_of_true (walk_same other parseDuration hagree hA i fs) (Or.inl hA)
  rw [or_iff_right hA]
  induction fs generalizing i with
  | nil => simp [walk, launchedFrom, NothingLeft]
  | cons f fs ih =>
    by_cases hf : f.tenantID = A
    · -- the first application of `A`: one walk goes on, the other is at its end
      have hdrop : (f :: fs).dropWhile (fun f => f.tenantID ≠ A) = f :: fs := by simp [hf]
      have htake : ¬ CutBefore A rows₁ (f :: fs) := by simp [CutBefore, hf]
      rw [hdrop, or_iff_right htake]
      by_cases h : Decodes (rows₁ A)
      · have h₂ : ¬ Decodes (rows₂ f.tenantID) := fun h₂ => hA (iff_of_true h (hf ▸ h₂))
        rw [walk_cut other parseDuration i fs h₂]
        exact walk_nil_iff other parseDuration h i (f :: fs)
      · have h₂ : Decodes (rows₂ A) := by
          by_contra h₂
          exact hA (iff_of_false h h₂)
        have h₁ : ¬ Decodes (rows₁ f.tenantID) := by rwa [hf]
        rw [walk_cut other parseDuration i fs h₁, eq_comm]
        refine (walk_nil_iff other parseDuration h₂ i (f :: fs)).trans (forall₂_congr fun g hg => ?_)
        have hg : g.tenantID ≠ A := by
          simpa using (List.mem_filter.mp (List.mem_of_mem_head? hg)).2
        rw [hagree g.tenantID hg]
    · by_cases h : Decodes (rows₁ f.tenantID)
      · rw [walk_other other parseDuration hagree hf i fs h, ih (i + 1)]
        simp [CutBefore, hf, h]
      · rw [walk_cut other parseDuration i fs h,
          walk_cut other parseDuration i fs (by rwa [← hagree f.tenantID hf])]
        simp [CutBefore, hf, h]

end

/-! ## Isolation -/

/-- The simulations an accepted start launches for the tenants other than `A`. -/
def startedOthers (A : String) (req : StartRequest) (status : Status) (rows : Rows) :
    List Simulation :=
  others A (launched
    ((handleStart parseDuration true (.ok req) status).events (database other) rows))

theorem AgreeOff.synced {A : String} {rows₁ rows₂ : Rows} (h : AgreeOff A rows₁ rows₂) :
    AgreeOff A (synced other rows₁) (synced other rows₂) :=
  fun id hid => synced_congr other (h id hid)

/-- **A start launches the same for all tenants but `A` exactly if** `A`'s payload decodes in both
    databases or in neither, or the payload of an application that comes before all of `A`'s does not
    decode, or from `A`'s first application on that of the others' first one does not, if there is
    one. -/
theorem isolated_iff {A : String} {rows₁ rows₂ : Rows} (hagree : AgreeOff A rows₁ rows₂)
    {req : StartRequest} {status : Status} (hvalid : validateStartRequest parseDuration req = .ok ())
    (hstatus : status = .idle ∨ status = .error) :
    startedOthers other parseDuration A req status rows₁ =
        startedOthers other parseDuration A req status rows₂ ↔
      (Decodes (rows₁ A) ↔ Decodes (rows₂ A)) ∨ CutBefore A rows₁ (found other) ∨
        NothingLeft A rows₁ ((found other).dropWhile fun f => f.tenantID ≠ A) := by
  unfold startedOthers
  rw [launched_handleStart parseDuration other rows₁ hvalid hstatus,
    launched_handleStart parseDuration other rows₂ hvalid hstatus]
  refine (walk_eq_iff other parseDuration (hagree.synced other) 0 (found other)).trans ?_
  simp only [CutBefore, NothingLeft, decodes_synced]

end

/-! ## Two tenants -/

/-- Two tenants, each with a gateway and an application of one device. -/
def twoTenants : (r : RPC) → r.Answer
  | .listTenants _ => .ok [⟨"acme", "Acme"⟩, ⟨"beta", "Beta"⟩]
  | .listGateways _ _ => .ok [⟨"0102030405060708", "gateway"⟩]
  | .listApplications tenantID _ => .ok [⟨tenantID ++ "-sensors", "sensors"⟩]
  | .listDevices applicationID _ _ _ => .ok [⟨"0000000000000001", applicationID ++ "-1"⟩]
  | r => r.unavailable

/-- The durations that are saved for a tenant without a configuration. -/
def someDurations : String → Except String Int
  | "0s" => .ok 0
  | "30s" => .ok 30000000000
  | "2m" => .ok 120000000000
  | _ => .error "time: invalid duration"

/-- The database once a configuration with the payload is saved for the first tenant, as the first
    one. -/
def acmeSaves (payload : String) : Rows :=
  (saveOrgConfig "acme" { StartRequest.empty with payload }).final
    (database (Call.answer twoTenants)) fun _ => none

theorem agreeOff_acmeSaves (payload : String) :
    AgreeOff "acme" (fun _ => none) (acmeSaves payload) := by
  intro id h
  show none = Function.update (fun _ => none) "acme" _ id
  rw [Function.update_of_ne h]

/-- Another payload that decodes makes no difference to the second tenant. -/
theorem isolated_acmeSaves :
    startedOthers (Call.answer twoTenants) someDurations "acme" .empty .idle (fun _ => none) =
      startedOthers (Call.answer twoTenants) someDurations "acme" .empty .idle (acmeSaves "0a") :=
  (isolated_iff (Call.answer twoTenants) someDurations (agreeOff_acmeSaves "0a") rfl
    (Or.inl rfl)).mpr (Or.inl (iff_of_true decodes_none (by decide)))

/-- A payload that does not is saved as well, and the simulation of the second tenant is not
    launched any more. -/
theorem acme_stops_beta :
    AgreeOff "acme" (fun _ => none) (acmeSaves "zz") ∧
      validateStartRequest someDurations { StartRequest.empty with payload := "zz" } = .ok () ∧
      (startedOthers (Call.answer twoTenants) someDurations "acme" .empty .idle
        fun _ => none).map Simulation.tenantID = ["beta"] ∧
      startedOthers (Call.answer twoTenants) someDurations "acme" .empty .idle (acmeSaves "zz") =
        [] ∧
      startedOthers (Call.answer twoTenants) someDurations "acme" .empty .idle (fun _ => none) ≠
        startedOthers (Call.answer twoTenants) someDurations "acme" .empty .idle
          (acmeSaves "zz") := by
  have hbeta : (startedOthers (Call.answer twoTenants) someDurations "acme" .empty .idle
      fun _ => none).map Simulation.tenantID = ["beta"] := by
    unfold startedOthers
    rw [launched_handleStart someDurations _ _ rfl (Or.inl rfl)]
    rfl
  have hnothing : startedOthers (Call.answer twoTenants) someDurations "acme" .empty .idle
      (acmeSaves "zz") = [] := by
    unfold startedOthers
    rw [launched_handleStart someDurations _ _ rfl (Or.inl rfl)]
    rfl
  refine ⟨agreeOff_acmeSaves "zz", rfl, hbeta, hnothing, fun h => ?_⟩
  rw [h, hnothing] at hbeta
  exact absurd hbeta (by simp)

end ChirpStackSimulator.Discovery
