/-
  What a bootstrap request finds and creates before its devices.

  The programs of the handler (`BootstrapWorkers.lean`) are specified over the store
  (`BootstrapStore.lean`): what is true in all their states, and of what they return.

  The invariant is `Kept`: the shelves of the request fit on a page of a listing, and only names
  that were missing have been created.  A listing of such a shelf is all of it (`Kept.page`), so
  that the handler knows of every name whether it is there (`Kept.knows`); to create one that is not
  there keeps the invariant (`Kept.create`).  Every find-or-create of the handler is one rule
  (`spec_orCreate`).

  1. **The tenant and its profiles** (`spec_prepare`) - only missing names are created, and when it
     returns they are there.
  2. **Applications** (`spec_openApp`) - one is found or created, and its devices are known.
     `Progress` says how far the walk over the applications has come.
-/
import ChirpStackSimulator.BootstrapStore
import ChirpStackSimulator.BootstrapWorkers

namespace ChirpStackSimulator.BootstrapFind

open Bootstrap BootstrapStore BootstrapWorkers Shelves

/-! ## The tenant and its profiles -/

section
variable {req : BootstrapRequest} {clean : Prop} {I : Store → Prop}

/-- Find or create: `I` has to allow the creation of a missing name. -/
theorem spec_orCreate {create : Action (Except RPCError String)} {s : Store} {k : Shelf}
    {name id : String} (hI : I s) (hknows : Knows s.entities k name id)
    (hallow : ∀ id s', ¬ Has s.entities k name → Creates s k id name s' → I s')
    (hcreate : ∀ Post : Except RPCError String → Store → Prop,
      (∀ x s', MayCreate s k name x s' → (clean → ∃ id, x = .ok id) → I s' ∧ Post x s') →
        create.Spec (Lawful req clean) I Post s) :
    (orCreate id create).Spec (Lawful req clean) I (fun x s' => (clean → ∃ id, x = .ok id) ∧
      ∀ id', x = .ok id' → ⟨k, id', name⟩ ∈ s'.entities ∧
        (s' = s ∨ ¬ Has s.entities k name ∧ Creates s k id' name s')) s := by
  unfold orCreate
  split
  · next hid =>
    refine Prog.spec_pure hI ⟨fun _ => ⟨id, rfl⟩, fun id' hid' => ?_⟩
    cases hid'
    exact ⟨hknows.found hid, Or.inl rfl⟩
  · next hid =>
    have hnone := hknows.absent (not_not.mp hid)
    refine hcreate _ fun x s' hx hclean => ?_
    cases x with
    | error e =>
      refine ⟨?_, hclean, fun id' hid' => by cases hid'⟩
      rcases hx with rfl | ⟨id', hcreates⟩
      · exact hI
      · exact hallow id' s' hnone hcreates
    | ok id' =>
      have hcreates : Creates s k id' name s' := hx
      refine ⟨hallow id' s' hnone hcreates, hclean, fun id'' hid'' => ?_⟩
      cases hid''
      refine ⟨?_, Or.inr ⟨hnone, hcreates⟩⟩
      rw [hcreates.2]
      exact List.mem_append_right _ (List.mem_singleton.mpr rfl)

/-- The shelves of the request fit on a page, and only missing names were created. -/
def Kept (req : BootstrapRequest) (B : Entities) (s : Store) : Prop :=
  OnePage req s.entities ∧ Grown req B s.entities

variable {B : Entities}

theorem Kept.create {s s' : Store} {k : Shelf} {ns : List String} {id name : String}
    (h : Kept req B s) (htarget : Target req s.entities k ns) (hname : name ∈ ns)
    (hnone : ¬ Has s.entities k name) (hcreates : Creates s k id name s') : Kept req B s' := by
  obtain ⟨hfresh, rfl⟩ := hcreates
  have hadds : Adds req s.entities (s.entities ++ [⟨k, id, name⟩]) :=
    .intro htarget hname hnone hfresh
  exact ⟨h.1.adds hadds, h.2.tail hadds⟩

/-- A listing of a shelf of the request is all of it. -/
theorem Kept.page {s s' : Store} {k : Shelf} {ns : List String} {α : Type}
    {item : Entity Shelf String String → α} {items : List α} (h : Kept req B s)
    (htarget : Target req s.entities k ns) (hlists : Lists s k 100 item (.ok items) s') :
    s' = s ∧ ∃ page : Entities, page.Perm (shelf s.entities k) ∧ items = page.map item := by
  obtain ⟨rfl, hpages⟩ := hlists
  obtain ⟨page, hpage, rfl⟩ := hpages items rfl
  exact ⟨rfl, page, hpage.perm (h.1.fits k ns htarget).length_le, rfl⟩

/-- What a listing tells about the wanted names, if it fails only where none of them is. -/
theorem Kept.knows {s s' : Store} {k : Shelf} {ns : List String}
    {x : Except RPCError (List ListItem)} (h : Kept req B s) (htarget : Target req s.entities k ns)
    (hlists : Lists s k 100 toItem x s')
    (hfinds : isOk x = false → ∀ n ∈ ns, ¬ Has s.entities k n) :
    s' = s ∧ ∀ n ∈ ns, Knows s.entities k n (findID (listed x) n) := by
  cases x with
  | error e =>
    exact ⟨hlists.1, fun n hn => ⟨fun hne => absurd rfl hne, fun _ => hfinds rfl n hn⟩⟩
  | ok items =>
    obtain ⟨rfl, page, hperm, rfl⟩ := h.page htarget hlists
    exact ⟨rfl, fun n _ => knows_findID h.1.wf hperm n⟩

theorem spec_profiles {tenantID : String} {existing : List ListItem} :
    ∀ {is : List Nat} {s : Store}, is.Nodup → (∀ i ∈ is, dpName req i ∈ dpNames req) →
      Kept req B s → ⟨.tenants, tenantID, req.orgName⟩ ∈ s.entities →
      (∀ i ∈ is, Knows s.entities (.profiles tenantID) (dpName req i)
        (findID existing (dpName req i))) →
      (findOrCreateProfiles req tenantID existing is).Spec (Lawful req clean) (Kept req B)
        (fun r s' => (∀ e, r = .error e → ¬ clean) ∧ ∀ ids, r = .ok ids →
          (∀ e ∈ s.entities, e ∈ s'.entities) ∧
            ∀ i ∈ is, Has s'.entities (.profiles tenantID) (dpName req i)) s
  | [], s, _, _, hs, _, _ =>
    Prog.spec_pure hs ⟨fun _ h => (by cases h), fun _ _ => ⟨fun _ h => h, fun _ h => (by cases h)⟩⟩
  | i :: is, s, hnodup, hnames, hs, htenant, hknows => by
    obtain ⟨hnot, hnodup⟩ := List.nodup_cons.mp hnodup
    have hallow : ∀ id s', ¬ Has s.entities (.profiles tenantID) (dpName req i) →
        Creates s (.profiles tenantID) id (dpName req i) s' → Kept req B s' := fun id s' =>
      hs.create (.profiles htenant) (hnames i List.mem_cons_self)
    unfold findOrCreateProfiles
    refine Prog.Spec.bind (spec_orCreate hs (hknows i List.mem_cons_self) hallow
      fun Post h => Prog.Spec.ask hs fun x s' hE => h x s' hE.1 fun hc => exists_of_isOk (hE.2.2 hc)) ?_
    rintro x s₁ hs₁ ⟨hclean, hok⟩
    cases x with
    | error e =>
      refine Prog.spec_pure hs₁ ⟨fun e' he' hc => ?_, fun ids h => (by cases h)⟩
      obtain ⟨id, hid⟩ := hclean hc
      cases hid
    | ok id =>
      obtain ⟨hmem, hstep⟩ := hok id rfl
      have hsub : ∀ e ∈ s.entities, e ∈ s₁.entities := by
        rcases hstep with rfl | ⟨-, hcreates⟩
        · exact fun e he => he
        · exact hcreates.subset
      have hknows₁ : ∀ j ∈ is, Knows s₁.entities (.profiles tenantID) (dpName req j)
          (findID existing (dpName req j)) := by
        intro j hj
        have hkj := hknows j (List.mem_cons_of_mem _ hj)
        rcases hstep with rfl | ⟨-, hcreates⟩
        · exact hkj
        · rw [hcreates.2]
          refine hkj.append fun h => hnot ?_
          rw [dpName_injective req h.2]
          exact hj
      refine Prog.Spec.bind (spec_profiles hnodup
        (fun j hj => hnames j (List.mem_cons_of_mem _ hj)) hs₁ (hsub _ htenant) hknows₁) ?_
      rintro r s₂ hs₂ ⟨herror, hids⟩
      cases r with
      | error e =>
        exact Prog.spec_pure hs₂ ⟨fun e' _ => herror e rfl, fun ids h => (by cases h)⟩
      | ok ids =>
        obtain ⟨hsub₂, hall⟩ := hids ids rfl
        refine Prog.spec_pure hs₂ ⟨fun e' h => (by cases h), fun _ _ =>
          ⟨fun d hd => hsub₂ d (hsub d hd), fun j hj => ?_⟩⟩
        rcases List.mem_cons.mp hj with rfl | hj
        · exact ⟨_, hsub₂ _ hmem, rfl, rfl⟩
        · exact hall j hj

/-- What is there once the tenant and its profiles are. -/
structure Base (req : BootstrapRequest) (tenantID : String) (s : Entities) : Prop where
  tenant : ⟨.tenants, tenantID, req.orgName⟩ ∈ s
  profiles : ∀ n ∈ dpNames req, Has s (.profiles tenantID) n

/-- What the request knows of an application. -/
def KnowsApp (req : BootstrapRequest) (prepared : Prepared) (s : Entities) (i : Nat) : Prop :=
  Knows s (.applications prepared.tenantID) (appName req i)
    (findID prepared.existingApps (appName req i))

/-- What `prepare` returns and leaves. -/
def Prepares (req : BootstrapRequest) (clean : Prop) (r : Except String Prepared) (s : Store) : Prop :=
  (∀ e, r = .error e → ¬ clean) ∧ ∀ prepared, r = .ok prepared →
    Base req prepared.tenantID s.entities ∧
      ∀ i : Nat, 1 ≤ i → (i : Int) ≤ req.appCount → KnowsApp req prepared s.entities i

theorem mem_appNames {i : Nat} (h1 : 1 ≤ i) (hi : (i : Int) ≤ req.appCount) :
    appName req i ∈ appNames req :=
  List.mem_map_of_mem (List.mem_range'_1.mpr (by omega))

/-- **Before the applications.** -/
theorem spec_prepare {s : Store} (hs : Kept req B s) :
    (prepare req).Spec (Lawful req clean) (Kept req B) (Prepares req clean) s := by
  unfold prepare findOrCreateTenant
  rw [Prog.bind_assoc]
  refine Prog.Spec.ask_bind hs fun x s₁ hE => ?_
  obtain ⟨rfl, htenants⟩ := hs.knows .tenants hE.1 fun hfail => hE.2.1 hfail _ rfl _ .tenants
  refine Prog.Spec.bind (spec_orCreate hs (htenants _ (List.mem_singleton.mpr rfl))
    (fun id s' => hs.create .tenants (List.mem_singleton.mpr rfl))
    fun Post h => Prog.Spec.ask hs fun x s' hE => h x s' hE.1 fun hc => exists_of_isOk (hE.2.2 hc)) ?_
  rintro x s₂ hs₂ ⟨hclean, hok⟩
  cases x with
  | error e =>
    refine Prog.spec_pure hs₂ ⟨fun e' he' hc => ?_, fun _ h => (by cases h)⟩
    obtain ⟨id, hid⟩ := hclean hc
    cases hid
  | ok tenantID =>
    obtain ⟨htenant, -⟩ := hok tenantID rfl
    -- the configuration is saved in the database
    refine Prog.Spec.ask_bind hs₂ fun x s₃ hE => ?_
    obtain rfl : s₃ = s₂ := hE.1
    refine Prog.Spec.ask_bind hs₂ fun x s₄ hE => ?_
    obtain ⟨rfl, hprofiles⟩ := hs₂.knows (.profiles htenant) hE.1 fun hfail =>
      hE.2.1 hfail _ rfl _ (.profiles htenant)
    refine Prog.Spec.bind (spec_profiles (List.nodup_range' ..)
      (fun i hi => List.mem_map_of_mem hi) hs₂ htenant
      fun i hi => hprofiles _ (List.mem_map_of_mem hi)) ?_
    rintro r s₅ hs₅ ⟨herror, hids⟩
    cases r with
    | error e => exact Prog.spec_pure hs₅ ⟨fun e' _ => herror e rfl, fun _ h => (by cases h)⟩
    | ok ids =>
      obtain ⟨hsub, hall⟩ := hids ids rfl
      have htenant₅ := hsub _ htenant
      refine Prog.Spec.ask_bind hs₅ fun x s₆ hE => ?_
      obtain ⟨rfl, happs⟩ := hs₅.knows (.applications htenant₅) hE.1 fun hfail =>
        hE.2.1 hfail _ rfl _ (.applications htenant₅)
      refine Prog.spec_pure hs₅ ⟨fun _ h => (by cases h), fun prepared h => ?_⟩
      cases h
      refine ⟨⟨htenant₅, fun n hn => ?_⟩, fun i h1 hi => happs _ (mem_appNames h1 hi)⟩
      obtain ⟨i, hi, rfl⟩ := List.mem_map.mp hn
      exact hall i hi

/-! ## Applications -/

/-- The application is there with its devices, and they have keys. -/
def Done (req : BootstrapRequest) (tenantID : String) (s : Store) (i : Nat) : Prop :=
  ∃ appID, ⟨.applications tenantID, appID, appName req i⟩ ∈ s.entities ∧
    ∀ n ∈ devNames req (appName req i), ∃ devEUI,
      ⟨.devices appID, devEUI, n⟩ ∈ s.entities ∧ devEUI ∈ s.keys

/-- The applications below `lo` are done, and those from `hi` on are known. -/
structure Progress (req : BootstrapRequest) (clean : Prop) (prepared : Prepared) (lo hi : Nat)
    (s : Store) : Prop where
  base : Base req prepared.tenantID s.entities
  ahead : ∀ i : Nat, hi ≤ i → (i : Int) ≤ req.appCount → KnowsApp req prepared s.entities i
  done : clean → ∀ i, 1 ≤ i → i < lo → Done req prepared.tenantID s i

theorem Base.append {tenantID : String} {s : Entities} (h : Base req tenantID s)
    (e : Entity Shelf String String) : Base req tenantID (s ++ [e]) where
  tenant := List.mem_append_left _ h.tenant
  profiles := fun n hn => (h.profiles n hn).append e

theorem Done.append {tenantID : String} {s : Store} {i : Nat} (h : Done req tenantID s i)
    (e : Entity Shelf String String) :
    Done req tenantID { s with entities := s.entities ++ [e] } i := by
  obtain ⟨appID, happ, hdevices⟩ := h
  refine ⟨appID, List.mem_append_left _ happ, fun n hn => ?_⟩
  obtain ⟨devEUI, hdevice, hkeys⟩ := hdevices n hn
  exact ⟨devEUI, List.mem_append_left _ hdevice, hkeys⟩

variable {prepared : Prepared}

/-- What is created is no application ahead. -/
theorem Progress.append {lo hi : Nat} {s : Store} (h : Progress req clean prepared lo hi s)
    {e : Entity Shelf String String} (hne : ∀ i, hi ≤ i →
      ¬ (e.shelf = .applications prepared.tenantID ∧ e.name = appName req i)) :
    Progress req clean prepared lo hi { s with entities := s.entities ++ [e] } where
  base := h.base.append e
  ahead := fun i hi hlast => (h.ahead i hi hlast).append (hne i hi)
  done := fun hc i h1 hlo => (h.done hc i h1 hlo).append e

theorem Progress.mono {lo hi hi' : Nat} {s : Store} (h : Progress req clean prepared lo hi s)
    (hle : hi ≤ hi') : Progress req clean prepared lo hi' s :=
  ⟨h.base, fun i hi => h.ahead i (hle.trans hi), h.done⟩

/-- What a request knows of a device; it looks for it twice. -/
structure KnowsDev (app : App) (s : Entities) (name : String) : Prop where
  knows : Knows s (.devices app.appID) name (findEUI app.existingDevices name)
  twice : (app.existingDevices.any fun dev => dev.name = name) = true ↔
    findEUI app.existingDevices name ≠ ""

theorem KnowsDev.append {app : App} {s : Entities} {name : String} (h : KnowsDev app s name)
    {e : Entity Shelf String String} (hne : ¬ (e.shelf = .devices app.appID ∧ e.name = name)) :
    KnowsDev app (s ++ [e]) name :=
  ⟨h.knows.append hne, h.twice⟩

/-- While the `i`-th application is opened. -/
def Opening (req : BootstrapRequest) (clean : Prop) (B : Entities) (prepared : Prepared) (i : Nat)
    (s : Store) : Prop :=
  Kept req B s ∧ Progress req clean prepared i (i + 1) s

/-- What `openApp` returns and leaves. -/
def Opens (req : BootstrapRequest) (clean : Prop) (prepared : Prepared) (i : Nat)
    (r : Except String (App × Option RPCError)) (s : Store) : Prop :=
  (∀ e, r = .error e → ¬ clean) ∧ ∀ app err, r = .ok (app, err) →
    (clean → err = none) ∧ app.appName = appName req i ∧
      ⟨.applications prepared.tenantID, app.appID, appName req i⟩ ∈ s.entities ∧
      ∀ name ∈ devNames req (appName req i), KnowsDev app s.entities name

/-- **An application is opened.** -/
theorem spec_openApp {s : Store} {i : Nat} (hs : Kept req B s)
    (hprogress : Progress req clean prepared i i s) (h1 : 1 ≤ i) (hi : (i : Int) ≤ req.appCount) :
    (openApp req prepared i).Spec (Lawful req clean) (Opening req clean B prepared i)
      (Opens req clean prepared i) s := by
  have hmem := mem_appNames h1 hi
  have htarget : ∀ {s : Store}, Progress req clean prepared i (i + 1) s →
      Target req s.entities (.applications prepared.tenantID) (appNames req) := fun h =>
    .applications h.base.tenant
  have hstart : Opening req clean B prepared i s :=
    ⟨hs, hprogress.mono (Nat.le_succ i)⟩
  simp only [openApp]
  refine Prog.Spec.bind (spec_orCreate hstart (hprogress.ahead i le_rfl hi) ?_
    fun Post h => Prog.Spec.ask hstart fun x s' hE => h x s' hE.1 fun hc => exists_of_isOk (hE.2.2 hc)) ?_
  · intro id s' hnone hcreates
    refine ⟨hs.create (htarget hstart.2) hmem hnone hcreates, ?_⟩
    rw [hcreates.2]
    refine hstart.2.append fun j hj h => ?_
    have hij := appName_injective req h.2
    omega
  · rintro x s₁ hs₁ ⟨hclean, hok⟩
    cases x with
    | error e =>
      refine Prog.spec_pure hs₁ ⟨fun e' he' hc => ?_, fun _ _ h => (by cases h)⟩
      obtain ⟨id, hid⟩ := hclean hc
      cases hid
    | ok appID =>
      obtain ⟨happ, -⟩ := hok appID rfl
      refine Prog.Spec.ask_bind hs₁ fun x s₂ hE => ?_
      have hdevices : Target req s₁.entities (.devices appID) (devNames req (appName req i)) :=
        .devices hs₁.2.base.tenant happ hmem
      cases x with
      | error e =>
        -- the listing is taken for an empty one
        obtain rfl : s₂ = s₁ := (hE.1 rfl rfl).1
        refine Prog.spec_pure hs₁ ⟨fun _ h => (by cases h), fun app err h => ?_⟩
        cases h
        exact ⟨fun hc => Bool.noConfusion (hE.2.2 hc), rfl, happ, fun name hname =>
          ⟨⟨fun hne => absurd rfl hne, fun _ => hE.2.1 rfl _ rfl _ hdevices name hname⟩,
            ⟨fun h => Bool.noConfusion h, fun hne => absurd rfl hne⟩⟩⟩
      | ok items =>
        obtain ⟨rfl, page, hperm, rfl⟩ := hs₁.1.page hdevices (hE.1 rfl rfl)
        refine Prog.spec_pure hs₁ ⟨fun _ h => (by cases h), fun app err h => ?_⟩
        cases h
        refine ⟨fun _ => rfl, rfl, happ, fun name _ => ?_⟩
        obtain ⟨hknows, htwice⟩ := knows_findEUI hs₁.1.1.wf hperm name
        exact ⟨hknows, htwice⟩

end

end ChirpStackSimulator.BootstrapFind
