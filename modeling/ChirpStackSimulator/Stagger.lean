/-
  The delays between the joins of a simulation's devices.

  `runSimulation` spreads the joins over the uplink interval: the device at index `i` of `n` waits
  `int64(devInterval) * int64(deviceIdx) / int64(numDevices)` before its first join request.  The
  product is formed before the division, in 64 bits.

  1. **Runs** (`madeOf_runSimulation`): the delays that the devices of a run are made with are those of
     `delays`, as far as the run gets, and all of them if it ends well.

  2. **Arithmetic** (`staggerDelay_eq_mark`, `staggerDelay_lt_mark`): as long as the product fits,
     the delay is the `i`-th of `n` even marks over the interval.  Where it does not fit, the wrapped
     product is below the true one by at least `2 ^ 64`, and the delay below the mark.

  3. **The law** (`staggered_iff`): with a common interval the delays are even exactly if the product
     fits for the last of the devices.
-/
import ChirpStackSimulator.Lib.Spacing
import ChirpStackSimulator.Intervals
import ChirpStackSimulator.ServedSetup

namespace ChirpStackSimulator.Stagger

open LoRaWAN Setup Intervals Spacing

/-! ## What a run makes of the delays -/

/-- The delays of the devices a run has made. -/
def delaysMade (es : List (Prog.Event Call.Answer)) : List Int :=
  es.filterMap fun e => match e.call with
    | .newDevice opts => some opts.otaaDelay
    | _ => none

@[simp] theorem delaysMade_append (es es' : List (Prog.Event Call.Answer)) :
    delaysMade (es ++ es') = delaysMade es ++ delaysMade es' := List.filterMap_append

theorem delaysMade_eq_nil {es : List (Prog.Event Call.Answer)} (h : ∀ e ∈ es, MakesNone e.call) :
    delaysMade es = [] := by
  refine List.filterMap_eq_nil_iff.mpr fun e he => ?_
  have hnone := h e he
  split
  · rename_i opts hcall
    rw [hcall] at hnone
    exact hnone.elim
  · rfl

variable (lib : Parsers) (sim : Simulation) (s : Loaded)

/-- The delays of these devices, the first of which is the one at `deviceIdx`. -/
def delaysFrom (deviceIdx : Nat) (keys : List (EUI64 × AES128Key)) : List Int :=
  (keys.zipIdx deviceIdx).map fun entry =>
    (deviceOptions sim s entry.2 entry.1.1 entry.1.2 []).otaaDelay

/-- The delays of a simulation's devices. -/
def delays : List Int := delaysFrom sim s 0 s.deviceAppKeys

/-- A run has made devices with a first part of these delays, and if it ended well with all. -/
structure MadeOf (ds : List Int) (es : List (Prog.Event Call.Answer)) (ending : Ending) : Prop where
  isPrefix : delaysMade es <+: ds
  eq_of_ok : ending = .ok → delaysMade es = ds

theorem MadeOf.stopped {ds : List Int} {ending : Ending} (h : ending ≠ .ok) :
    MadeOf ds [] ending := ⟨List.nil_prefix, fun hok => absurd hok h⟩

/-- Calls that make no device may come before. -/
theorem MadeOf.after {ds : List Int} {es es' : List (Prog.Event Call.Answer)} {ending : Ending}
    (h : MadeOf ds es' ending) (hnone : ∀ e ∈ es, MakesNone e.call) :
    MadeOf ds (es ++ es') ending := by
  have hsame : delaysMade (es ++ es') = delaysMade es' := by
    rw [delaysMade_append, delaysMade_eq_nil hnone, List.nil_append]
  exact ⟨hsame ▸ h.isPrefix, hsame ▸ h.eq_of_ok⟩

theorem makesNone_newGateways (ids : List EUI64) :
    (newGateways lib sim ids).Keeps (fun _ _ => True) MakesNone fun _ => True := by
  have hnew (opts : GatewayOptions) :
      (newGateway lib opts).Keeps (fun _ _ => True) MakesNone fun _ => True := by
    unfold newGateway
    split
    · trivial
    · split
      · trivial
      · exact Prog.Keeps.ask_bind trivial fun _ _ => trivial
  induction ids with
  | nil => trivial
  | cons id ids ih =>
    refine (hnew _).bind fun r _ => ?_
    cases r with
    | error e => trivial
    | ok _ => exact ih

variable {lib sim s} {σ : Type}

/-- The loop makes each device with its own delay, and stops at the first it cannot make. -/
theorem madeOf_newDevices (env : Prog.Env σ Call.Answer) (fuel : Nat)
    (keys : List (EUI64 × AES128Key)) (deviceIdx : Nat) (w : σ) :
    MadeOf (delaysFrom sim s deviceIdx keys) ((newDevices sim fuel s deviceIdx keys).events env w)
      ((newDevices sim fuel s deviceIdx keys).result env w) := by
  induction keys generalizing deviceIdx w with
  | nil => exact ⟨List.prefix_rfl, fun _ => rfl⟩
  | cons key keys ih =>
    obtain ⟨devEUI, appKey⟩ := key
    unfold newDevices
    split
    · exact ⟨List.nil_prefix, fun h => by cases h⟩
    · simp only [Prog.result_bind, Prog.events_bind, result_callAsk, final_callAsk, events_callAsk]
      generalize (env w (.intn (sim.gatewayMaxCount - sim.gatewayMinCount).toNat)).2 = w'
      generalize (env w (.intn (sim.gatewayMaxCount - sim.gatewayMinCount).toNat)).1 = extra
      have hpicks : ∀ e ∈ (pickGateways s.gatewayIDs.length (sim.gatewayMinCount + extra.val)
          fuel []).events env w', MakesNone e.call :=
        ((makesNone_pickGateways _ _ _ _).of_run fun _ _ => trivial).1
      generalize pickGateways s.gatewayIDs.length (sim.gatewayMinCount + extra.val) fuel [] = p at *
      generalize p.final env w' = w'' at *
      generalize p.result env w' = r at *
      obtain ⟨e, gateways⟩ := r
      refine MadeOf.after (MadeOf.after ?_ hpicks) fun e he => ?_
      · cases e with
        | ok =>
          obtain ⟨hstart, hall⟩ := ih (deviceIdx + 1) (env w'' (.newDevice
            (deviceOptions sim s deviceIdx devEUI appKey gateways))).2
          exact ⟨List.cons_prefix_cons.mpr ⟨rfl, hstart⟩, fun h => congrArg (List.cons _) (hall h)⟩
        | error text => exact .stopped (by simp)
        | running => exact .stopped (by simp)
        | panic => exact .stopped (by simp)
      · obtain rfl := List.mem_singleton.mp he
        trivial

/-- **What a run makes of the delays.** -/
theorem madeOf_runSimulation (env : Prog.Env σ Call.Answer) (fuel : Nat) (w : σ) :
    MadeOf (delays sim s) ((runSimulation lib sim fuel s).events env w)
      ((runSimulation lib sim fuel s).result env w) := by
  have hbuilds : ∀ e ∈ (newGateways lib sim s.gatewayIDs).events env w, MakesNone e.call :=
    ((makesNone_newGateways lib sim s.gatewayIDs).of_run fun _ _ => trivial).1
  simp only [runSimulation, Prog.result_bind, Prog.events_bind]
  refine MadeOf.after ?_ hbuilds
  generalize (newGateways lib sim s.gatewayIDs).final env w = w'
  generalize (newGateways lib sim s.gatewayIDs).result env w = built
  cases built with
  | ok =>
    have hmade : MadeOf (delays sim s) ((newDevices sim fuel s 0 s.deviceAppKeys).events env w')
        ((newDevices sim fuel s 0 s.deviceAppKeys).result env w') :=
      madeOf_newDevices env fuel s.deviceAppKeys 0 w'
    simp only [Prog.result_bind, Prog.events_bind]
    generalize (newDevices sim fuel s 0 s.deviceAppKeys).events env w' = es at *
    generalize (newDevices sim fuel s 0 s.deviceAppKeys).result env w' = ending at *
    generalize (newDevices sim fuel s 0 s.deviceAppKeys).final env w' = w''
    have hend (after : List (Prog.Event Call.Answer)) (hafter : delaysMade after = []) :
        MadeOf (delays sim s) (es ++ after) ending := by
      have hsame : delaysMade (es ++ after) = delaysMade es := by
        rw [delaysMade_append, hafter, List.append_nil]
      exact ⟨hsame ▸ hmade.isPrefix, hsame ▸ hmade.eq_of_ok⟩
    cases ending with
    | ok => exact hend _ rfl
    | error text => exact hend _ rfl
    | running => exact hend _ rfl
    | panic => exact hend _ rfl
  | error text => exact .stopped (by simp)
  | running => exact .stopped (by simp)
  | panic => exact .stopped (by simp)

/-- With a common interval the delays depend on the number of devices alone. -/
theorem delays_eq {interval : Int}
    (hcommon : ∀ key ∈ s.deviceAppKeys, devInterval sim key.1 = interval) :
    delays sim s = (List.range s.deviceAppKeys.length).map fun i =>
      staggerDelay interval i s.deviceAppKeys.length := by
  refine List.ext_getElem (by simp [delays, delaysFrom]) fun i hi _ => ?_
  simp only [delays, delaysFrom, List.length_map, List.length_zipIdx] at hi
  have hi' : devInterval sim s.deviceAppKeys[i].1 = interval :=
    hcommon _ (List.getElem_mem hi)
  simp [delays, delaysFrom, deviceOptions, hi']

/-! ## The arithmetic of one delay -/

section
variable {interval : Int} {i n : Nat}

/-- The product, wrapped to 64 bits, divided as Go divides. -/
theorem staggerDelay_eq_tdiv (hinterval : 0 < interval) (hfits : interval < 9223372036854775808)
    (hi : i < n) (hn : 1 < n) (hlen : n < 9223372036854775808) :
    staggerDelay interval i n = ((interval * i).bmod 18446744073709551616).tdiv n := by
  have hofInt : (Int64.ofInt interval).toInt = interval :=
    Int64.toInt_ofInt_of_le (by omega) (by omega)
  have hindex : (Int64.ofNat i).toInt = i := Int64.toInt_ofNat_of_lt (by omega)
  have hcount : (Int64.ofNat n).toInt = n := Int64.toInt_ofNat_of_lt (by omega)
  have hne : Int64.ofNat n ≠ -1 := by
    intro h
    have hneg : (Int64.ofNat n).toInt = -1 := by rw [h]; rfl
    omega
  unfold staggerDelay
  rw [if_pos hn, Int64.toInt_div_of_ne_right _ _ hne, Int64.toInt_mul, hofInt, hindex, hcount]

/-- A product that fits gives the mark. -/
theorem staggerDelay_eq_mark (hinterval : 0 < interval) (hfits : interval < 9223372036854775808)
    (hi : i < n) (hlen : n < 9223372036854775808) (hproduct : interval * i < 9223372036854775808) :
    staggerDelay interval i n = mark interval i n := by
  rcases Nat.lt_or_ge 1 n with hn | hn
  · have hnonneg : 0 ≤ interval * i := Int.mul_nonneg (Int.le_of_lt hinterval) (by omega)
    rw [staggerDelay_eq_tdiv hinterval hfits hi hn hlen, Int.bmod_eq_of_le (by omega) (by omega),
      Int.tdiv_eq_ediv_of_nonneg hnonneg]
    rfl
  · obtain rfl : i = 0 := by omega
    unfold staggerDelay
    rw [if_neg (by omega), mark_zero]

/-- Wrapping takes off at least `2 ^ 64` from what does not fit. -/
theorem wrapped_le {product : Int} (h : 9223372036854775808 ≤ product) :
    product.bmod 18446744073709551616 ≤ product - 18446744073709551616 := by
  have hlt : product.bmod 18446744073709551616 < 9223372036854775808 :=
    Int.bmod_lt (by omega)
  have hsame : product.bmod 18446744073709551616 % 18446744073709551616 =
      product % 18446744073709551616 := Int.bmod_emod
  omega

/-- A product that does not fit comes out below the mark. -/
theorem staggerDelay_lt_mark (hinterval : 0 < interval) (hfits : interval < 9223372036854775808)
    (hi : i < n) (hlen : n < 9223372036854775808) (hproduct : 9223372036854775808 ≤ interval * i) :
    staggerDelay interval i n < mark interval i n := by
  have hi0 : i ≠ 0 := by
    rintro rfl
    omega
  rw [staggerDelay_eq_tdiv hinterval hfits hi (by omega) hlen]
  show ((interval * i).bmod 18446744073709551616).tdiv n < interval * i / n
  generalize interval * i = product at hproduct
  have hwrapped := wrapped_le hproduct
  generalize product.bmod 18446744073709551616 = wrapped at hwrapped
  have hn : (0 : Int) < n := by omega
  have hbelow : (n : Int) * (wrapped.tdiv n) < wrapped + n := by
    have hsplit : (n : Int) * (wrapped.tdiv n) + wrapped.tmod n = wrapped := Int.mul_tdiv_add_tmod _ _
    have hremainder : -(n : Int) < wrapped.tmod n := Int.lt_tmod_of_pos _ hn
    omega
  have habove : product - n < (n : Int) * (product / n) := by
    have hsplit : (n : Int) * (product / n) + product % n = product := Int.mul_ediv_add_emod _ _
    have hremainder : product % n < n := Int.emod_lt_of_pos _ hn
    omega
  have hmul : (n : Int) * (wrapped.tdiv n) < n * (product / n) := by omega
  exact Int.lt_of_mul_lt_mul_left hmul (Int.le_of_lt hn)

end

/-! ## The law -/

/-- **The stagger delays are even exactly if the product fits for the last device.**  The delays are
    those of every run: a run makes its devices with a first part of them, and with all if it ends
    well. -/
theorem staggered_iff (lib : Parsers) (sim : Simulation) (s : Loaded) {interval : Int}
    (hinterval : 0 < interval) (hfits : interval < 9223372036854775808)
    -- the number of devices is a Go `int`
    (hlen : s.deviceAppKeys.length < 9223372036854775808)
    (hcommon : ∀ key ∈ s.deviceAppKeys, devInterval sim key.1 = interval)
    (hsome : 1 ≤ s.deviceAppKeys.length) :
    (∀ (σ : Type) (env : Prog.Env σ Call.Answer) (fuel : Nat) (w : σ),
      MadeOf (delays sim s) ((runSimulation lib sim fuel s).events env w)
        ((runSimulation lib sim fuel s).result env w)) ∧
    (delays sim s).length = s.deviceAppKeys.length ∧
    (Even interval (delays sim s) ↔
      interval * (s.deviceAppKeys.length - 1 : Nat) < 9223372036854775808) := by
  refine ⟨fun σ env fuel w => madeOf_runSimulation env fuel w, by simp [delays, delaysFrom], ?_⟩
  rw [delays_eq hcommon]
  generalize s.deviceAppKeys.length = n at *
  constructor
  · intro h
    by_contra hproduct
    have hlast := h.floor (n - 1) (by simp; omega)
    simp only [List.getElem_map, List.getElem_range, List.length_map, List.length_range] at hlast
    have hlt := staggerDelay_lt_mark (i := n - 1) hinterval hfits (by omega) hlen (by omega)
    omega
  · intro hproduct
    have hmarks : (List.range n).map (fun i => staggerDelay interval i n) =
        (List.range n).map fun i => mark interval i n := by
      refine List.map_congr_left fun i hi => ?_
      have hi' : i < n := List.mem_range.mp hi
      have hle : interval * i ≤ interval * (n - 1 : Nat) :=
        Int.mul_le_mul_of_nonneg_left (by omega) (Int.le_of_lt hinterval)
      exact staggerDelay_eq_mark hinterval hfits hi' hlen (by omega)
    rw [hmarks]
    exact even_marks hinterval n

/-! ### Three devices -/

/-- The tenant's application has three devices, without intervals of their own. -/
def threeLoaded : Loaded :=
  { letterLoaded with
    deviceAppKeys := [1, 2, 3].flatMap fun b =>
      letterLoaded.deviceAppKeys.map fun entry => (Vector.replicate 8 b, entry.2) }

/-- Their simulation with this interval. -/
def threeSimulation (interval : Int) : Simulation :=
  { letterSimulation [] with uplinkInterval := interval, deviceCount := 3 }

theorem devInterval_threeSimulation (interval : Int) :
    ∀ key ∈ threeLoaded.deviceAppKeys, devInterval (threeSimulation interval) key.1 = interval :=
  fun _ _ => rfl

/-- With two minutes they wait 0, 40 and 80 seconds. -/
theorem staggered_iff_twoMinutes : (∀ (σ : Type) (env : Prog.Env σ Call.Answer) (fuel : Nat) (w : σ),
      MadeOf (delays (threeSimulation 120000000000) threeLoaded)
        ((runSimulation .plain (threeSimulation 120000000000) fuel threeLoaded).events env w)
        ((runSimulation .plain (threeSimulation 120000000000) fuel threeLoaded).result env w)) ∧
    (delays (threeSimulation 120000000000) threeLoaded).length = 3 ∧
    (Even 120000000000 (delays (threeSimulation 120000000000) threeLoaded) ↔
      (120000000000 : Int) * (3 - 1 : Nat) < 9223372036854775808) :=
  staggered_iff .plain (threeSimulation 120000000000) threeLoaded (by decide) (by decide) (by decide)
    (devInterval_threeSimulation _) (by decide)

/-- With `2 ^ 62` nanoseconds, some 146 years, the product wraps for the third: its delay is negative,
    in a run that ends well. -/
theorem overflow_not_even :
    (runSimulation .plain (threeSimulation 4611686018427387904) 1 threeLoaded).result
      (steady (Call.answer letterDevice)) () = .ok ∧
    delaysMade ((runSimulation .plain (threeSimulation 4611686018427387904) 1 threeLoaded).events
      (steady (Call.answer letterDevice)) ()) = [0, 1537228672809129301, -3074457345618258602] ∧
    ¬ Even 4611686018427387904 (delaysMade
      ((runSimulation .plain (threeSimulation 4611686018427387904) 1 threeLoaded).events
        (steady (Call.answer letterDevice)) ())) := by
  have hmade : delaysMade
      ((runSimulation .plain (threeSimulation 4611686018427387904) 1 threeLoaded).events
        (steady (Call.answer letterDevice)) ()) = [0, 1537228672809129301, -3074457345618258602] := by
    rfl
  refine ⟨rfl, hmade, fun h => ?_⟩
  rw [hmade] at h
  exact absurd (h.within _ (List.mem_cons_of_mem _ (List.mem_cons_of_mem _ List.mem_cons_self))).1
    (by decide)

end ChirpStackSimulator.Stagger
