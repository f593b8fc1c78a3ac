/-
  The comparison of snapshots, whatever the order of its ranges (`internal/api/passive_sync.go`).

  `diffSlices` makes a set of each list and ranges over both, so the order of what it returns is
  any, and another one at each call.  A range is a `MapRange`, and everything here is for all of
  them.

  1. **Orders** - `diffSlices` and `compareSnapshots` with the orders of their ranges; the functions
     of `Topology` are those that go along the lists (`diffSlicesOver_ofList`,
     `compareSnapshotsOver_ofList`).
  2. **The differences** (`diffSlicesOver_exact`), whatever the orders: `DiffExact` says what is
     added and what is removed as sets, and that neither has repetitions.
  3. **The comparison** (`comparison_exact`), and what follows of the one along the lists
     (`compareSnapshots_eq_nil_iff`).
-/
import ChirpStackSimulator.Lib.MapRange
import ChirpStackSimulator.Topology
import Mathlib.Data.Finset.SDiff

namespace ChirpStackSimulator.PassiveSync

/-! ## Orders -/

/-- The ranges over `oldSet` and `newSet`. -/
structure SliceRanges (old new : List String) where
  oldSet : MapRange old.toFinset
  newSet : MapRange new.toFinset

/-- Both sets in the order in which their elements come first. -/
def SliceRanges.ofList (old new : List String) : SliceRanges old new := ⟨.ofList old, .ofList new⟩

/-- `diffSlices`. -/
def diffSlicesOver {old new : List String} (r : SliceRanges old new) : List String × List String :=
  (r.newSet.collect fun v => v ∉ old.toFinset, r.oldSet.collect fun v => v ∉ new.toFinset)

/-- The entries of one kind. -/
def entries (k : Kind) (diff : List String × List String) : List String :=
  (if diff.1.length > 0 then [k.addedText diff.1] else []) ++
    (if diff.2.length > 0 then [k.removedText diff.2] else [])

/-- `compareSnapshots`. -/
def compareSnapshotsOver (old new : TopologySnapshot)
    (r : (k : Kind) → SliceRanges (old.ids k) (new.ids k)) : List String :=
  entries .tenant (diffSlicesOver (r .tenant)) ++
  entries .gateway (diffSlicesOver (r .gateway)) ++
  entries .deviceProfile (diffSlicesOver (r .deviceProfile)) ++
  entries .application (diffSlicesOver (r .application)) ++
  entries .device (diffSlicesOver (r .device))

theorem diffSlicesOver_ofList (old new : List String) :
    diffSlicesOver (.ofList old new) = diffSlices old new := by
  unfold diffSlicesOver diffSlices SliceRanges.ofList MapRange.collect MapRange.ofList
  simp only [List.mem_toFinset]

theorem compareSnapshotsOver_ofList (old new : TopologySnapshot) :
    compareSnapshotsOver old new (fun k => .ofList (old.ids k) (new.ids k)) =
      compareSnapshots old new := by
  unfold compareSnapshotsOver
  simp only [diffSlicesOver_ofList]
  rfl

/-! ## The differences -/

/-- What was added and what was removed: both without repetitions, and the old set without the one and
    with the other is the new set. -/
structure DiffExact (old new added removed : List String) : Prop where
  nodup_added : added.Nodup
  nodup_removed : removed.Nodup
  added_eq : added.toFinset = new.toFinset \ old.toFinset
  removed_eq : removed.toFinset = old.toFinset \ new.toFinset
  applied : (old.toFinset \ removed.toFinset) ∪ added.toFinset = new.toFinset

theorem filter_notMem_eq_sdiff (s t : Finset String) : s.filter (fun v => v ∉ t) = s \ t := by
  ext v
  rw [Finset.mem_filter, Finset.mem_sdiff]

theorem diffSlicesOver_exact {old new : List String} (r : SliceRanges old new) :
    DiffExact old new (diffSlicesOver r).1 (diffSlicesOver r).2 := by
  have hadded : (diffSlicesOver r).1.toFinset = new.toFinset \ old.toFinset := by
    rw [← filter_notMem_eq_sdiff]
    exact r.newSet.toFinset_collect
  have hremoved : (diffSlicesOver r).2.toFinset = old.toFinset \ new.toFinset := by
    rw [← filter_notMem_eq_sdiff]
    exact r.oldSet.toFinset_collect
  refine ⟨r.newSet.nodup_collect, r.oldSet.nodup_collect, hadded, hremoved, ?_⟩
  rw [hadded, hremoved]
  ext v
  simp only [Finset.mem_union, Finset.mem_sdiff, not_and, not_not]
  constructor
  · rintro (⟨hold, hkept⟩ | ⟨hnew, -⟩)
    · exact hkept hold
    · exact hnew
  · intro hnew
    by_cases hold : v ∈ old.toFinset
    · exact Or.inl ⟨hold, fun _ => hnew⟩
    · exact Or.inr ⟨hnew, hold⟩

theorem diffSlicesOver_eq_nil_iff {old new : List String} (r : SliceRanges old new) :
    ((diffSlicesOver r).1 = [] ∧ (diffSlicesOver r).2 = []) ↔ old.toFinset = new.toFinset := by
  unfold diffSlicesOver
  rw [MapRange.collect_eq_nil_iff, MapRange.collect_eq_nil_iff]
  constructor
  · rintro ⟨hnew, hold⟩
    ext v
    exact ⟨fun h => not_not.mp (hold v h), fun h => not_not.mp (hnew v h)⟩
  · intro h
    rw [h]
    exact ⟨fun v hv => not_not.mpr hv, fun v hv => not_not.mpr hv⟩

/-! ## The comparison -/

theorem entries_eq_nil_iff {k : Kind} {diff : List String × List String} :
    entries k diff = [] ↔ diff.1 = [] ∧ diff.2 = [] := by
  unfold entries
  rw [List.append_eq_nil_iff]
  refine and_congr ?_ ?_
  · cases diff.1 with
    | nil => simp
    | cons v vs => simp
  · cases diff.2 with
    | nil => simp
    | cons v vs => simp

/-- There is no entry exactly if the lists have the same elements, kind by kind. -/
theorem compareSnapshotsOver_eq_nil_iff {old new : TopologySnapshot}
    (r : (k : Kind) → SliceRanges (old.ids k) (new.ids k)) :
    compareSnapshotsOver old new r = [] ↔ ∀ k, (old.ids k).toFinset = (new.ids k).toFinset := by
  unfold compareSnapshotsOver
  simp only [List.append_eq_nil_iff, entries_eq_nil_iff, diffSlicesOver_eq_nil_iff]
  constructor
  · rintro ⟨⟨⟨⟨htenant, hgateway⟩, hprofile⟩, happ⟩, hdevice⟩ k
    cases k with
    | tenant => exact htenant
    | gateway => exact hgateway
    | deviceProfile => exact hprofile
    | application => exact happ
    | device => exact hdevice
  · intro h
    exact ⟨⟨⟨⟨h .tenant, h .gateway⟩, h .deviceProfile⟩, h .application⟩, h .device⟩

/-- **There is no entry exactly if both see the same**, also along the lists. -/
theorem compareSnapshots_eq_nil_iff {old new : TopologySnapshot} :
    compareSnapshots old new = [] ↔ SameIDs old new := by
  rw [← compareSnapshotsOver_ofList, compareSnapshotsOver_eq_nil_iff]
  refine forall_congr' fun k => ?_
  rw [Finset.ext_iff]
  simp only [List.mem_toFinset]

/-- **The comparison is exact**, in whatever order the ranges go: there is no change exactly if the five
    lists have the same elements, and the differences of two lists are those of their sets, each id
    once. -/
theorem comparison_exact :
    (∀ (old new : TopologySnapshot) (r : (k : Kind) → SliceRanges (old.ids k) (new.ids k)),
      compareSnapshotsOver old new r = [] ↔ ∀ k, (old.ids k).toFinset = (new.ids k).toFinset) ∧
    ∀ (old new : List String) (r : SliceRanges old new),
      DiffExact old new (diffSlicesOver r).1 (diffSlicesOver r).2 :=
  ⟨fun _ _ r => compareSnapshotsOver_eq_nil_iff r, fun _ _ r => diffSlicesOver_exact r⟩

end ChirpStackSimulator.PassiveSync
