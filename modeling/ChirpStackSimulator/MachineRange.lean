/-
  The random numbers of the name generator (`internal/mock/names.go`) in the arithmetic of the machine.

  `intInRange` computes the width of its interval as an `int`, which overflows where the interval is
  wider than half of all integers; it takes the width and the remainder of the random value as numbers
  without sign, turns the remainder back into an `int`, which may be negative, and adds it to the
  beginning of the interval, which may wrap around again.

  1. **Program** - `intInRange` and `pickWord` with an `int` of 64 bits, and an index out of range as an
     outcome of its own.

  2. **The wraps cancel** (`toInt_drawn`) - the result is the beginning of the interval and the remainder,
     as integers.  The program so is that of `MockNames`, which knows no machine
     (`toInt_intInRange`, `pickWord_eq`).

  3. **The range** (`intInRange_range`) - the result lies in the interval, each of its numbers is drawn for
     some random value, and no index is out of range.
-/
import ChirpStackSimulator.Lib.Wrap
import ChirpStackSimulator.MockNames

namespace ChirpStackSimulator.MachineRange

open MockNames (Draw Rand Reads readRand run_bind_ok succeeding readRand_succeeding)

/-! ## The program -/

/-- A slice; its length is an `int`. -/
structure Slice (α : Type) where
  list : List α
  length_lt : list.length < 2 ^ 63

variable {α : Type}

/-- `len`. -/
def Slice.len (words : Slice α) : Int64 := Int64.ofNat words.list.length

/-- An indexing, which panics where the index is out of range. -/
def Slice.index (words : Slice α) (i : Int64) : Option α :=
  if i < 0 ∨ words.len ≤ i then none else words.list[i.toInt.toNat]?

/-- `binary.BigEndian.Uint64`. -/
def bigEndianUint64 (buf : Vector UInt8 8) : UInt64 := UInt64.ofNat (Wrap.bigEndian buf.toList)

/-- `intInRange`. -/
def intInRange (min max : Int64) : Draw Int64 := do
  if max ≤ min then
    throw ("mock: invalid range [" ++ toString min ++ ", " ++ toString max ++ ")")
  let span := (max - min).toUInt64
  if span = 0 then
    return min
  let buf ← readRand
  let r := bigEndianUint64 buf % span
  return min + r.toInt64

/-- `pickWord`; `none` is a panic. -/
def pickWord (words : Slice String) : Draw (Option String) := do
  if words.len = 0 then
    throw "mock: empty word list"
  let idx ← intInRange 0 words.len
  return words.index idx

/-! ## The wraps cancel -/

/-- The result for a random value. -/
def drawn (min max : Int64) (value : UInt64) : Int64 :=
  min + (value % (max - min).toUInt64).toInt64

section
variable {min max : Int64}

/-- The width of the interval is right without sign. -/
theorem toNat_span (h : min < max) :
    (((max - min).toUInt64.toNat : Nat) : Int) = max.toInt - min.toInt :=
  Wrap.toNat_sub (Int.le_of_lt (Int64.lt_iff_toInt_lt.mp h))

theorem span_pos (h : min < max) : 0 < (max - min).toUInt64.toNat := by
  have hspan := toNat_span h
  have hlt := Int64.lt_iff_toInt_lt.mp h
  omega

/-- **The wraps cancel.** -/
theorem toInt_drawn (h : min < max) (value : UInt64) :
    (drawn min max value).toInt = min.toInt + (value.toNat % (max - min).toUInt64.toNat : Nat) := by
  have hspan := toNat_span h
  have hmod : value.toNat % (max - min).toUInt64.toNat < (max - min).toUInt64.toNat :=
    Nat.mod_lt _ (span_pos h)
  have hr : (value % (max - min).toUInt64).toBitVec.toNat =
      value.toNat % (max - min).toUInt64.toNat := UInt64.toNat_mod ..
  have hadd : (min.toBitVec + (value % (max - min).toUInt64).toBitVec).toInt =
      min.toInt + ((value % (max - min).toUInt64).toBitVec.toNat : Nat) := by
    refine Wrap.toInt_add (y := max.toBitVec) ?_
    rw [hr]
    show min.toInt + _ ≤ max.toInt
    omega
  rw [hr] at hadd
  exact hadd

theorem drawn_range (h : min < max) (value : UInt64) :
    min ≤ drawn min max value ∧ drawn min max value < max := by
  have hspan := toNat_span h
  have hmod := Nat.mod_lt value.toNat (span_pos h)
  rw [Int64.le_iff_toInt_le, Int64.lt_iff_toInt_lt, toInt_drawn h]
  omega

/-- Each number of the interval is drawn for its distance from the beginning. -/
theorem exists_drawn {v : Int64} (hmin : min ≤ v) (hmax : v < max) :
    ∃ value, drawn min max value = v := by
  have h : min < max := Int64.lt_of_le_of_lt hmin hmax
  have hspan := toNat_span h
  have hv : (((v - min).toUInt64.toNat : Nat) : Int) = v.toInt - min.toInt :=
    Wrap.toNat_sub (Int64.le_iff_toInt_le.mp hmin)
  rw [Int64.le_iff_toInt_le] at hmin
  rw [Int64.lt_iff_toInt_lt] at hmax
  refine ⟨(v - min).toUInt64, Int64.toInt_inj.mp ?_⟩
  rw [toInt_drawn h, Nat.mod_eq_of_lt (by omega), hv]
  omega

theorem intInRange_of_lt (h : min < max) :
    intInRange min max = readRand >>= fun buf => pure (drawn min max (bigEndianUint64 buf)) := by
  have hspan : (max - min).toUInt64 ≠ 0 := by
    intro hzero
    have hpos := span_pos h
    rw [hzero] at hpos
    exact absurd hpos (by decide)
  unfold intInRange
  rw [if_neg (Int64.not_le.mpr h)]
  dsimp only
  rw [if_neg hspan]
  rfl

end

/-! ## The integers -/

theorem toNat_bigEndianUint64 (buf : Vector UInt8 8) :
    (bigEndianUint64 buf).toNat = MockNames.bigEndianUint64 buf := by
  have hlt := Wrap.bigEndian_lt buf.toList
  rw [Vector.length_toList] at hlt
  exact UInt64.toNat_ofNat_of_lt hlt

/-- Every random value is that of some bytes. -/
theorem exists_bigEndianUint64 (value : UInt64) : ∃ buf, bigEndianUint64 buf = value := by
  obtain ⟨bytes, hlength, hbytes⟩ := Wrap.exists_bigEndian 8 value.toNat value.toNat_lt
  refine ⟨⟨bytes.toArray, hlength⟩, ?_⟩
  unfold bigEndianUint64
  show UInt64.ofNat (Wrap.bigEndian bytes) = value
  rw [hbytes, UInt64.ofNat_toNat]

/-- **The machine computes with integers**, and its errors are theirs. -/
theorem toInt_intInRange (min max : Int64) :
    Int64.toInt <$> intInRange min max = MockNames.intInRange min.toInt max.toInt := by
  by_cases h : min < max
  · have hlt := Int64.lt_iff_toInt_lt.mp h
    have hspan : (max - min).toUInt64.toNat = (max.toInt - min.toInt).toNat := by
      rw [← toNat_span h, Int.toNat_natCast]
    rw [intInRange_of_lt h]
    unfold MockNames.intInRange
    rw [if_neg (by omega), map_bind]
    refine congrArg _ (funext fun buf => ?_)
    rw [map_pure, toInt_drawn h, toNat_bigEndianUint64, hspan]
  · have hle : max ≤ min := Int64.not_lt.mp h
    have hle' : max.toInt ≤ min.toInt := Int64.le_iff_toInt_le.mp hle
    unfold intInRange MockNames.intInRange
    rw [if_pos hle, if_pos hle']
    rfl

/-- The length of a slice is that of its list. -/
theorem Slice.toInt_len (words : Slice α) : words.len.toInt = words.list.length :=
  Int64.toInt_ofNat_of_lt words.length_lt

/-- Within the length an indexing does not panic. -/
theorem Slice.index_eq (words : Slice α) {i : Int64} (hzero : 0 ≤ i) (hlt : i < words.len) (d : α) :
    words.index i = some (words.list.getD i.toInt.toNat d) := by
  have hlen := words.toInt_len
  have hrange : ¬ (i < 0 ∨ words.len ≤ i) := by
    rintro (hneg | hge)
    · exact Int64.not_le.mpr hneg hzero
    · exact Int64.not_le.mpr hlt hge
  rw [Int64.le_iff_toInt_le, Int64.toInt_zero] at hzero
  rw [Int64.lt_iff_toInt_lt] at hlt
  have hi : i.toInt.toNat < words.list.length := by omega
  unfold Slice.index
  rw [if_neg hrange, List.getD_eq_getElem?_getD, List.getElem?_eq_getElem hi]
  rfl

/-- **`pickWord` never panics**: it is that of `MockNames`. -/
theorem pickWord_eq (words : Slice String) :
    pickWord words = some <$> MockNames.pickWord words.list := by
  have hlen := words.toInt_len
  by_cases hnil : words.list.length = 0
  · have hzero : words.len = 0 := by
      rw [← Int64.toInt_inj, hlen, hnil]
      rfl
    unfold pickWord MockNames.pickWord
    rw [if_pos hzero, if_pos hnil]
    rfl
  · have hpos : 0 < words.len := by
      rw [Int64.lt_iff_toInt_lt, hlen, Int64.toInt_zero]
      omega
    have hne : words.len ≠ 0 := by
      intro hzero
      rw [hzero] at hpos
      exact absurd hpos (by decide)
    have hinteger : MockNames.intInRange 0 words.list.length =
        Int64.toInt <$> intInRange 0 words.len := by
      rw [toInt_intInRange, hlen, Int64.toInt_zero]
    unfold pickWord MockNames.pickWord
    rw [if_neg hne, if_neg hnil]
    dsimp only
    rw [hinteger, intInRange_of_lt hpos]
    simp only [map_bind, bind_assoc, pure_bind, map_pure]
    refine congrArg _ (funext fun buf => ?_)
    obtain ⟨hzero, hlt⟩ := drawn_range hpos (bigEndianUint64 buf)
    rw [words.index_eq hzero hlt ""]

/-! ## The range -/

theorem intInRange_succeeding {min max : Int64} (h : min < max) (reads : Reads) :
    (intInRange min max).run.run (succeeding reads) =
      (.ok (drawn min max (bigEndianUint64 (reads 0))), succeeding (reads.drop 1)) := by
  rw [intInRange_of_lt h]
  exact run_bind_ok (readRand_succeeding reads)

/-- A call of `pickWord` that returns has a word. -/
theorem pickWord_ne_none (words : Slice String) (rand : Rand) :
    ((pickWord words).run.run rand).1 ≠ .ok none := by
  rw [pickWord_eq, ExceptT.run_map, StateT.run_map]
  obtain ⟨result, rest⟩ := (MockNames.pickWord words.list).run.run rand
  cases result with
  | error err =>
    show (Except.error err : Except String (Option String)) ≠ .ok none
    simp
  | ok word =>
    show (Except.ok (some word) : Except String (Option String)) ≠ .ok none
    simp

/-- **The range.**  Whatever the random bytes are, `intInRange` returns a number of its interval; it
    returns each of them for some bytes; and `pickWord` never panics, whether or not its read
    succeeds. -/
theorem intInRange_range (min max : Int64) (h : min < max) :
    (∀ reads, ∃ r, (intInRange min max).run.run (succeeding reads) =
      (.ok r, succeeding (reads.drop 1)) ∧ min ≤ r ∧ r < max) ∧
    (∀ v, min ≤ v → v < max → ∃ buf, ∀ reads : Reads, reads 0 = buf →
      (intInRange min max).run.run (succeeding reads) = (.ok v, succeeding (reads.drop 1))) ∧
    ∀ (words : Slice String) (rand : Rand), ((pickWord words).run.run rand).1 ≠ .ok none := by
  refine ⟨fun reads => ?_, fun v hmin hmax => ?_, pickWord_ne_none⟩
  · exact ⟨_, intInRange_succeeding h reads, drawn_range h _⟩
  · obtain ⟨value, hvalue⟩ := exists_drawn hmin hmax
    obtain ⟨buf, hbuf⟩ := exists_bigEndianUint64 value
    refine ⟨buf, fun reads hreads => ?_⟩
    rw [intInRange_succeeding h, hreads, hbuf, hvalue]

/-- The interval of all integers but the last, whose width is no `int`. -/
theorem intInRange_range_widest :
    ∃ buf, ∀ reads : Reads, reads 0 = buf →
      (intInRange Int64.minValue Int64.maxValue).run.run (succeeding reads) =
        (.ok 0, succeeding (reads.drop 1)) :=
  (intInRange_range Int64.minValue Int64.maxValue (by decide)).2.1 0 (by decide) (by decide)

end ChirpStackSimulator.MachineRange
