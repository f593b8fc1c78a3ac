/-
  Texts of a browser: `trim`, `parseInt` and the values of text fields.

  What a program writes into a field and reads back is not always what it wrote: a text field drops
  line breaks, an area normalises them, `trim` takes the blanks off both ends.  Each of these does
  nothing the second time, and a whole number comes back from its decimal text.

  1. **Blanks** - `trim`, which is idempotent (`trim_trim`), and `length`, which counts UTF-16
     units.
  2. **Fields** - what a text field and a text area hold of an assigned value.  An area does nothing
     to a value it has held before (`areaValue_areaValue`), and trimming leaves nothing for a field
     to drop (`fieldValue_trim_fieldValue`).
  3. **Numbers** - `parseInt(text, 10)`, as an exact integer, which reads a printed integer back
     (`parseInt_toString`).
-/
import Mathlib.Algebra.GroupWithZero.Nat
import Mathlib.Data.List.DropRight

namespace JsText

/-! ## Blanks -/

/-- `WhiteSpace` and `LineTerminator` of the language. -/
def isSpace (c : Char) : Bool :=
  [0x9, 0xA, 0xB, 0xC, 0xD, 0x20, 0xA0, 0x1680, 0x2028, 0x2029, 0x202F, 0x205F, 0x3000,
    0xFEFF].contains c.toNat || (0x2000 ≤ c.toNat && c.toNat ≤ 0x200A)

/-- White space is dropped at both ends. -/
def trimChars (cs : List Char) : List Char := (cs.dropWhile isSpace).rdropWhile isSpace

/-- `String.prototype.trim`. -/
def trim (text : String) : String := String.ofList (trimChars text.toList)

/-- Dropping from the end leaves a head that is not dropped from the front. -/
theorem dropWhile_rdropWhile (p : Char → Bool) {cs : List Char} (h : cs.dropWhile p = cs) :
    (cs.rdropWhile p).dropWhile p = cs.rdropWhile p := by
  cases hkept : cs.rdropWhile p with
  | nil => rfl
  | cons c rest =>
    obtain ⟨dropped, hcs⟩ : cs.rdropWhile p <+: cs := List.rdropWhile_prefix p cs
    rw [hkept] at hcs
    rw [← hcs, List.cons_append, List.dropWhile_cons] at h
    have hc : p c = false := by
      by_contra hp
      rw [Bool.not_eq_false] at hp
      rw [if_pos hp] at h
      have hlen := congrArg List.length h
      have hle := (List.dropWhile_sublist p (l := rest ++ dropped)).length_le
      rw [List.length_cons] at hlen
      omega
    rw [List.dropWhile_cons, hc, if_neg Bool.false_ne_true]

@[simp] theorem trimChars_trimChars (cs : List Char) : trimChars (trimChars cs) = trimChars cs := by
  show ((trimChars cs).dropWhile isSpace).rdropWhile isSpace = trimChars cs
  have hfront : (cs.dropWhile isSpace).dropWhile isSpace = cs.dropWhile isSpace :=
    List.dropWhile_idempotent isSpace cs
  have hdrop : (trimChars cs).dropWhile isSpace = trimChars cs := dropWhile_rdropWhile isSpace hfront
  rw [hdrop]
  exact List.rdropWhile_idempotent isSpace (cs.dropWhile isSpace)

@[simp] theorem trim_trim (text : String) : trim (trim text) = trim text := by
  simp [trim]

/-- `text.length`, in UTF-16 units. -/
def length (text : String) : Nat := (text.toList.map fun c => if c.toNat < 0x10000 then 1 else 2).sum

theorem length_empty : length "" = 0 := by simp [length]

/-! ## Fields -/

/-- The value of a text field that `text` is assigned to: without line breaks. -/
def fieldValue (text : String) : String :=
  String.ofList (text.toList.filter fun c => c ≠ '\n' ∧ c ≠ '\r')

/-- Every line break becomes a line feed. -/
def normalizeNewlines : List Char → List Char
  | [] => []
  | '\r' :: '\n' :: cs => '\n' :: normalizeNewlines cs
  | c :: cs => (if c = '\r' then '\n' else c) :: normalizeNewlines cs

/-- The value of a text area that `text` is assigned to: every line break is one line feed. -/
def areaValue (text : String) : String := String.ofList (normalizeNewlines text.toList)

theorem trimChars_sublist (cs : List Char) : (trimChars cs).Sublist cs :=
  (List.rdropWhile_prefix isSpace (cs.dropWhile isSpace)).sublist.trans (List.dropWhile_sublist isSpace)

/-- Trimming leaves nothing for the field to drop. -/
@[simp] theorem fieldValue_trim_fieldValue (text : String) :
    fieldValue (trim (fieldValue text)) = trim (fieldValue text) := by
  have hkeep : ∀ c ∈ (trim (fieldValue text)).toList, decide (c ≠ '\n' ∧ c ≠ '\r') = true := by
    intro c hc
    have hmem : c ∈ (fieldValue text).toList := by
      rw [trim, String.toList_ofList] at hc
      exact (trimChars_sublist _).subset hc
    rw [fieldValue, String.toList_ofList] at hmem
    exact (List.mem_filter.mp hmem).2
  rw [fieldValue, List.filter_eq_self.mpr hkeep, String.ofList_toList]

/-- Without a carriage return nothing changes. -/
theorem normalizeNewlines_of_not_mem {cs : List Char} (h : '\r' ∉ cs) :
    normalizeNewlines cs = cs := by
  induction cs using normalizeNewlines.induct with
  | case1 => rfl
  | case2 cs ih => exact absurd List.mem_cons_self h
  | case3 c cs hcr ih =>
    have hc : c ≠ '\r' := fun e => h (by simp [e])
    rw [normalizeNewlines, if_neg hc, ih fun hmem => h (List.mem_cons_of_mem c hmem)]
    exact hcr

/-- No carriage return is left. -/
theorem not_mem_normalizeNewlines (cs : List Char) : '\r' ∉ normalizeNewlines cs := by
  induction cs using normalizeNewlines.induct with
  | case1 => exact List.not_mem_nil
  | case2 cs ih =>
    rw [normalizeNewlines, List.mem_cons, not_or]
    exact ⟨by decide, ih⟩
  | case3 c cs hcr ih =>
    have hc : '\r' ≠ if c = '\r' then '\n' else c := by
      split
      · decide
      · rename_i hne
        exact Ne.symm hne
    rw [normalizeNewlines, List.mem_cons, not_or]
    · exact ⟨hc, ih⟩
    · exact hcr

@[simp] theorem areaValue_areaValue (text : String) : areaValue (areaValue text) = areaValue text := by
  rw [areaValue, areaValue, String.toList_ofList,
    normalizeNewlines_of_not_mem (not_mem_normalizeNewlines _)]

/-! ## Numbers -/

/-- The number of the leading digits, if there are any. -/
def leadingNumber (cs : List Char) : Option Nat :=
  let digits := cs.takeWhile Char.isDigit
  if digits = [] then none else some (Nat.ofDigitChars 10 digits 0)

/-- `parseInt(text, 10)`, without the rounding to a double; `NaN` is `none`. -/
def parseInt (text : String) : Option Int :=
  match text.toList.dropWhile isSpace with
  | '-' :: rest => (leadingNumber rest).map fun n => -(n : Int)
  | '+' :: rest => (leadingNumber rest).map fun n => (n : Int)
  | cs => (leadingNumber cs).map fun n => (n : Int)

/-- The digits of a number are read as that number. -/
theorem leadingNumber_toDigits (n : Nat) : leadingNumber (Nat.toDigits 10 n) = some n := by
  have hdigits : (Nat.toDigits 10 n).takeWhile Char.isDigit = Nat.toDigits 10 n :=
    List.takeWhile_eq_self_iff.mpr fun c hc => Nat.isDigit_of_mem_toDigits (by omega) (by omega) hc
  have hne : Nat.toDigits 10 n ≠ [] := List.ne_nil_of_length_pos Nat.length_toDigits_pos
  simp [leadingNumber, hdigits, hne, Nat.ofDigitChars_ten_toDigits]

/-- A text of digits starts with no blank and no sign. -/
theorem toDigits_cons {n : Nat} {c : Char} {cs : List Char} (h : Nat.toDigits 10 n = c :: cs) :
    isSpace c = false ∧ c ≠ '-' ∧ c ≠ '+' := by
  have hdigit : c.isDigit = true :=
    Nat.isDigit_of_mem_toDigits (by omega) (by omega) (h ▸ List.mem_cons_self)
  have hrange : 48 ≤ c.toNat ∧ c.toNat ≤ 57 := by
    simp only [Char.isDigit, Bool.and_eq_true, decide_eq_true_eq] at hdigit
    exact ⟨UInt32.le_iff_toNat_le.mp hdigit.1, UInt32.le_iff_toNat_le.mp hdigit.2⟩
  refine ⟨?_, ?_, ?_⟩
  · simp only [isSpace, Bool.or_eq_false_iff, Bool.and_eq_false_iff, decide_eq_false_iff_not]
    refine ⟨?_, .inl (by omega)⟩
    rw [List.contains_eq_mem, decide_eq_false_iff_not]
    intro hmem
    simp only [List.mem_cons, List.not_mem_nil, or_false] at hmem
    omega
  · rintro rfl
    exact absurd hrange (by decide)
  · rintro rfl
    exact absurd hrange (by decide)

/-- **A whole number is read back.** -/
theorem parseInt_toString (n : Int) : parseInt (toString n) = some n := by
  cases n with
  | ofNat n =>
    have htext : (toString (Int.ofNat n)).toList = Nat.toDigits 10 n := Nat.toList_repr
    have hleading := leadingNumber_toDigits n
    cases hdigits : Nat.toDigits 10 n with
    | nil => exact absurd hdigits (List.ne_nil_of_length_pos Nat.length_toDigits_pos)
    | cons c cs =>
      obtain ⟨hspace, hminus, hplus⟩ := toDigits_cons hdigits
      rw [hdigits] at htext hleading
      unfold parseInt
      rw [htext, List.dropWhile_cons, hspace, if_neg Bool.false_ne_true]
      split
      · rename_i h
        exact absurd (List.cons.inj h).1 hminus
      · rename_i h
        exact absurd (List.cons.inj h).1 hplus
      · rw [hleading]
        rfl
  | negSucc n =>
    have htext : (toString (Int.negSucc n)).toList = '-' :: Nat.toDigits 10 (n + 1) := by
      rw [← Nat.toList_repr]
      exact String.toList_append
    have hspace : isSpace '-' = false := by decide
    unfold parseInt
    rw [htext, List.dropWhile_cons, hspace, if_neg Bool.false_ne_true]
    simp [leadingNumber_toDigits, Int.negSucc_eq]

end JsText
