/-
  Fields at fixed places of a block.

  A field is a start and its content; `write` puts it into a block, `read` takes it out again.
  Nothing is said about what a block is for, or about the type of its elements.

  1. **One field** - a field that fits is read back from where it was written (`read_write`), and
     one that is apart from it stays as it is (`read_write_of_apart`).  Both come from one equation
     for the element at a place (`getElem?_write`).
  2. **Several fields** - fields that do not overlap and fit into the block can all be read back
     from the block they were written into (`read_writeAll`), whatever the order they were written
     in; the induction is on the fields, each of which keeps the ones before it.
  3. **Injectivity** - so the block determines its fields: two blocks of one layout that are the
     same hold the same (`writeAll_inj`).
-/
import Mathlib.Data.List.Basic

namespace Layout

variable {α : Type}

/-- A field: where it starts, and what it holds. -/
abbrev Field (α : Type) := Nat × List α

/-- The end of a field. -/
def stop (f : Field α) : Nat := f.1 + f.2.length

/-- The fields have no place in common. -/
def Apart (f g : Field α) : Prop := stop f ≤ g.1 ∨ stop g ≤ f.1

/-- The block with the field in it. -/
def write (b : List α) (f : Field α) : List α := b.take f.1 ++ f.2 ++ b.drop (stop f)

/-- What stands at the `n` places from `start` on. -/
def read (b : List α) (start n : Nat) : List α := (b.drop start).take n

/-- The block with the fields in it, the first of them written first. -/
def writeAll (b : List α) : List (Field α) → List α
  | [] => b
  | f :: fields => writeAll (write b f) fields

variable {b : List α} {f g : Field α} {fields : List (Field α)}

theorem Apart.symm (h : Apart f g) : Apart g f := Or.symm h

theorem length_write (h : stop f ≤ b.length) : (write b f).length = b.length := by
  simp only [stop] at h
  simp only [write, stop, List.length_append, List.length_take, List.length_drop]
  omega

theorem getElem?_write (h : stop f ≤ b.length) (i : Nat) :
    (write b f)[i]? = if f.1 ≤ i ∧ i < stop f then f.2[i - f.1]? else b[i]? := by
  have hstart : (b.take f.1).length = f.1 := by
    simp only [stop] at h
    rw [List.length_take]
    omega
  have hfront : (b.take f.1 ++ f.2).length = stop f := by
    rw [List.length_append, hstart, stop]
  unfold write
  rcases Nat.lt_or_ge i f.1 with hbefore | hge
  · rw [if_neg (by omega), List.append_assoc, List.getElem?_append_left (by omega),
      List.getElem?_take_of_lt hbefore]
  · rcases Nat.lt_or_ge i (stop f) with hin | hafter
    · rw [if_pos ⟨hge, hin⟩, List.getElem?_append_left (by omega),
        List.getElem?_append_right (by omega), hstart]
    · rw [if_neg (by omega), List.getElem?_append_right (by omega), hfront, List.getElem?_drop]
      congr 1
      omega

/-- A field that has been written is read back. -/
theorem read_write (h : stop f ≤ b.length) : read (write b f) f.1 f.2.length = f.2 := by
  have hstop : stop f = f.1 + f.2.length := rfl
  refine List.ext_getElem? fun i => ?_
  rw [read, List.getElem?_take, List.getElem?_drop, getElem?_write h]
  split
  · rw [if_pos (by omega)]
    congr 1
    omega
  · exact (List.getElem?_eq_none (by omega)).symm

/-- A field that is apart from the one written stays as it is. -/
theorem read_write_of_apart (h : stop f ≤ b.length) (hapart : Apart f g) :
    read (write b f) g.1 g.2.length = read b g.1 g.2.length := by
  refine List.ext_getElem? fun i => ?_
  simp only [read, List.getElem?_take, List.getElem?_drop]
  split
  · rw [getElem?_write h, if_neg]
    simp only [Apart, stop] at hapart ⊢
    omega
  · rfl

theorem read_writeAll_of_apart (hfits : ∀ f ∈ fields, stop f ≤ b.length)
    (hapart : ∀ f ∈ fields, Apart f g) :
    read (writeAll b fields) g.1 g.2.length = read b g.1 g.2.length := by
  induction fields generalizing b with
  | nil => rfl
  | cons f fields ih =>
    obtain ⟨hf, hrest⟩ := List.forall_mem_cons.mp hfits
    obtain ⟨hfg, hrestapart⟩ := List.forall_mem_cons.mp hapart
    rw [writeAll, ih (length_write hf ▸ hrest) hrestapart, read_write_of_apart hf hfg]

/-- **Every field is read back from the block.** -/
theorem read_writeAll (hfits : ∀ f ∈ fields, stop f ≤ b.length) (hapart : fields.Pairwise Apart)
    (hg : g ∈ fields) : read (writeAll b fields) g.1 g.2.length = g.2 := by
  induction fields generalizing b with
  | nil => exact absurd hg List.not_mem_nil
  | cons f fields ih =>
    obtain ⟨hf, hrest⟩ := List.forall_mem_cons.mp hfits
    obtain ⟨hfirst, hothers⟩ := List.pairwise_cons.mp hapart
    rcases List.mem_cons.mp hg with rfl | hg
    · rw [writeAll, read_writeAll_of_apart (length_write hf ▸ hrest) fun f hf' => (hfirst f hf').symm,
        read_write hf]
    · exact ih (length_write hf ▸ hrest) hothers hg

/-- **The block determines its fields**: two blocks of one layout that are the same hold the same. -/
theorem writeAll_inj {c : List α} {others : List (Field α)}
    (hfits : ∀ f ∈ fields, stop f ≤ b.length) (hapart : fields.Pairwise Apart)
    (hfits' : ∀ f ∈ others, stop f ≤ c.length) (hapart' : others.Pairwise Apart)
    (hlayout : fields.map (fun f => (f.1, f.2.length)) = others.map fun f => (f.1, f.2.length))
    (h : writeAll b fields = writeAll c others) : fields = others := by
  have hlength : fields.length = others.length := by simpa using congrArg List.length hlayout
  refine List.ext_getElem hlength fun i hi hi' => ?_
  have hplace : (fields[i].1, fields[i].2.length) = (others[i].1, others[i].2.length) := by
    have hi'' := congrArg (·[i]?) hlayout
    simpa [List.getElem?_eq_getElem hi, List.getElem?_eq_getElem hi'] using hi''
  obtain ⟨hstart, hcount⟩ := Prod.mk.inj hplace
  refine Prod.ext hstart ?_
  calc fields[i].2 = read (writeAll b fields) fields[i].1 fields[i].2.length :=
        (read_writeAll hfits hapart (List.getElem_mem hi)).symm
    _ = read (writeAll c others) others[i].1 others[i].2.length := by rw [h, hstart, hcount]
    _ = others[i].2 := read_writeAll hfits' hapart' (List.getElem_mem hi')

end Layout
