/-
  The event-stream format, as a browser's `EventSource` reads it.

  The text is a sequence of lines that end with a line feed, a carriage return or both.  A line is a
  field, its name before the first colon; a blank line dispatches the message whose data the `data`
  fields since the last one have made up.  The fields `id` and `retry` have no part in the data.

  A writer frames each piece of data as one `data` field and a blank line, whatever the piece holds.

  1. **Reading** — `step` takes one character.

  2. **Frames** leave the reader as they find it, ready for the next (`ready_frame`).  A piece without
     line breaks is read as one message (`read_frame`).

  3. **Size** — what the reader holds and has dispatched grows by at most one for every character that
     is no line break (`size_step`).  A frame with a line break in it therefore comes out smaller than
     it went in (`size_frame`), whatever its lines look like.

  4. **The law** (`parse_frames_iff`): the messages are the pieces exactly if none holds a line break.
-/
import Mathlib.Algebra.GroupWithZero.Nat
import Mathlib.Data.List.Basic

namespace EventStream

/-! ## Reading -/

/-- A reader: the line so far, the message so far, and the messages dispatched. -/
structure Reader where
  line : List Char
  /-- The last character was a carriage return, so a line feed belongs to it. -/
  afterCR : Bool
  data : List Char
  type : List Char
  messages : List (List Char)
  deriving DecidableEq

def empty : Reader := ⟨[], false, [], [], []⟩

/-- The name of a line's field. -/
def fieldName (line : List Char) : List Char := line.takeWhile (· ≠ ':')

/-- Its value, without one space in front. -/
def fieldValue (line : List Char) : List Char :=
  match (line.dropWhile (· ≠ ':')).tail with
  | ' ' :: value => value
  | value => value

/-- A line that is not blank. -/
def Reader.field (p : Reader) : Reader :=
  if fieldName p.line = ['d', 'a', 't', 'a'] then
    { p with data := p.data ++ fieldValue p.line ++ ['\n'] }
  else if fieldName p.line = ['e', 'v', 'e', 'n', 't'] then { p with type := fieldValue p.line }
  else p

/-- The type of a message that is handed to `onmessage`. -/
def Plain (type : List Char) : Prop := type = [] ∨ type = ['m', 'e', 's', 's', 'a', 'g', 'e']

instance (type : List Char) : Decidable (Plain type) := by unfold Plain; infer_instance

/-- A blank line; without data there is no message.  The data loses the line feed at its end. -/
def Reader.dispatch (p : Reader) : Reader :=
  if p.data = [] then { p with type := [] }
  else
    { p with
      data := []
      type := []
      messages := if Plain p.type then p.messages ++ [p.data.dropLast] else p.messages }

/-- The end of a line. -/
def Reader.endLine (p : Reader) : Reader :=
  { (if p.line = [] then p.dispatch else p.field) with line := [] }

/-- A line feed or a carriage return. -/
def IsBreak (c : Char) : Prop := c = '\n' ∨ c = '\r'

instance (c : Char) : Decidable (IsBreak c) := inferInstanceAs (Decidable (_ ∨ _))

/-- The next character. -/
def step (p : Reader) (c : Char) : Reader :=
  if c = '\n' ∧ p.afterCR = true then { p with afterCR := false }
  else if IsBreak c then { p.endLine with afterCR := c = '\r' }
  else { p with line := p.line ++ [c], afterCR := false }

/-- The characters of a text. -/
def read (p : Reader) (text : List Char) : Reader := text.foldl step p

/-- The messages of a stream; a byte order mark in front is skipped, and what is not finished with a
    blank line is lost. -/
def parse (text : List Char) : List (List Char) :=
  (read empty (if text.head? = some (Char.ofNat 0xfeff) then text.tail else text)).messages

@[simp] theorem read_nil (p : Reader) : read p [] = p := rfl

theorem read_append (p : Reader) (text more : List Char) :
    read p (text ++ more) = read (read p text) more := List.foldl_append

/-! ## Frames -/

/-- A piece of data on its own. -/
def frame (piece : List Char) : List Char := ['d', 'a', 't', 'a', ':', ' '] ++ piece ++ ['\n', '\n']

/-- Nothing is left over from what was read. -/
structure Ready (p : Reader) : Prop where
  line : p.line = []
  afterCR : p.afterCR = false
  data : p.data = []
  type : p.type = []

theorem ready_empty : Ready empty := ⟨rfl, rfl, rfl, rfl⟩

/-- After a carriage return the line is blank. -/
def Settled (p : Reader) : Prop := p.afterCR = true → p.line = []

theorem settled_step (p : Reader) (c : Char) : Settled (step p c) := by
  unfold step Settled
  split
  · simp
  · split
    · exact fun _ => rfl
    · simp

theorem settled_read (text : List Char) {p : Reader} (h : Settled p) : Settled (read p text) := by
  induction text generalizing p with
  | nil => exact h
  | cons c text ih => exact ih (settled_step p c)

/-- A line feed leaves a blank line. -/
theorem line_step_newline {p : Reader} (h : Settled p) :
    (step p '\n').line = [] ∧ (step p '\n').afterCR = false := by
  unfold step
  split
  · rename_i hcr
    exact ⟨h hcr.2, rfl⟩
  · rw [if_pos (show IsBreak '\n' from Or.inl rfl)]
    exact ⟨rfl, rfl⟩

/-- A line feed on a blank line dispatches. -/
theorem step_newline_of_blank {p : Reader} (hline : p.line = []) (hcr : p.afterCR = false) :
    step p '\n' = { p.dispatch with line := [], afterCR := false } := by
  unfold step
  rw [if_neg fun h => absurd (hcr.symm.trans h.2) (by decide),
    if_pos (show IsBreak '\n' from Or.inl rfl)]
  unfold Reader.endLine
  rw [if_pos hline]
  rfl

theorem dispatch_clean (p : Reader) : p.dispatch.data = [] ∧ p.dispatch.type = [] := by
  unfold Reader.dispatch
  split
  · rename_i hdata
    exact ⟨hdata, rfl⟩
  · exact ⟨rfl, rfl⟩

/-- **A frame leaves the reader ready**, whatever it holds. -/
theorem ready_frame (piece : List Char) {p : Reader} (h : Ready p) : Ready (read p (frame piece)) := by
  have hsettled : Settled (read p (['d', 'a', 't', 'a', ':', ' '] ++ piece)) :=
    settled_read _ fun hcr => absurd (h.afterCR.symm.trans hcr) (by decide)
  obtain ⟨hline, hcr⟩ := line_step_newline hsettled
  unfold frame
  rw [read_append]
  show Ready (step (step (read p (['d', 'a', 't', 'a', ':', ' '] ++ piece)) '\n') '\n')
  generalize step (read p (['d', 'a', 't', 'a', ':', ' '] ++ piece)) '\n' = q at hline hcr ⊢
  rw [step_newline_of_blank hline hcr]
  exact ⟨rfl, rfl, (dispatch_clean q).1, (dispatch_clean q).2⟩

/-- Characters of a line are collected. -/
theorem read_text {text : List Char} (htext : ∀ c ∈ text, ¬ IsBreak c) {p : Reader}
    (hcr : p.afterCR = false) : read p text = { p with line := p.line ++ text } := by
  induction text generalizing p with
  | nil => simp
  | cons c text ih =>
    obtain ⟨hc, hrest⟩ := List.forall_mem_cons.mp htext
    have hstep : step p c = { p with line := p.line ++ [c] } := by
      unfold step
      rw [if_neg fun h => hc (Or.inl h.1), if_neg hc, hcr]
    show read (step p c) text = _
    have hlater := ih hrest (p := { p with line := p.line ++ [c] }) hcr
    rw [hstep, hlater, List.append_assoc]
    rfl

/-- The data field of a piece. -/
theorem field_data {p : Reader} {text : List Char}
    (hline : p.line = ['d', 'a', 't', 'a', ':', ' '] ++ text) :
    p.field = { p with data := p.data ++ text ++ ['\n'] } := by
  have hname : fieldName p.line = ['d', 'a', 't', 'a'] := by
    rw [hline]
    rfl
  have hvalue : fieldValue p.line = text := by
    rw [hline]
    rfl
  unfold Reader.field
  rw [if_pos hname, hvalue]

/-- What a ready reader makes of the line a frame begins with. -/
theorem read_dataLine {text : List Char} (htext : ∀ c ∈ text, ¬ IsBreak c) {c : Char}
    (hc : IsBreak c) {p : Reader} (h : Ready p) :
    step (read p (['d', 'a', 't', 'a', ':', ' '] ++ text)) c =
      { p with data := text ++ ['\n'], afterCR := c = '\r' } := by
  have hword : ∀ c ∈ ['d', 'a', 't', 'a', ':', ' '], ¬ IsBreak c := by simp [IsBreak]
  have hplain : ∀ c ∈ ['d', 'a', 't', 'a', ':', ' '] ++ text, ¬ IsBreak c :=
    List.forall_mem_append.mpr ⟨hword, htext⟩
  rw [read_text hplain h.afterCR, h.line, List.nil_append]
  unfold step
  rw [if_neg fun hlf => absurd (h.afterCR.symm.trans hlf.2) (by decide), if_pos hc]
  unfold Reader.endLine
  rw [if_neg (by simp), field_data rfl, h.data, List.nil_append]

/-- **A piece without line breaks is read as one message.** -/
theorem read_frame {piece : List Char} (hpiece : ∀ c ∈ piece, ¬ IsBreak c) {p : Reader}
    (h : Ready p) : read p (frame piece) = { p with messages := p.messages ++ [piece] } := by
  unfold frame
  rw [read_append]
  show step (step (read p (['d', 'a', 't', 'a', ':', ' '] ++ piece)) '\n') '\n' = _
  rw [read_dataLine hpiece (Or.inl rfl) h,
    step_newline_of_blank (p := { p with data := piece ++ ['\n'], afterCR := '\n' = '\r' }) h.line rfl]
  obtain ⟨line, afterCR, data, type, messages⟩ := p
  obtain ⟨rfl, rfl, rfl, rfl⟩ : line = [] ∧ afterCR = false ∧ data = [] ∧ type = [] :=
    ⟨h.line, h.afterCR, h.data, h.type⟩
  simp [Reader.dispatch, Plain]

/-! ## Size -/

/-- The messages with one for each, the data, and the line so far. -/
def size (p : Reader) : Nat :=
  (p.messages.map fun m => m.length + 1).sum + p.data.length + p.line.length

theorem length_field (line : List Char) :
    (fieldName line).length + (fieldValue line).length ≤ line.length := by
  have hsplit : (fieldName line).length + (line.dropWhile (· ≠ ':')).length = line.length := by
    rw [← List.length_append, fieldName, List.takeWhile_append_dropWhile]
  have hvalue : (fieldValue line).length ≤ (line.dropWhile (· ≠ ':')).length := by
    have htail := List.length_tail (l := line.dropWhile (· ≠ ':'))
    unfold fieldValue
    split
    · rename_i value heq
      rw [heq, List.length_cons] at htail
      omega
    · omega
  omega

/-- A field is no longer than its line. -/
theorem size_field (p : Reader) : size { p.field with line := [] } ≤ size p := by
  have hfield := length_field p.line
  unfold Reader.field size
  split
  · rename_i hname
    rw [hname] at hfield
    simp only [List.length_append, List.length_cons, List.length_nil] at hfield ⊢
    omega
  · split
    · simp only [List.length_nil]
      omega
    · simp only [List.length_nil]
      omega

theorem size_dispatch (p : Reader) : size p.dispatch ≤ size p := by
  unfold Reader.dispatch size
  split
  · exact Nat.le_refl _
  · rename_i hdata
    have hpos : 0 < p.data.length := List.length_pos_of_ne_nil hdata
    dsimp only
    split
    · simp only [List.map_append, List.map_cons, List.map_nil, List.sum_append, List.sum_cons,
        List.sum_nil, List.length_dropLast, List.length_nil]
      omega
    · simp only [List.length_nil]
      omega

theorem size_endLine (p : Reader) : size p.endLine ≤ size p := by
  unfold Reader.endLine
  split
  · rename_i hline
    have hdispatch := size_dispatch p
    unfold size at hdispatch ⊢
    simp only [List.length_nil]
    omega
  · exact size_field p

/-- **A step adds at most one, and a line break nothing.** -/
theorem size_step (p : Reader) (c : Char) :
    size (step p c) ≤ size p + if IsBreak c then 0 else 1 := by
  unfold step
  split
  · exact Nat.le_add_right _ _
  · split
    · exact size_endLine p
    · unfold size
      simp only [List.length_append, List.length_singleton]
      omega

theorem size_read (text : List Char) (p : Reader) : size (read p text) ≤ size p + text.length := by
  induction text generalizing p with
  | nil => exact Nat.le_refl _
  | cons c text ih =>
    have hstep := size_step p c
    have hrest := ih (step p c)
    have hone : (if IsBreak c then 0 else 1) ≤ 1 := by
      split
      · omega
      · omega
    show size (read (step p c) text) ≤ _
    rw [List.length_cons]
    omega

/-- What a ready reader has made of the messages. -/
theorem size_of_ready {p : Reader} (h : Ready p) :
    size p = (p.messages.map fun m => m.length + 1).sum := by
  unfold size
  rw [h.data, h.line]
  rfl

/-- The first line break of a piece. -/
theorem exists_break {piece : List Char} (h : ¬ ∀ c ∈ piece, ¬ IsBreak c) :
    ∃ text c more, piece = text ++ c :: more ∧ IsBreak c ∧ ∀ c ∈ text, ¬ IsBreak c := by
  induction piece with
  | nil => exact absurd (fun c hc => absurd hc List.not_mem_nil) h
  | cons d piece ih =>
    by_cases hd : IsBreak d
    · exact ⟨[], d, piece, rfl, hd, fun c hc => absurd hc List.not_mem_nil⟩
    · obtain ⟨text, c, more, rfl, hc, htext⟩ :=
        ih fun hall => h (List.forall_mem_cons.mpr ⟨hd, hall⟩)
      exact ⟨d :: text, c, more, rfl, hc, List.forall_mem_cons.mpr ⟨hd, htext⟩⟩

/-- **A frame with a line break in it comes out smaller than its piece.** -/
theorem size_frame {piece : List Char} (hpiece : ¬ ∀ c ∈ piece, ¬ IsBreak c) {p : Reader}
    (h : Ready p) : size (read p (frame piece)) + 1 ≤ size p + (piece.length + 1) := by
  obtain ⟨text, c, more, rfl, hc, htext⟩ := exists_break hpiece
  have hsplit : frame (text ++ c :: more) =
      ['d', 'a', 't', 'a', ':', ' '] ++ text ++ [c] ++ (more ++ ['\n', '\n']) := by
    simp [frame]
  have hfirst : read p (['d', 'a', 't', 'a', ':', ' '] ++ text ++ [c]) =
      { p with data := text ++ ['\n'], afterCR := c = '\r' } := by
    rw [read_append]
    exact read_dataLine htext hc h
  have hend (q : Reader) : size (step (step q '\n') '\n') ≤ size q := by
    have h₁ := size_step q '\n'
    have h₂ := size_step (step q '\n') '\n'
    rw [if_pos (show IsBreak '\n' from Or.inl rfl)] at h₁ h₂
    omega
  rw [hsplit, read_append, hfirst, read_append]
  have hmore := size_read more { p with data := text ++ ['\n'], afterCR := c = '\r' }
  refine Nat.le_trans (Nat.succ_le_succ (hend _)) ?_
  have hdata : size { p with data := text ++ ['\n'], afterCR := c = '\r' } =
      size p + (text.length + 1) := by
    unfold size
    rw [h.data]
    simp only [List.length_append, List.length_singleton, List.length_nil]
    omega
  rw [hdata] at hmore
  simp only [List.length_append, List.length_cons]
  omega

/-! ## The law -/

/-- The frames of these pieces. -/
def frames (pieces : List (List Char)) : List Char := pieces.flatMap frame

/-- Pieces without line breaks are read one by one. -/
theorem read_frames {pieces : List (List Char)} (h : ∀ piece ∈ pieces, ∀ c ∈ piece, ¬ IsBreak c)
    {p : Reader} (hp : Ready p) :
    read p (frames pieces) = { p with messages := p.messages ++ pieces } := by
  induction pieces generalizing p with
  | nil => simp [frames]
  | cons piece pieces ih =>
    obtain ⟨hpiece, hrest⟩ := List.forall_mem_cons.mp h
    have hready := ready_frame piece hp
    have hfirst := read_frame hpiece hp
    rw [hfirst] at hready
    have hlater := ih hrest hready
    show read p (frame piece ++ frames pieces) = _
    rw [read_append, hfirst, hlater]
    simp

/-- The frames of pieces with line breaks come out smaller by as many. -/
theorem size_frames (pieces : List (List Char)) {p : Reader} (hp : Ready p) :
    Ready (read p (frames pieces)) ∧
      size (read p (frames pieces)) + pieces.countP (fun piece => piece.any fun c => IsBreak c) ≤
        size p + (pieces.map fun piece => piece.length + 1).sum := by
  induction pieces generalizing p with
  | nil => exact ⟨hp, Nat.le_refl _⟩
  | cons piece pieces ih =>
    obtain ⟨hready, hsize⟩ := ih (ready_frame piece hp)
    have hsplit : read p (frames (piece :: pieces)) = read (read p (frame piece)) (frames pieces) :=
      read_append ..
    rw [hsplit, List.map_cons, List.sum_cons, List.countP_cons]
    refine ⟨hready, ?_⟩
    by_cases hpiece : ∀ c ∈ piece, ¬ IsBreak c
    · have hfirst : size (read p (frame piece)) = size p + (piece.length + 1) := by
        rw [read_frame hpiece hp]
        unfold size
        simp only [List.map_append, List.map_cons, List.map_nil, List.sum_append, List.sum_cons,
          List.sum_nil]
        omega
      rw [if_neg (by simpa using hpiece)]
      omega
    · have hfirst := size_frame hpiece hp
      rw [if_pos (by simpa using hpiece)]
      omega

theorem parse_frames (pieces : List (List Char)) :
    parse (frames pieces) = (read empty (frames pieces)).messages := by
  unfold parse
  rw [if_neg]
  cases pieces with
  | nil => simp [frames]
  | cons piece pieces =>
    show ¬ some 'd' = _
    decide

/-- **The messages are the pieces exactly if no piece holds a line break.** -/
theorem parse_frames_iff (pieces : List (List Char)) :
    parse (frames pieces) = pieces ↔ ∀ piece ∈ pieces, ∀ c ∈ piece, ¬ IsBreak c := by
  rw [parse_frames]
  constructor
  · intro h
    obtain ⟨hready, hsize⟩ := size_frames pieces ready_empty
    rw [size_of_ready hready, h] at hsize
    have hempty : size empty = 0 := rfl
    have hnone : pieces.countP (fun piece => piece.any fun c => IsBreak c) = 0 := by omega
    intro piece hpiece
    have hplain := List.countP_eq_zero.mp hnone piece hpiece
    simpa using hplain
  · intro h
    rw [read_frames h ready_empty]
    rfl

end EventStream
