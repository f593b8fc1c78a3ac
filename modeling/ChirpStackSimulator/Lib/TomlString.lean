/-
  The basic strings of TOML, read from text.

  A string stands in quotes on one line, or in triple quotes over several.  In both a backslash
  starts an escape; in the second a backslash at the end of a line leaves out what follows up to the
  next character that is not white.  Which characters must be escaped is a matter of the version of
  TOML (`Dialect`).

  A writer that puts a text between two quotes as it is, with a newline behind them, is understood
  exactly when the text is `Plain`:

  * a plain text is read back as it was written (`stringValue_plain`);
  * any other text is refused or read as a different one (`stringValue_ne`).

  For the second, what a reader makes of a stretch of text is a relation (`Reads`) that never makes
  it longer.  A string that ends before the writer's closing quote is therefore too short.  One that
  runs past it, in triple quotes, also takes in what the writer put before its next quote; there must
  be a character in it, the *mark*, from which a shift between the two texts can be told
  (`Reads.findIdx_le`).
-/
import ChirpStackSimulator.Lib.Hex
import Mathlib.Data.List.TakeWhile

namespace Toml

/-! ## Characters -/

/-- What the versions of TOML do not agree on. -/
structure Dialect where
  /-- Must be written as an escape in a string. -/
  escaped : Char → Bool
  /-- Must not stand in a comment. -/
  barred : Char → Bool
  escaped_newline : escaped '\n' = true
  barred_printable : ∀ c : Char, 32 ≤ c.toNat → c.toNat < 127 → barred c = false

/-- Stands for itself in a string on one line. -/
def Dialect.Literal (d : Dialect) (c : Char) : Prop := c ≠ '"' ∧ c ≠ '\\' ∧ d.escaped c = false

instance (d : Dialect) (c : Char) : Decidable (d.Literal c) :=
  inferInstanceAs (Decidable (_ ∧ _ ∧ _))

/-- Between two quotes, every character of `s` stands for itself. -/
def Dialect.Plain (d : Dialect) (s : List Char) : Prop := ∀ c ∈ s, d.Literal c

instance (d : Dialect) (s : List Char) : Decidable (d.Plain s) :=
  List.decidableBAll _ s

/-- The blanks within a line. -/
def isBlank (c : Char) : Bool := c == ' ' || c == '\t'

/-- Blanks and line breaks. -/
def isWhite (c : Char) : Bool := isBlank c || c == '\n' || c == '\r'

/-- The text goes on in the next line. -/
def startsNewline : List Char → Bool
  | '\n' :: _ => true
  | '\r' :: '\n' :: _ => true
  | _ => false

/-! ## Reading -/

/-- The character that one letter after a backslash stands for. -/
def letter (c : Char) : Option Char :=
  match c with
  | 'b' => some (Char.ofNat 8)
  | 't' => some '\t'
  | 'n' => some '\n'
  | 'f' => some (Char.ofNat 12)
  | 'r' => some '\r'
  | '"' => some '"'
  | '\\' => some '\\'
  | _ => none

/-- A code point in `n` hexadecimal digits. -/
def codePoint (n : Nat) (text : List Char) : Option (Char × List Char) := do
  let digits ← (text.take n).mapM Hex.digit?
  let code := digits.foldl (fun v digit => 16 * v + digit) 0
  if digits.length = n ∧ code.isValidChar then return (Char.ofNat code, text.drop n) else none

/-- What stands behind a backslash, and the text after it. -/
def escape : List Char → Option (Char × List Char)
  | [] => none
  | c :: text =>
    if c = 'u' then codePoint 4 text
    else if c = 'U' then codePoint 8 text
    else (letter c).map (·, text)

/-- The rest of a string on one line, and the text behind its closing quote. -/
def basic (d : Dialect) : Nat → List Char → Option (List Char × List Char)
  | 0, _ => none
  | _ + 1, [] => none
  | fuel + 1, c :: text =>
    if c = '"' then some ([], text)
    else if c = '\\' then do
      let (c, text) ← escape text
      let (out, rest) ← basic d fuel text
      return (c :: out, rest)
    else if d.escaped c then none
    else do
      let (out, rest) ← basic d fuel text
      return (c :: out, rest)

/-- After three closing quotes: up to two more belong to the string, in front of the three. -/
def closing : List Char → List Char × List Char
  | '"' :: '"' :: text => (['"', '"'], text)
  | '"' :: text => (['"'], text)
  | text => ([], text)

/-- The rest of a string over several lines, and the text behind its closing quotes. -/
def multi (d : Dialect) : Nat → List Char → Option (List Char × List Char)
  | 0, _ => none
  | _ + 1, [] => none
  | fuel + 1, c :: text =>
    if c = '"' ∧ text.take 2 = ['"', '"'] then some (closing (text.drop 2))
    else if c = '\\' then
      if startsNewline (text.dropWhile isBlank) then multi d fuel (text.dropWhile isWhite)
      else do
        let (c, text) ← escape text
        let (out, rest) ← multi d fuel text
        return (c :: out, rest)
    else if d.escaped c && !startsNewline (c :: text) then none
    else do
      let (out, rest) ← multi d fuel text
      return (c :: out, rest)

/-- A newline right after the opening quotes is no part of the string. -/
def trimNewline : List Char → List Char
  | '\n' :: text => text
  | '\r' :: '\n' :: text => text
  | text => text

/-- A basic string, in either form, and the text behind it. -/
def stringValue (d : Dialect) (text : List Char) : Option (List Char × List Char) :=
  match text with
  | '"' :: '"' :: '"' :: text => multi d (text.length + 1) (trimNewline text)
  | '"' :: text => basic d (text.length + 1) text
  | _ => none

/-! ## What a reader makes of a stretch of text -/

/-- The marks: what a writer puts before each of its quotes, and no escape contains. -/
def isMark (c : Char) : Bool := c == '#' || c == '='

/-- A stretch of text is read as a text: character by character, with escapes and left-out ends of
    lines, neither of which contains a mark. -/
inductive Reads (lit : Char → Prop) : List Char → List Char → Prop
  | nil : Reads lit [] []
  | literal {c text out} : lit c → Reads lit text out → Reads lit (c :: text) (c :: out)
  | escape {used text c out} : 2 ≤ used.length → (∀ x ∈ used, isMark x = false) →
      Reads lit text out → Reads lit (used ++ text) (c :: out)
  | skip {used text out} : 1 ≤ used.length → (∀ x ∈ used, isMark x = false) →
      Reads lit text out → Reads lit (used ++ text) out

/-- A text is not shorter than what is read from it. -/
theorem Reads.length_le {lit : Char → Prop} {text out : List Char} (h : Reads lit text out) :
    out.length ≤ text.length := by
  induction h with
  | nil => simp
  | literal _ _ ih => simpa using ih
  | escape hused _ _ ih => simp only [List.length_append, List.length_cons]; omega
  | skip hused _ _ ih => simp only [List.length_append]; omega

/-- Only what is read character by character keeps its length. -/
theorem Reads.eq_of_length {lit : Char → Prop} {text out : List Char} (h : Reads lit text out)
    (hlen : text.length ≤ out.length) : out = text ∧ ∀ c ∈ text, lit c := by
  induction h with
  | nil => simp
  | @literal c text out hc _ ih =>
    obtain ⟨rfl, hall⟩ := ih (by simpa using hlen)
    exact ⟨rfl, by simpa using ⟨hc, hall⟩⟩
  | escape hused _ hread _ =>
    have hle := hread.length_le
    simp only [List.length_append, List.length_cons] at hlen
    omega
  | skip hused _ hread _ =>
    have hle := hread.length_le
    simp only [List.length_append] at hlen
    omega

theorem findIdx_append_of_forall {used : List Char} (h : ∀ x ∈ used, isMark x = false)
    (text : List Char) :
    (used ++ text).findIdx isMark = used.length + text.findIdx isMark := by
  induction used with
  | nil => simp
  | cons x used ih =>
    rw [List.cons_append, List.findIdx_cons, h x List.mem_cons_self,
      ih fun y hy => h y (List.mem_cons_of_mem _ hy)]
    simp only [cond_false, List.length_cons]
    omega

theorem mark_of_append {used text : List Char} (h : ∀ x ∈ used, isMark x = false)
    (hmark : ∃ m ∈ used ++ text, isMark m = true) : ∃ m ∈ text, isMark m = true := by
  obtain ⟨m, hm, hmm⟩ := hmark
  rcases List.mem_append.mp hm with hm | hm
  · rw [h m hm] at hmm; cases hmm
  · exact ⟨m, hm, hmm⟩

/-- The first mark does not move to the right. -/
theorem Reads.findIdx_le {lit : Char → Prop} {text out : List Char} (h : Reads lit text out)
    (hmark : ∃ m ∈ text, isMark m = true) :
    (∃ m ∈ out, isMark m = true) ∧ out.findIdx isMark ≤ text.findIdx isMark := by
  induction h with
  | nil => simp at hmark
  | @literal c text out _ _ ih =>
    rw [List.findIdx_cons, List.findIdx_cons]
    by_cases hc : isMark c = true
    · exact ⟨⟨c, List.mem_cons_self, hc⟩, by simp [hc]⟩
    · obtain ⟨hout, hle⟩ := ih (by simpa [hc] using hmark)
      obtain ⟨m, hm, hmm⟩ := hout
      rw [Bool.not_eq_true] at hc
      exact ⟨⟨m, List.mem_cons_of_mem _ hm, hmm⟩, by simpa [hc] using hle⟩
  | @escape used text c out hlen hused _ ih =>
    obtain ⟨⟨m, hm, hmm⟩, hle⟩ := ih (mark_of_append hused hmark)
    refine ⟨⟨m, List.mem_cons_of_mem _ hm, hmm⟩, ?_⟩
    rw [findIdx_append_of_forall hused, List.findIdx_cons]
    cases isMark c with
    | true => simp
    | false => simp only [cond_false]; omega
  | @skip used text out hlen hused _ ih =>
    obtain ⟨hout, hle⟩ := ih (mark_of_append hused hmark)
    rw [findIdx_append_of_forall hused]
    exact ⟨hout, by omega⟩

/-! ## What the reader consumes -/

/-- A map over a list that succeeds, succeeds at every element. -/
theorem mem_of_mapM {α β : Type*} {f : α → Option β} {as : List α} {bs : List β}
    (h : as.mapM f = some bs) : bs.length = as.length ∧ ∀ a ∈ as, (f a).isSome := by
  induction as generalizing bs with
  | nil => simp at h; simp [← h]
  | cons a as ih =>
    simp only [List.mapM_cons, Option.bind_eq_bind, Option.bind_eq_some_iff, Option.pure_def,
      Option.some.injEq] at h
    obtain ⟨b, hb, bs', hbs', rfl⟩ := h
    obtain ⟨hlen, hall⟩ := ih hbs'
    exact ⟨by simp [hlen], by simpa [hb] using hall⟩

/-- Neither a mark nor a newline stands in an escape. -/
def Inert (c : Char) : Prop := isMark c = false ∧ c ≠ '\n'

/-- The characters of an escape are no marks. -/
theorem inert_of_digit {c : Char} (h : (Hex.digit? c).isSome) : Inert c := by
  refine ⟨?_, ?_⟩
  · by_contra hmark
    simp only [isMark, Bool.not_eq_false, Bool.or_eq_true, beq_iff_eq] at hmark
    rcases hmark with rfl | rfl <;> exact absurd h (by decide)
  · rintro rfl
    exact absurd h (by decide)

theorem inert_of_letter {c x : Char} (h : letter c = some x) : Inert c := by
  refine ⟨?_, ?_⟩
  · by_contra hmark
    simp only [isMark, Bool.not_eq_false, Bool.or_eq_true, beq_iff_eq] at hmark
    rcases hmark with rfl | rfl <;> cases h
  · rintro rfl
    cases h

/-- What a code point takes from the text. -/
theorem codePoint_spec {n : Nat} {text rest : List Char} {c : Char}
    (h : codePoint n text = some (c, rest)) :
    ∃ used, text = used ++ rest ∧ ∀ x ∈ used, Inert x := by
  simp only [codePoint, Option.bind_eq_bind, Option.bind_eq_some_iff] at h
  obtain ⟨digits, hdigits, h⟩ := h
  split at h
  · simp only [Option.pure_def, Option.some.injEq, Prod.mk.injEq] at h
    refine ⟨text.take n, ?_, fun x hx => inert_of_digit ((mem_of_mapM hdigits).2 x hx)⟩
    rw [← h.2, List.take_append_drop]
  · cases h

/-- What an escape takes from the text. -/
theorem escape_spec {text rest : List Char} {c : Char} (h : escape text = some (c, rest)) :
    ∃ used, 1 ≤ used.length ∧ text = used ++ rest ∧ ∀ x ∈ used, Inert x := by
  cases text with
  | nil => cases h
  | cons x text =>
    rw [escape] at h
    have hcode : ∀ n, Inert x → codePoint n text = some (c, rest) →
        ∃ used, 1 ≤ used.length ∧ x :: text = used ++ rest ∧ ∀ y ∈ used, Inert y := by
      intro n hx h
      obtain ⟨used, rfl, hused⟩ := codePoint_spec h
      exact ⟨x :: used, by simp, rfl, by simpa using ⟨hx, hused⟩⟩
    split_ifs at h with hu hU
    · exact hcode 4 (by rw [hu]; exact ⟨rfl, by decide⟩) h
    · exact hcode 8 (by rw [hU]; exact ⟨rfl, by decide⟩) h
    · obtain ⟨y, hy, h⟩ := Option.map_eq_some_iff.mp h
      obtain ⟨rfl, rfl⟩ := Prod.mk.inj h
      exact ⟨[x], by simp, rfl, by simpa using inert_of_letter hy⟩

/-- The backslash is no mark, and neither is what it takes along. -/
theorem not_isMark_of_slash {c : Char} {used : List Char} (hslash : c = '\\')
    (hused : ∀ x ∈ used, isMark x = false) : ∀ x ∈ c :: used, isMark x = false := by
  intro x hx
  rcases List.mem_cons.mp hx with rfl | hx
  · rw [hslash]
    rfl
  · exact hused x hx

/-- **What a basic string takes from the text**: up to its closing quote, within the line. -/
theorem basic_spec {d : Dialect} {fuel : Nat} {text out rest : List Char}
    (h : basic d fuel text = some (out, rest)) :
    ∃ content, text = content ++ '"' :: rest ∧ '\n' ∉ content ∧ Reads d.Literal content out := by
  induction fuel generalizing text out with
  | zero => cases h
  | succ fuel ih =>
    cases text with
    | nil => cases h
    | cons c text =>
      rw [basic] at h
      split_ifs at h with hquote hslash hesc
      · -- the closing quote
        cases h
        exact ⟨[], by simp [hquote], by simp, .nil⟩
      · -- an escape
        simp only [Option.bind_eq_bind, Option.bind_eq_some_iff] at h
        obtain ⟨⟨x, text'⟩, hescape, ⟨out', rest'⟩, hout, h⟩ := h
        cases h
        obtain ⟨used, hlen, rfl, hused⟩ := escape_spec hescape
        obtain ⟨content, rfl, hline, hreads⟩ := ih hout
        have hmarks := not_isMark_of_slash hslash fun x hx => (hused x hx).1
        refine ⟨(c :: used) ++ content, by simp, ?_, .escape (by simpa using hlen) hmarks hreads⟩
        simp only [List.cons_append, List.mem_cons, List.mem_append, not_or]
        exact ⟨by rw [hslash]; decide, fun hx => (hused _ hx).2 rfl, hline⟩
      · -- a character that stands for itself
        simp only [Option.bind_eq_bind, Option.bind_eq_some_iff] at h
        obtain ⟨⟨out', rest'⟩, hout, h⟩ := h
        cases h
        obtain ⟨content, rfl, hline, hreads⟩ := ih hout
        have hne : c ≠ '\n' := by
          rintro rfl
          exact hesc d.escaped_newline
        exact ⟨c :: content, by simp, by simpa [hne.symm] using hline,
          .literal ⟨hquote, hslash, by simpa using hesc⟩ hreads⟩

theorem closing_spec (text : List Char) :
    ∃ extra, '"' :: '"' :: '"' :: text = extra ++ '"' :: '"' :: '"' :: (closing text).2 ∧
      (closing text).1 = extra := by
  unfold closing
  split
  · exact ⟨['"', '"'], rfl, rfl⟩
  · exact ⟨['"'], rfl, rfl⟩
  · exact ⟨[], rfl, rfl⟩

theorem reads_self (text : List Char) : Reads (fun _ => True) text text := by
  induction text with
  | nil => exact .nil
  | cons c text ih => exact .literal trivial ih

theorem isMark_of_isWhite {c : Char} (h : isWhite c = true) : isMark c = false := by
  simp only [isWhite, isBlank, Bool.or_eq_true, beq_iff_eq] at h
  rcases h with ((rfl | rfl) | rfl) | rfl <;> rfl

/-- What a multi-line string takes from the text: up to three quotes. -/
theorem multi_spec {d : Dialect} {fuel : Nat} {text out rest : List Char}
    (h : multi d fuel text = some (out, rest)) :
    ∃ content, text = content ++ '"' :: '"' :: '"' :: rest ∧
      Reads (fun _ => True) content out := by
  induction fuel generalizing text out with
  | zero => cases h
  | succ fuel ih =>
    cases text with
    | nil => cases h
    | cons c text =>
      rw [multi] at h
      split_ifs at h with hquote hslash hline hesc
      · -- the closing quotes
        obtain ⟨extra, htext, hout⟩ := closing_spec (text.drop 2)
        rw [Option.some.inj h] at htext hout
        obtain rfl : out = extra := hout
        have hsplit : text = '"' :: '"' :: text.drop 2 := by
          conv_lhs => rw [← List.take_append_drop 2 text, hquote.2]
          rfl
        refine ⟨out, ?_, reads_self out⟩
        rw [hsplit, hquote.1]
        exact htext
      · -- the end of a line is left out
        obtain ⟨content, htext, hreads⟩ := ih h
        have hmarks := not_isMark_of_slash hslash fun x (hx : x ∈ text.takeWhile isWhite) =>
          isMark_of_isWhite (List.mem_takeWhile_imp hx)
        refine ⟨(c :: text.takeWhile isWhite) ++ content, ?_, .skip (by simp) hmarks hreads⟩
        rw [List.append_assoc, ← htext, List.cons_append, List.takeWhile_append_dropWhile]
      · -- an escape
        simp only [Option.bind_eq_bind, Option.bind_eq_some_iff] at h
        obtain ⟨⟨x, text'⟩, hescape, ⟨out', rest'⟩, hout, h⟩ := h
        cases h
        obtain ⟨used, hlen, rfl, hused⟩ := escape_spec hescape
        obtain ⟨content, rfl, hreads⟩ := ih hout
        have hmarks := not_isMark_of_slash hslash fun x hx => (hused x hx).1
        exact ⟨(c :: used) ++ content, by simp, .escape (by simpa using hlen) hmarks hreads⟩
      · -- a character that stands for itself
        simp only [Option.bind_eq_bind, Option.bind_eq_some_iff] at h
        obtain ⟨⟨out', rest'⟩, hout, h⟩ := h
        cases h
        obtain ⟨content, rfl, hreads⟩ := ih hout
        exact ⟨c :: content, by simp, .literal trivial hreads⟩

/-! ## A text between two quotes -/

/-- What follows a writer's line: before every quote stands a mark. -/
def Guarded (tail : List Char) : Prop :=
  ∀ before after, tail = before ++ '"' :: after → ∃ m ∈ before, isMark m = true

/-- A text without a quote does not harm the guard of what follows. -/
theorem guarded_append {text tail : List Char} (h : '"' ∉ text) (ht : Guarded tail) :
    Guarded (text ++ tail) := by
  intro before after hsplit
  rcases List.append_eq_append_iff.mp hsplit with ⟨before', rfl, htail⟩ | ⟨text', rfl, hquote⟩
  · obtain ⟨m, hm, hmark⟩ := ht before' after htail
    exact ⟨m, List.mem_append_right _ hm, hmark⟩
  · cases text' with
    | nil =>
      obtain ⟨m, hm, -⟩ := ht [] after hquote.symm
      cases hm
    | cons c text' =>
      obtain ⟨rfl, -⟩ := List.cons.inj hquote
      exact absurd (List.mem_append_right _ List.mem_cons_self) h

/-- A mark guards whatever follows. -/
theorem guarded_mark {text : List Char} {m : Char} (h : '"' ∉ text) (hm : isMark m = true)
    (tail : List Char) : Guarded (text ++ m :: tail) := by
  intro before after hsplit
  rcases List.append_eq_append_iff.mp hsplit with ⟨before', rfl, htail⟩ | ⟨text', rfl, hquote⟩
  · cases before' with
    | nil =>
      obtain ⟨rfl, -⟩ := List.cons.inj htail
      cases hm
    | cons c before' =>
      obtain ⟨rfl, -⟩ := List.cons.inj htail
      exact ⟨m, List.mem_append_right _ List.mem_cons_self, hm⟩
  · cases text' with
    | nil =>
      obtain ⟨rfl, -⟩ := List.cons.inj hquote
      cases hm
    | cons c text' =>
      obtain ⟨rfl, -⟩ := List.cons.inj hquote
      exact absurd (List.mem_append_right _ List.mem_cons_self) h

/-- **A plain text is read as itself.** -/
theorem basic_plain {d : Dialect} {s : List Char} (h : d.Plain s) {fuel : Nat}
    (hfuel : s.length < fuel) (rest : List Char) :
    basic d fuel (s ++ '"' :: rest) = some (s, rest) := by
  induction s generalizing fuel with
  | nil =>
    obtain ⟨fuel, rfl⟩ : ∃ n, fuel = n + 1 := ⟨fuel - 1, by simp at hfuel; omega⟩
    simp [basic]
  | cons c s ih =>
    obtain ⟨fuel, rfl⟩ : ∃ n, fuel = n + 1 := ⟨fuel - 1, by simp at hfuel; omega⟩
    obtain ⟨hquote, hslash, hesc⟩ := h c List.mem_cons_self
    have htail := ih (fun x hx => h x (List.mem_cons_of_mem _ hx)) (by simpa using hfuel)
    rw [List.cons_append, basic, if_neg hquote, if_neg hslash, hesc, htail]
    rfl

/-- Read on one line, only a plain text gives itself. -/
theorem plain_of_basic {d : Dialect} {fuel : Nat} {s tail rest : List Char}
    (h : basic d fuel (s ++ '"' :: '\n' :: tail) = some (s, rest)) : d.Plain s := by
  obtain ⟨content, htext, hline, hreads⟩ := basic_spec h
  rcases List.append_eq_append_iff.mp htext with ⟨more, rfl, hmore⟩ | ⟨more, rfl, -⟩
  · cases more with
    | nil =>
      rw [List.append_nil] at hreads
      exact (hreads.eq_of_length (Nat.le_refl _)).2
    | cons c more =>
      -- the string would go on behind the writer's quote, where the line ends
      obtain ⟨rfl, hnext⟩ := List.cons.inj hmore
      cases more with
      | nil => cases hnext
      | cons x more =>
        obtain ⟨rfl, -⟩ := List.cons.inj hnext
        exact absurd (by simp) hline
  · -- the string ends too early
    have hle := hreads.length_le
    rw [List.length_append] at hle
    obtain rfl : more = [] := List.eq_nil_of_length_eq_zero (by omega)
    rw [List.append_nil] at hreads ⊢
    exact (hreads.eq_of_length (Nat.le_refl _)).2

/-- Read over several lines, what begins in the middle of a text does not give that text. -/
theorem multi_ne {d : Dialect} {fuel : Nat} {front s tail out rest : List Char}
    (hfront : front ≠ []) (hclear : ∀ x ∈ front, isMark x = false) (hguard : Guarded tail)
    (h : multi d fuel (s ++ '"' :: '\n' :: tail) = some (out, rest)) : out ≠ front ++ s := by
  have hpos : 0 < front.length := List.length_pos_iff.mpr hfront
  obtain ⟨content, htext, hreads⟩ := multi_spec h
  rintro rfl
  have hle := hreads.length_le
  rw [List.length_append] at hle
  rcases List.append_eq_append_iff.mp htext with ⟨more, rfl, hmore⟩ | ⟨more, rfl, -⟩
  · cases more with
    | nil =>
      rw [List.append_nil] at hle
      omega
    | cons c more =>
      obtain ⟨rfl, hnext⟩ := List.cons.inj hmore
      cases more with
      | nil => cases hnext
      | cons x more =>
        -- the closing quotes stand behind a mark
        obtain ⟨rfl, hafter⟩ := List.cons.inj hnext
        obtain ⟨m, hm, hmark⟩ := hguard more _ hafter
        obtain ⟨hout, hidx⟩ := hreads.findIdx_le ⟨m, by simp [hm], hmark⟩
        obtain hs := mark_of_append hclear hout
        rw [findIdx_append_of_forall hclear, List.findIdx_append,
          if_pos (List.findIdx_lt_length_of_exists hs)] at hidx
        omega
  · rw [List.length_append] at hle
    omega

/-- Written between quotes, a plain text is read back. -/
theorem stringValue_plain {d : Dialect} {s : List Char} (h : d.Plain s) (tail : List Char) :
    stringValue d ('"' :: (s ++ '"' :: '\n' :: tail)) = some (s, '\n' :: tail) := by
  have hfuel : s.length < (s ++ '"' :: '\n' :: tail).length + 1 := by
    simp only [List.length_append]
    omega
  have hbasic := basic_plain h hfuel ('\n' :: tail)
  cases s with
  | nil => exact hbasic
  | cons c s =>
    have hc : c ≠ '"' := (h c List.mem_cons_self).1
    rw [stringValue, hbasic]
    simp [hc]

theorem trimNewline_append (s tail : List Char) :
    ∃ front s', s = front ++ s' ∧ (∀ x ∈ front, isMark x = false) ∧
      trimNewline (s ++ '"' :: tail) = s' ++ '"' :: tail := by
  cases s with
  | nil => exact ⟨[], [], rfl, by simp, rfl⟩
  | cons c s =>
    by_cases hnl : c = '\n'
    · exact ⟨[c], s, rfl, by simp [hnl, isMark], by rw [hnl]; rfl⟩
    · by_cases hcr : c = '\r' ∧ s.head? = some '\n'
      · obtain ⟨rfl, hhead⟩ := hcr
        obtain ⟨s', rfl⟩ := List.head?_eq_some_iff.mp hhead
        exact ⟨['\r', '\n'], s', rfl, by simp [isMark], rfl⟩
      · refine ⟨[], c :: s, rfl, by simp, ?_⟩
        unfold trimNewline
        split
        · next h => exact absurd (List.cons.inj h).1 hnl
        · next h =>
          have hhead := List.cons.inj h
          cases s with
          | nil => cases hhead.2
          | cons x s => exact absurd ⟨hhead.1, congrArg some (List.cons.inj hhead.2).1⟩ hcr
        · rfl

/-- When a text between quotes begins like a string over several lines, it is a lone quote, or the
    quotes are its own. -/
theorem opens_of_quotes {s tail text : List Char}
    (h : s ++ '"' :: '\n' :: tail = '"' :: '"' :: text) :
    s = ['"'] ∧ text = '\n' :: tail ∨
      ∃ s', s = '"' :: '"' :: s' ∧ text = s' ++ '"' :: '\n' :: tail := by
  cases s with
  | nil => cases (List.cons.inj (List.cons.inj h).2).1
  | cons c s =>
    have hc := List.cons.inj h
    cases s with
    | nil => exact .inl ⟨by rw [hc.1], (List.cons.inj hc.2).2.symm⟩
    | cons x s =>
      have hx := List.cons.inj hc.2
      exact .inr ⟨s, by rw [hc.1, hx.1], hx.2.symm⟩

/-- Written between quotes, a text that is not plain is refused or read as another one. -/
theorem stringValue_ne {d : Dialect} {s tail out rest : List Char} (hs : ¬ d.Plain s)
    (hguard : Guarded tail)
    (h : stringValue d ('"' :: (s ++ '"' :: '\n' :: tail)) = some (out, rest)) : out ≠ s := by
  unfold stringValue at h
  split at h
  · next text htext =>
    rcases opens_of_quotes (List.cons.inj htext).2 with ⟨rfl, rfl⟩ | ⟨s, rfl, rfl⟩
    · -- the lone quote: the string takes in the mark that follows
      obtain ⟨content, hcontent, hreads⟩ := multi_spec h
      obtain ⟨m, hm, hmark⟩ := hguard content _ hcontent
      rintro rfl
      obtain ⟨x, hx, hxmark⟩ := (hreads.findIdx_le ⟨m, hm, hmark⟩).1
      rw [List.mem_singleton.mp hx] at hxmark
      cases hxmark
    · -- the string begins behind the first two characters of the text
      obtain ⟨front, s', rfl, hclear, htrim⟩ := trimNewline_append s ('\n' :: tail)
      rw [htrim] at h
      have hall : ∀ x ∈ '"' :: '"' :: front, isMark x = false := by
        simpa [isMark] using hclear
      have hne : out ≠ ('"' :: '"' :: front) ++ s' := multi_ne (by simp) hall hguard h
      exact hne
  · next text _ htext =>
    rintro rfl
    obtain rfl := (List.cons.inj htext).2
    exact hs (plain_of_basic h)
  · cases h

end Toml
