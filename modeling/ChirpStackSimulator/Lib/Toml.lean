/-
  TOML documents, read statement by statement.

  Modelled are blank lines, comments, headers of tables and of arrays of tables whose keys are bare,
  and bare keys with a basic string, a decimal integer or a boolean.  What else a document may contain
  is a parameter (`Grammar.other`), of which one thing is known: nothing that is defined is ever
  redefined.

  A writer of such documents is a list of lines (`Line`).  Its strings are put between quotes as they
  are, so that

  * if all of them are plain, the text is read line by line (`parseFrom_lines`), and the document has
    the values the lines spell (`values_applyAll`);
  * if one of them is not, the text is refused, or the document has another string under the key of
    the first such line (`parseFrom_ne`).
-/
import ChirpStackSimulator.Lib.TomlString

namespace Toml

/-! ## Documents -/

/-- A part of a path: a key, or the number of an element of an array of tables. -/
inductive Seg where
  | key (name : List Char)
  | index (i : Nat)
  deriving DecidableEq

abbrev Path := List Seg

/-- The values a key can have, as far as they are told apart here. -/
inductive Value where
  | string (s : List Char)
  | integer (i : Int)
  | boolean (b : Bool)
  | other (text : List Char)
  deriving DecidableEq

/-- What has been read: the table that keys are defined in, the tables that had a header, the arrays
    of tables with their numbers of elements, and the values. -/
structure Doc where
  current : Path
  tables : List Path
  elements : List (Path × Nat)
  values : List (Path × Value)

/-- Nothing is defined yet. -/
def Doc.empty : Doc := ⟨[], [], [], []⟩

/-- The keys of a header as a path: it goes through the last element of an array of tables. -/
def Doc.resolve (doc : Doc) : Path → List (List Char) → Path
  | path, [] => path
  | path, key :: keys =>
    match doc.elements.lookup (path ++ [.key key]) with
    | some n => doc.resolve (path ++ [.key key, .index (n - 1)]) keys
    | none => doc.resolve (path ++ [.key key]) keys

/-- Something stands at `path` or below it. -/
def Doc.taken (doc : Doc) (path : Path) : Bool :=
  doc.values.any (path.isPrefixOf ·.1) || doc.tables.any (path.isPrefixOf ·) ||
    doc.elements.any (path.isPrefixOf ·.1)

/-- A value stands at `path` or above it. -/
def Doc.blocked (doc : Doc) (path : Path) : Bool := doc.values.any (·.1.isPrefixOf path)

/-- `key = value` -/
def Doc.define (doc : Doc) (key : List Char) (value : Value) : Option Doc :=
  let path := doc.current ++ [.key key]
  if doc.taken path || doc.blocked path then none
  else some { doc with values := doc.values ++ [(path, value)] }

/-- `[keys]` -/
def Doc.openTable (doc : Doc) (keys : List (List Char)) : Option Doc :=
  let path := doc.resolve [] keys
  if doc.tables.contains path || doc.blocked path then none
  else some { doc with current := path, tables := doc.tables ++ [path] }

/-- `[[keys]]` -/
def Doc.append (doc : Doc) (keys : List (List Char)) : Option Doc :=
  let path := doc.resolve [] keys.dropLast ++ [.key (keys.getLastD [])]
  let n := (doc.elements.lookup path).getD 0
  if n = 0 && doc.taken path || doc.blocked path then none
  else some { doc with
    current := path ++ [.index n]
    tables := doc.tables ++ [path ++ [.index n]]
    elements := (path, n + 1) :: doc.elements.filter fun e => e.1 != path }

/-! ## Statements -/

/-- A version of TOML: what it escapes, and the statements that are not modelled. -/
structure Grammar extends Dialect where
  other : Doc → List Char → Option (Doc × List Char)
  other_keeps : ∀ {doc text doc' rest}, other doc text = some (doc', rest) →
    ∀ e ∈ doc.values, e ∈ doc'.values

/-- After a `#`: the text of the next line. -/
def comment (d : Dialect) : List Char → Option (List Char)
  | [] => some []
  | c :: text =>
    if c = '\n' then some text
    else if d.barred c && !startsNewline (c :: text) then none
    else comment d text

/-- Behind a statement: the text of the next line. -/
def lineEnd (d : Dialect) (text : List Char) : Option (List Char) :=
  match text.dropWhile isBlank with
  | [] => some []
  | '#' :: rest => comment d rest
  | '\n' :: rest => some rest
  | '\r' :: '\n' :: rest => some rest
  | _ => none

/-- The characters of a bare key. -/
def isBare (c : Char) : Bool := c.isAlphanum || c == '_' || c == '-'

/-- The bare keys of a header. -/
def bareKeys (name : List Char) : Option (List (List Char)) :=
  let keys := name.splitOn '.'
  if keys.all fun key => !key.isEmpty && key.all isBare then some keys else none

/-- A natural number in decimal: the digits of its value, so that there is no leading zero. -/
def natural (digits : List Char) : Option Nat :=
  let n := Nat.ofDigitChars 10 digits 0
  if Nat.toDigits 10 n = digits then some n else none

/-- A boolean or a decimal integer. -/
def scalar (token : List Char) : Option Value :=
  if token = ['t', 'r', 'u', 'e'] then some (.boolean true)
  else if token = ['f', 'a', 'l', 's', 'e'] then some (.boolean false)
  else match token with
    | '-' :: digits => (natural digits).map fun n => .integer (-n)
    | '+' :: digits => (natural digits).map fun n => .integer n
    | digits => (natural digits).map fun n => .integer n

/-- The characters of a value without quotes. -/
def isToken (c : Char) : Bool := !isWhite c && c != '#'

/-- The value behind `key =`, where `text` is the whole statement. -/
def keyValue (g : Grammar) (doc : Doc) (text key value : List Char) :
    Option (Doc × List Char) :=
  match value with
  | '"' :: _ => do
    let (s, rest) ← stringValue g.toDialect value
    let rest ← lineEnd g.toDialect rest
    let doc ← doc.define key (.string s)
    return (doc, rest)
  | _ =>
    match scalar (value.takeWhile isToken) with
    | some v => do
      let rest ← lineEnd g.toDialect (value.dropWhile isToken)
      let doc ← doc.define key v
      return (doc, rest)
    | none => g.other doc text

/-- One statement: the document after it, and the text of the next line. -/
def statement (g : Grammar) (doc : Doc) (text : List Char) : Option (Doc × List Char) :=
  match text.dropWhile isBlank with
  | [] => some (doc, [])
  | '[' :: '[' :: name =>
    match bareKeys (name.takeWhile (· != ']')), name.dropWhile (· != ']') with
    | some keys, ']' :: ']' :: rest => do
      let rest ← lineEnd g.toDialect rest
      let doc ← doc.append keys
      return (doc, rest)
    | _, _ => g.other doc text
  | '[' :: name =>
    match bareKeys (name.takeWhile (· != ']')), name.dropWhile (· != ']') with
    | some keys, ']' :: rest => do
      let rest ← lineEnd g.toDialect rest
      let doc ← doc.openTable keys
      return (doc, rest)
    | _, _ => g.other doc text
  | c :: line =>
    if c = '#' || startsNewline (c :: line) then
      (lineEnd g.toDialect (c :: line)).map fun rest => (doc, rest)
    else
      match (c :: line).takeWhile isBare, ((c :: line).dropWhile isBare).dropWhile isBlank with
      | k :: key, '=' :: value => keyValue g doc text (k :: key) (value.dropWhile isBlank)
      | _, _ => g.other doc text

/-- Statement after statement; every statement takes at least one character, and so much fuel is
    there. -/
def parseFrom (g : Grammar) : Nat → Doc → List Char → Option Doc
  | 0, _, _ => none
  | _ + 1, doc, [] => some doc
  | fuel + 1, doc, c :: text => do
    let (doc, rest) ← statement g doc (c :: text)
    parseFrom g fuel doc rest

/-- A whole document; every statement takes at least one character. -/
def parse (g : Grammar) (text : List Char) : Option Doc :=
  parseFrom g (text.length + 1) Doc.empty text

/-! ## Definitions stay -/

/-- A pair adds one value, below the current table. -/
theorem define_keeps {doc doc' : Doc} {key : List Char} {value : Value}
    (h : doc.define key value = some doc') :
    doc'.current = doc.current ∧ doc'.elements = doc.elements ∧
      doc'.values = doc.values ++ [(doc.current ++ [.key key], value)] := by
  simp only [Doc.define] at h
  split at h
  · cases h
  · cases h
    exact ⟨rfl, rfl, rfl⟩

/-- A header changes the current table and no value. -/
theorem openTable_keeps {doc doc' : Doc} {keys : List (List Char)}
    (h : doc.openTable keys = some doc') :
    doc'.current = doc.resolve [] keys ∧ doc'.elements = doc.elements ∧
      doc'.values = doc.values := by
  simp only [Doc.openTable] at h
  split at h
  · cases h
  · cases h
    exact ⟨rfl, rfl, rfl⟩

/-- An element adds no value. -/
theorem append_keeps {doc doc' : Doc} {keys : List (List Char)}
    (h : doc.append keys = some doc') : doc'.values = doc.values := by
  simp only [Doc.append] at h
  split at h
  · cases h
  · cases h
    rfl

theorem keyValue_keeps {g : Grammar} {doc doc' : Doc} {text key value rest : List Char}
    (h : keyValue g doc text key value = some (doc', rest)) : ∀ e ∈ doc.values, e ∈ doc'.values := by
  have hdefine : ∀ v, doc.define key v = some doc' → ∀ e ∈ doc.values, e ∈ doc'.values := by
    intro v hv e he
    rw [(define_keeps hv).2.2]
    exact List.mem_append_left _ he
  unfold keyValue at h
  split at h
  · simp only [Option.bind_eq_bind, Option.bind_eq_some_iff] at h
    obtain ⟨_, _, _, _, _, hv, h⟩ := h
    cases h
    exact hdefine _ hv
  · split at h
    · simp only [Option.bind_eq_bind, Option.bind_eq_some_iff] at h
      obtain ⟨_, _, _, hv, h⟩ := h
      cases h
      exact hdefine _ hv
    · exact g.other_keeps h

/-- **A statement keeps the values before it.** -/
theorem statement_keeps {g : Grammar} {doc doc' : Doc} {text rest : List Char}
    (h : statement g doc text = some (doc', rest)) : ∀ e ∈ doc.values, e ∈ doc'.values := by
  unfold statement at h
  split at h
  · cases h
    exact fun e he => he
  · -- an array of tables
    split at h
    · simp only [Option.bind_eq_bind, Option.bind_eq_some_iff] at h
      obtain ⟨_, _, _, happend, h⟩ := h
      cases h
      rw [append_keeps happend]
      exact fun e he => he
    · exact g.other_keeps h
  · -- a table
    split at h
    · simp only [Option.bind_eq_bind, Option.bind_eq_some_iff] at h
      obtain ⟨_, _, _, hopen, h⟩ := h
      cases h
      rw [(openTable_keeps hopen).2.2]
      exact fun e he => he
    · exact g.other_keeps h
  · split at h
    · obtain ⟨_, _, h⟩ := Option.map_eq_some_iff.mp h
      cases h
      exact fun e he => he
    · split at h
      · exact keyValue_keeps h
      · exact g.other_keeps h

/-- So does the rest of the text, by induction on the fuel. -/
theorem parseFrom_keeps {g : Grammar} {fuel : Nat} {doc final : Doc} {text : List Char}
    (h : parseFrom g fuel doc text = some final) : ∀ e ∈ doc.values, e ∈ final.values := by
  induction fuel generalizing doc text with
  | zero => cases h
  | succ fuel ih =>
    cases text with
    | nil =>
      cases h
      exact fun e he => he
    | cons c text =>
      simp only [parseFrom, Option.bind_eq_bind, Option.bind_eq_some_iff] at h
      obtain ⟨⟨doc', rest⟩, hstep, h⟩ := h
      exact fun e he => ih h e (statement_keeps hstep e he)

/-! ## Lines -/

/-- A line of a document as a writer puts it; `indent` is what stands before it. -/
inductive Line where
  | blank
  | comment (indent text : List Char)
  | table (indent name : List Char)
  | pair (indent key : List Char) (value : Value)

/-- A value as it is written: a string as it is between two quotes. -/
def Value.print : Value → List Char
  | .string s => '"' :: (s ++ ['"'])
  | .integer i => (toString i).toList
  | .boolean b => (toString b).toList
  | .other text => text

/-- A line as it is printed. -/
def Line.render : Line → List Char
  | .blank => ['\n']
  | .comment indent text => indent ++ '#' :: (text ++ ['\n'])
  | .table indent name => indent ++ '[' :: (name ++ [']', '\n'])
  | .pair indent key value => indent ++ (key ++ '=' :: (value.print ++ ['\n']))

def render (lines : List Line) : List Char := lines.flatMap Line.render

/-- The line is one of the modelled statements, whatever its string is. -/
def Line.wellFormed : Line → Bool
  | .blank => true
  | .comment indent text =>
    indent.all isBlank && text.all fun c => 32 ≤ c.toNat && c.toNat < 127
  | .table indent name =>
    indent.all isBlank && (name.all fun c => isBare c || c == '.') && (bareKeys name).isSome
  | .pair indent key value =>
    indent.all isBlank && !key.isEmpty && key.all isBare &&
      match value with
      | .other _ => false
      | _ => true

/-- A string that is plain, or no string. -/
def Value.Plain (d : Dialect) : Value → Prop
  | .string s => d.Plain s
  | _ => True

/-- The line's string, if it has one, is plain. -/
def Line.Plain (d : Dialect) : Line → Prop
  | .pair _ _ value => value.Plain d
  | _ => True

/-- What reading the line does. -/
def Line.apply (doc : Doc) : Line → Option Doc
  | .blank => some doc
  | .comment _ _ => some doc
  | .table _ name => (bareKeys name).bind doc.openTable
  | .pair _ key value => doc.define key value

/-- The lines one after the other. -/
def applyAll (doc : Doc) : List Line → Option Doc
  | [] => some doc
  | line :: lines => (line.apply doc).bind (applyAll · lines)

/-! ### Reading a line -/

/-- A run of characters ends at the first that does not belong to it. -/
theorem span_eq {p : Char → Bool} {front : List Char} (h : front.all p = true) {c : Char}
    (hc : p c = false) (text : List Char) :
    (front ++ c :: text).takeWhile p = front ∧ (front ++ c :: text).dropWhile p = c :: text := by
  induction front with
  | nil => simp [hc]
  | cons x front ih =>
    rw [List.all_cons, Bool.and_eq_true] at h
    obtain ⟨htake, hdrop⟩ := ih h.2
    rw [List.cons_append, List.takeWhile_cons, List.dropWhile_cons, if_pos h.1, if_pos h.1, htake,
      hdrop]
    exact ⟨rfl, rfl⟩

/-- A comment of printable characters is read to its end in every dialect. -/
theorem comment_printable (d : Dialect) {text : List Char}
    (h : (text.all fun c => 32 ≤ c.toNat && c.toNat < 127) = true) (rest : List Char) :
    comment d (text ++ '\n' :: rest) = some rest := by
  induction text with
  | nil => rfl
  | cons c text ih =>
    rw [List.all_cons, Bool.and_eq_true, Bool.and_eq_true, decide_eq_true_eq,
      decide_eq_true_eq] at h
    have hc : c ≠ '\n' := by
      rintro rfl
      exact absurd h.1.1 (by decide)
    rw [List.cons_append, comment, if_neg hc, d.barred_printable c h.1.1 h.1.2, ih h.2]
    rfl

@[simp] theorem lineEnd_newline (d : Dialect) (rest : List Char) :
    lineEnd d ('\n' :: rest) = some rest := rfl

/-- A character of a bare key is none of those that begin another statement. -/
theorem bare_ne {c : Char} (h : isBare c = true) :
    c ≠ '[' ∧ c ≠ '#' ∧ c ≠ '\n' ∧ c ≠ '\r' ∧ isBlank c = false := by
  refine ⟨?_, ?_, ?_, ?_, ?_⟩
  iterate 4 · rintro rfl; exact absurd h (by decide)
  by_contra hblank
  simp only [isBlank, Bool.not_eq_false, Bool.or_eq_true, beq_iff_eq] at hblank
  rcases hblank with rfl | rfl <;> exact absurd h (by decide)

theorem statement_blank (g : Grammar) (doc : Doc) (rest : List Char) :
    statement g doc ('\n' :: rest) = some (doc, rest) := rfl

/-- A well-formed comment is one statement. -/
theorem statement_comment (g : Grammar) (doc : Doc) {indent text : List Char}
    (hwell : (Line.comment indent text).wellFormed = true) (rest : List Char) :
    statement g doc ((Line.comment indent text).render ++ rest) = some (doc, rest) := by
  rw [Line.wellFormed, Bool.and_eq_true] at hwell
  have hline : (Line.comment indent text).render ++ rest =
      indent ++ '#' :: (text ++ '\n' :: rest) := by
    simp [Line.render]
  have hend : lineEnd g.toDialect ('#' :: (text ++ '\n' :: rest)) = some rest :=
    comment_printable g.toDialect hwell.2 rest
  rw [hline, statement, (span_eq hwell.1 rfl _).2]
  simp [hend]

theorem all_ne_bracket {name : List Char} (h : (name.all fun c => isBare c || c == '.') = true) :
    (name.all fun c => c != ']') = true := by
  rw [List.all_eq_true] at h ⊢
  intro c hc
  by_contra hne
  simp only [bne_iff_ne, ne_eq, not_not] at hne
  rw [hne] at hc
  exact absurd (h _ hc) (by decide)

/-- The header of an array of tables. -/
theorem statement_array (g : Grammar) (doc : Doc) {name : List Char} {keys : List (List Char)}
    (hname : (name.all fun c => isBare c || c == '.') = true) (hkeys : bareKeys name = some keys)
    (rest : List Char) :
    statement g doc ('[' :: '[' :: (name ++ ']' :: ']' :: '\n' :: rest)) =
      (doc.append keys).map fun doc => (doc, rest) := by
  have hspan := span_eq (all_ne_bracket hname) (c := ']') rfl (']' :: '\n' :: rest)
  have hblank : ('[' :: '[' :: (name ++ ']' :: ']' :: '\n' :: rest)).dropWhile isBlank =
      '[' :: '[' :: (name ++ ']' :: ']' :: '\n' :: rest) := rfl
  rw [statement, hblank]
  cases happend : doc.append keys <;> simp [hspan.1, hspan.2, hkeys, happend]

/-- So is a well-formed header. -/
theorem statement_table (g : Grammar) (doc : Doc) {indent name : List Char}
    (hwell : (Line.table indent name).wellFormed = true) (rest : List Char) :
    statement g doc ((Line.table indent name).render ++ rest) =
      ((Line.table indent name).apply doc).map fun doc => (doc, rest) := by
  rw [Line.wellFormed, Bool.and_eq_true, Bool.and_eq_true] at hwell
  obtain ⟨⟨hindent, hname⟩, hkeys⟩ := hwell
  obtain ⟨keys, hkeys⟩ := Option.isSome_iff_exists.mp hkeys
  have hline : (Line.table indent name).render ++ rest =
      indent ++ '[' :: (name ++ ']' :: '\n' :: rest) := by
    simp [Line.render]
  have hspan := span_eq (all_ne_bracket hname) (c := ']') rfl ('\n' :: rest)
  rw [hline, statement, (span_eq hindent rfl _).2]
  have hsingle : ∀ text, name ++ ']' :: '\n' :: rest ≠ '[' :: text := by
    intro text h
    cases name with
    | nil => cases h
    | cons c name =>
      rw [List.all_cons, Bool.and_eq_true, (List.cons.inj h).1] at hname
      exact absurd hname.1 (by decide)
  cases hopen : doc.openTable keys <;> simp [hspan.1, hspan.2, hkeys, Line.apply, hopen]

theorem startsNewline_of_ne {c : Char} (hnl : c ≠ '\n') (hcr : c ≠ '\r') (text : List Char) :
    startsNewline (c :: text) = false := by
  unfold startsNewline
  split
  · next h => exact absurd (List.cons.inj h).1 hnl
  · next h => exact absurd (List.cons.inj h).1 hcr
  · rfl

/-- Reading a key and what is behind it. -/
theorem statement_pair (g : Grammar) (doc : Doc) {indent key : List Char}
    (hindent : indent.all isBlank = true) (hne : key ≠ []) (hkey : key.all isBare = true)
    (value : List Char) :
    statement g doc (indent ++ (key ++ '=' :: value)) =
      keyValue g doc (indent ++ (key ++ '=' :: value)) key (value.dropWhile isBlank) := by
  have hspan := span_eq hkey (c := '=') rfl value
  obtain ⟨c, key, rfl⟩ := List.exists_cons_of_ne_nil hne
  have hc : isBare c = true := by
    rw [List.all_cons, Bool.and_eq_true] at hkey
    exact hkey.1
  obtain ⟨hbracket, hhash, hnl, hcr, hblank⟩ := bare_ne hc
  have hdrop := (span_eq hindent hblank (key ++ '=' :: value)).2
  rw [List.cons_append] at hspan ⊢
  rw [statement, hdrop]
  split
  · next h => cases h
  · next h => exact absurd (List.cons.inj h).1 hbracket
  · next h => exact absurd (List.cons.inj h).1 hbracket
  · next c' line _ _ h =>
    obtain ⟨rfl, rfl⟩ := List.cons.inj h
    rw [startsNewline_of_ne hnl hcr, hspan.1, hspan.2]
    simp [hhash, isBlank]

/-- May stand in a token, and does not begin a string. -/
def isWord (c : Char) : Bool := isToken c && c != '"'

theorem isWord_of_isDigit {c : Char} (h : c.isDigit = true) : isWord c = true := by
  by_contra hword
  simp only [isWord, isToken, isWhite, isBlank, Bool.and_eq_true, Bool.not_eq_true', bne_iff_ne,
    Bool.or_eq_false_iff, beq_eq_false_iff_ne, not_and_or, ne_eq, not_not] at hword
  rcases hword with ((((rfl | rfl) | rfl) | rfl) | rfl) | rfl <;> exact absurd h (by decide)

theorem digits_word (n : Nat) : (Nat.toDigits 10 n).all isWord = true :=
  List.all_eq_true.mpr fun _ hc =>
    isWord_of_isDigit (Nat.isDigit_of_mem_toDigits (by omega) (by omega) hc)

/-- The digits of a number are read as that number. -/
theorem natural_toDigits (n : Nat) : natural (Nat.toDigits 10 n) = some n := by
  simp [natural, Nat.ofDigitChars_ten_toDigits]

/-- A value of digits is an integer. -/
theorem scalar_toDigits (n : Nat) : scalar (Nat.toDigits 10 n) = some (.integer n) := by
  have hhead : ∀ c text, Nat.toDigits 10 n = c :: text → c.isDigit = true := by
    intro c text h
    have hc : c ∈ Nat.toDigits 10 n := by rw [h]; exact List.mem_cons_self
    exact Nat.isDigit_of_mem_toDigits (by omega) (by omega) hc
  unfold scalar
  rw [if_neg fun h => absurd (hhead _ _ h) (by decide),
    if_neg fun h => absurd (hhead _ _ h) (by decide)]
  split
  · next h => exact absurd (hhead _ _ h) (by decide)
  · next h => exact absurd (hhead _ _ h) (by decide)
  · rw [natural_toDigits]
    rfl

/-- The text of an integer is a token that denotes it. -/
theorem integer_print (i : Int) :
    (toString i).toList.all isWord = true ∧ scalar (toString i).toList = some (.integer i) := by
  cases i with
  | ofNat n =>
    have htext : (toString (Int.ofNat n)).toList = Nat.toDigits 10 n := Nat.toList_repr
    rw [htext]
    exact ⟨digits_word n, scalar_toDigits n⟩
  | negSucc n =>
    have htext : (toString (Int.negSucc n)).toList = '-' :: Nat.toDigits 10 (n + 1) := by
      rw [← Nat.toList_repr]
      exact String.toList_append
    rw [htext]
    refine ⟨?_, ?_⟩
    · rw [List.all_cons, digits_word]
      rfl
    · simp [scalar, natural_toDigits, Int.negSucc_eq]

/-- A value that is a token on its line. -/
theorem keyValue_token (g : Grammar) (doc : Doc) (text key : List Char) {token : List Char}
    {value : Value} (htoken : token.all isWord = true)
    (hscalar : scalar token = some value) (rest : List Char) :
    keyValue g doc text key (token ++ '\n' :: rest) =
      (doc.define key value).map fun doc => (doc, rest) := by
  have hall : token.all isToken = true := by
    rw [List.all_eq_true] at htoken ⊢
    exact fun c hc => (Bool.and_eq_true _ _ ▸ htoken c hc : _ ∧ _).1
  have hspan := span_eq hall (c := '\n') rfl rest
  unfold keyValue
  split
  · next c h =>
    -- a token does not begin with a quote
    cases token with
    | nil => cases h
    | cons x token =>
      rw [List.all_cons, (List.cons.inj h).1] at htoken
      cases htoken
  · cases hdefine : doc.define key value <;> simp [hspan.1, hspan.2, hscalar, hdefine]

/-- Behind `=`, a value that is no string and no other one is read. -/
theorem statement_scalar (g : Grammar) (doc : Doc) {indent key token : List Char} {value : Value}
    (hindent : indent.all isBlank = true) (hne : key ≠ []) (hkey : key.all isBare = true)
    (htoken : token.all isWord = true)
    (hscalar : scalar token = some value) (rest : List Char) :
    statement g doc (indent ++ (key ++ '=' :: (token ++ '\n' :: rest))) =
      (doc.define key value).map fun doc => (doc, rest) := by
  have hdrop : (token ++ '\n' :: rest).dropWhile isBlank = token ++ '\n' :: rest := by
    cases token with
    | nil => rfl
    | cons c token =>
      rw [List.all_cons, Bool.and_eq_true, isWord, Bool.and_eq_true] at htoken
      have hblank : isBlank c = false := by
        have hwhite := htoken.1.1
        simp only [isToken, isWhite, Bool.and_eq_true, Bool.not_eq_true', Bool.or_eq_false_iff]
          at hwhite
        exact hwhite.1.1.1
      rw [List.cons_append, List.dropWhile_cons, hblank]
      rfl
  rw [statement_pair g doc hindent hne hkey, hdrop, keyValue_token g doc _ key htoken hscalar]

/-- Behind `=`, a string is whatever the reader of strings makes of it. -/
theorem statement_string (g : Grammar) (doc : Doc) {indent key : List Char}
    (hindent : indent.all isBlank = true) (hne : key ≠ []) (hkey : key.all isBare = true)
    (text : List Char) :
    statement g doc (indent ++ (key ++ '=' :: '"' :: text)) = (do
      let (s, rest) ← stringValue g.toDialect ('"' :: text)
      let rest ← lineEnd g.toDialect rest
      let doc ← doc.define key (.string s)
      return (doc, rest)) := by
  rw [statement_pair g doc hindent hne hkey]
  rfl

/-- A text stands between quotes. -/
theorem render_string (indent key s rest : List Char) :
    (Line.pair indent key (.string s)).render ++ rest =
      indent ++ (key ++ '=' :: '"' :: (s ++ '"' :: '\n' :: rest)) := by
  simp [Line.render, Value.print]

/-- A well-formed line whose string is plain is read as what it says. -/
theorem statement_render (g : Grammar) (doc : Doc) {line : Line} (hwell : line.wellFormed = true)
    (hplain : line.Plain g.toDialect) (rest : List Char) :
    statement g doc (line.render ++ rest) = (line.apply doc).map fun doc => (doc, rest) := by
  cases line with
  | blank => exact statement_blank g doc rest
  | comment indent text => exact statement_comment g doc hwell rest
  | table indent name => exact statement_table g doc hwell rest
  | pair indent key value =>
    simp only [Line.wellFormed, Bool.and_eq_true, Bool.not_eq_true', List.isEmpty_eq_false_iff]
      at hwell
    obtain ⟨⟨⟨hindent, hne⟩, hkey⟩, hvalue⟩ := hwell
    cases value with
    | string s =>
      rw [render_string, statement_string g doc hindent hne hkey, stringValue_plain hplain]
      cases hdefine : doc.define key (.string s) <;> simp [Line.apply, hdefine]
    | integer i =>
      obtain ⟨hprint, hscalar⟩ := integer_print i
      have hline := statement_scalar g doc hindent hne hkey hprint hscalar rest
      simpa [Line.render, Value.print, Line.apply] using hline
    | boolean b =>
      have htoken : (toString b).toList.all isWord = true := by
        cases b <;> decide
      have hscalar : scalar (toString b).toList = some (.boolean b) := by
        cases b <;> decide
      have hline := statement_scalar g doc hindent hne hkey htoken hscalar rest
      simpa [Line.render, Value.print, Line.apply] using hline
    | other text => cases hvalue

/-! ### What a line leaves -/

/-- The table that the line's keys, and those below it, are defined in. -/
def Line.next (path : Path) : Line → Path
  | .table _ name => ((bareKeys name).getD []).map .key
  | _ => path

/-- What the line defines. -/
def Line.entries (path : Path) : Line → List (Path × Value)
  | .pair _ key value => [(path ++ [.key key], value)]
  | _ => []

/-- What the lines spell out, below the table `path`. -/
def entries : Path → List Line → List (Path × Value)
  | _, [] => []
  | path, line :: lines => line.entries path ++ entries (line.next path) lines

theorem mem_entries_append {e : Path × Value} {path : Path} {lines : List Line}
    (h : e ∈ entries path lines) (more : List Line) : e ∈ entries path (lines ++ more) := by
  induction lines generalizing path with
  | nil => cases h
  | cons line lines ih =>
    rcases List.mem_append.mp h with h | h
    · exact List.mem_append_left _ h
    · exact List.mem_append_right _ (ih h)

/-- The strings of the lines are those among what they spell out. -/
theorem forall_plain_iff (d : Dialect) (path : Path) (lines : List Line) :
    (∀ line ∈ lines, line.Plain d) ↔ ∀ e ∈ entries path lines, e.2.Plain d := by
  induction lines generalizing path with
  | nil => simp [entries]
  | cons line lines ih =>
    rw [List.forall_mem_cons, entries, List.forall_mem_append, ih]
    have hline : line.Plain d ↔ ∀ e ∈ line.entries path, e.2.Plain d := by
      cases line <;> simp [Line.Plain, Line.entries]
    rw [hline]

/-- Without arrays of tables a path is the one that is written. -/
theorem resolve_eq {doc : Doc} (h : doc.elements = []) (path : Path) (keys : List (List Char)) :
    doc.resolve path keys = path ++ keys.map .key := by
  induction keys generalizing path with
  | nil => simp [Doc.resolve]
  | cons key keys ih =>
    rw [Doc.resolve, h, List.lookup_nil]
    simp [ih]

/-- **What a line does** to a document without arrays. -/
theorem apply_spec {doc doc' : Doc} (h : doc.elements = []) {line : Line}
    (hstep : line.apply doc = some doc') :
    doc'.current = line.next doc.current ∧ doc'.elements = [] ∧
      doc'.values = doc.values ++ line.entries doc.current := by
  cases line with
  | blank =>
    cases hstep
    exact ⟨rfl, h, (List.append_nil _).symm⟩
  | comment indent text =>
    cases hstep
    exact ⟨rfl, h, (List.append_nil _).symm⟩
  | table indent name =>
    obtain ⟨keys, hkeys, hopen⟩ := Option.bind_eq_some_iff.mp hstep
    obtain ⟨hcurrent, helements, hvalues⟩ := openTable_keeps hopen
    refine ⟨?_, helements.trans h, by rw [hvalues]; exact (List.append_nil _).symm⟩
    rw [hcurrent, resolve_eq h, Line.next, hkeys]
    rfl
  | pair indent key value =>
    obtain ⟨hcurrent, helements, hvalues⟩ := define_keeps hstep
    exact ⟨hcurrent, helements.trans h, hvalues⟩

/-- The values of a document of lines. -/
theorem values_applyAll {doc doc' : Doc} (h : doc.elements = []) {lines : List Line}
    (hrun : applyAll doc lines = some doc') :
    doc'.elements = [] ∧ doc'.values = doc.values ++ entries doc.current lines := by
  induction lines generalizing doc with
  | nil =>
    cases hrun
    exact ⟨h, (List.append_nil _).symm⟩
  | cons line lines ih =>
    obtain ⟨next, hstep, hrest⟩ := Option.bind_eq_some_iff.mp hrun
    obtain ⟨hcurrent, helements, hvalues⟩ := apply_spec h hstep
    obtain ⟨hfinal, hall⟩ := ih helements hrest
    refine ⟨hfinal, ?_⟩
    rw [hall, hvalues, hcurrent, List.append_assoc]
    rfl

/-! ### Whatever the values are

Whether lines can be read one after the other is a matter of their keys. -/

/-- A value of the same kind; whether a key can be set does not depend on it. -/
def Value.erase : Value → Value
  | .string _ => .string []
  | .integer _ => .integer 0
  | .boolean _ => .boolean false
  | .other _ => .other []

def Line.erase : Line → Line
  | .pair indent key value => .pair indent key value.erase
  | line => line

def Doc.erase (doc : Doc) : Doc :=
  { doc with values := doc.values.map fun e => (e.1, e.2.erase) }

@[simp] theorem taken_erase (doc : Doc) (path : Path) : doc.erase.taken path = doc.taken path := by
  simp [Doc.taken, Doc.erase, Function.comp_def]

@[simp] theorem blocked_erase (doc : Doc) (path : Path) :
    doc.erase.blocked path = doc.blocked path := by
  simp [Doc.blocked, Doc.erase, Function.comp_def]

@[simp] theorem resolve_erase (doc : Doc) (path : Path) (keys : List (List Char)) :
    doc.erase.resolve path keys = doc.resolve path keys := by
  induction keys generalizing path with
  | nil => rfl
  | cons key keys ih =>
    rw [Doc.resolve, Doc.resolve, ih]
    simp only [ih]
    rfl

/-- A line is taken or refused with any other value as well. -/
theorem apply_erase (doc : Doc) (line : Line) :
    line.erase.apply doc.erase = (line.apply doc).map Doc.erase := by
  cases line with
  | blank => rfl
  | comment indent text => rfl
  | table indent name =>
    simp only [Line.erase, Line.apply]
    cases bareKeys name with
    | none => rfl
    | some keys =>
      have htables : doc.erase.tables = doc.tables := rfl
      simp only [Option.bind_some, Doc.openTable, resolve_erase, blocked_erase, htables]
      split
      · rfl
      · rfl
  | pair indent key value =>
    have hcurrent : doc.erase.current = doc.current := rfl
    simp only [Line.erase, Line.apply, Doc.define, hcurrent, taken_erase, blocked_erase]
    split
    · rfl
    · simp [Doc.erase]

/-- So are all the lines, by induction. -/
theorem applyAll_erase (doc : Doc) (lines : List Line) :
    applyAll doc.erase (lines.map Line.erase) = (applyAll doc lines).map Doc.erase := by
  induction lines generalizing doc with
  | nil => rfl
  | cons line lines ih =>
    rw [List.map_cons, applyAll, applyAll, apply_erase]
    cases line.apply doc with
    | none => rfl
    | some next => exact ih next

/-- Lines with the same keys are all taken, or not. -/
theorem isSome_applyAll_of_erase {lines lines' : List Line}
    (h : lines.map Line.erase = lines'.map Line.erase) :
    (applyAll Doc.empty lines).isSome = (applyAll Doc.empty lines').isSome := by
  have herase : ∀ ls : List Line,
      (applyAll Doc.empty (ls.map Line.erase)).isSome = (applyAll Doc.empty ls).isSome := fun ls => by
    have hcommute := applyAll_erase Doc.empty ls
    rw [show Doc.empty.erase = Doc.empty from rfl] at hcommute
    rw [hcommute, Option.isSome_map]
  rw [← herase lines, h, herase lines']

/-- They set the same paths. -/
theorem paths_of_erase (path : Path) {lines lines' : List Line}
    (h : lines.map Line.erase = lines'.map Line.erase) :
    (entries path lines).map Prod.fst = (entries path lines').map Prod.fst := by
  have herase : ∀ (path : Path) (ls : List Line),
      (entries path (ls.map Line.erase)).map Prod.fst = (entries path ls).map Prod.fst := by
    intro path ls
    induction ls generalizing path with
    | nil => rfl
    | cons line ls ih =>
      rw [List.map_cons, entries, entries, List.map_append, List.map_append, ih]
      cases line <;> rfl
  rw [← herase path lines, h, herase path lines']

/-! ## Documents of lines -/

theorem render_ne_nil (line : Line) (rest : List Char) : line.render ++ rest ≠ [] := by
  cases line <;> simp [Line.render]

/-- One statement, as long as there is text. -/
theorem parseFrom_step (g : Grammar) (fuel : Nat) (doc : Doc) {text : List Char} (h : text ≠ []) :
    parseFrom g (fuel + 1) doc text =
      (statement g doc text).bind fun next => parseFrom g fuel next.1 next.2 := by
  obtain ⟨c, text, rfl⟩ := List.exists_cons_of_ne_nil h
  rfl

/-- Lines whose strings are plain are read one by one. -/
theorem parseFrom_lines (g : Grammar) (fuel : Nat) (doc : Doc) {lines : List Line}
    (hwell : lines.all Line.wellFormed = true) (hplain : ∀ line ∈ lines, line.Plain g.toDialect)
    (rest : List Char) :
    parseFrom g (fuel + lines.length) doc (render lines ++ rest) =
      (applyAll doc lines).bind fun doc => parseFrom g fuel doc rest := by
  induction lines generalizing doc with
  | nil => rfl
  | cons line lines ih =>
    rw [List.all_cons, Bool.and_eq_true] at hwell
    have hline := hplain line List.mem_cons_self
    have hrest : ∀ l ∈ lines, l.Plain g.toDialect := fun l hl =>
      hplain l (List.mem_cons_of_mem _ hl)
    have htext : render (line :: lines) ++ rest = line.render ++ (render lines ++ rest) := by
      simp [render]
    rw [List.length_cons, ← Nat.add_assoc, htext, parseFrom_step g _ doc (render_ne_nil _ _),
      statement_render g doc hwell.1 hline, applyAll]
    cases line.apply doc with
    | none => rfl
    | some next => exact ih next hwell.2 hrest

/-- Every line takes a step, and at least one character. -/
theorem length_le_render (lines : List Line) : lines.length ≤ (render lines).length := by
  induction lines with
  | nil => rfl
  | cons line lines ih =>
    have hline : 0 < line.render.length :=
      List.length_pos_iff.mpr (by simpa using render_ne_nil line [])
    have htext : render (line :: lines) = line.render ++ render lines := by simp [render]
    rw [htext, List.length_cons, List.length_append]
    omega

/-- Lines whose strings are plain, and a tail: the tail is read in what the lines leave. -/
theorem parse_lines (g : Grammar) {lines : List Line} (hwell : lines.all Line.wellFormed = true)
    (hplain : ∀ line ∈ lines, line.Plain g.toDialect) (tail : List Char) :
    ∃ fuel, tail.length < fuel ∧ parse g (render lines ++ tail) =
      (applyAll Doc.empty lines).bind fun doc => parseFrom g fuel doc tail := by
  have hle := length_le_render lines
  refine ⟨(render lines).length - lines.length + tail.length + 1, by omega, ?_⟩
  rw [← parseFrom_lines g _ Doc.empty hwell hplain, parse, List.length_append]
  congr 1
  omega

/-- Lines whose strings are plain are a document. -/
theorem parse_render (g : Grammar) {lines : List Line} (hwell : lines.all Line.wellFormed = true)
    (hplain : ∀ line ∈ lines, line.Plain g.toDialect) :
    parse g (render lines) = applyAll Doc.empty lines := by
  obtain ⟨fuel, hfuel, hparse⟩ := parse_lines g hwell hplain []
  obtain ⟨fuel, rfl⟩ : ∃ n, fuel = n + 1 := ⟨fuel - 1, by omega⟩
  rw [List.append_nil] at hparse
  rw [hparse]
  cases applyAll Doc.empty lines with
  | none => rfl
  | some doc => rfl

theorem not_mem_of_all {p : Char → Bool} {text : List Char} (h : text.all p = true) {c : Char}
    (hc : p c = false) : c ∉ text := by
  intro hmem
  rw [List.all_eq_true.mp h c hmem] at hc
  cases hc

/-- What follows a line is guarded: every line puts a mark before its first quote. -/
theorem guarded_line {line : Line} (hwell : line.wellFormed = true) {tail : List Char}
    (htail : Guarded tail) : Guarded (line.render ++ tail) := by
  cases line with
  | blank => exact guarded_append (by decide) htail
  | comment indent text =>
    rw [Line.wellFormed, Bool.and_eq_true] at hwell
    have hmark := guarded_mark (not_mem_of_all hwell.1 (c := '"') rfl) (m := '#') rfl
      (text ++ ['\n'] ++ tail)
    simpa [Line.render] using hmark
  | table indent name =>
    rw [Line.wellFormed, Bool.and_eq_true, Bool.and_eq_true] at hwell
    have hindent := not_mem_of_all hwell.1.1 (c := '"') rfl
    have hname := not_mem_of_all hwell.1.2 (c := '"') (by decide)
    refine guarded_append ?_ htail
    simp [Line.render, hindent, hname]
  | pair indent key value =>
    simp only [Line.wellFormed, Bool.and_eq_true] at hwell
    have hindent := not_mem_of_all hwell.1.1.1 (c := '"') rfl
    have hkey := not_mem_of_all hwell.1.2 (c := '"') (by decide)
    have hfront : '"' ∉ indent ++ key := by simp [hindent, hkey]
    have hmark := guarded_mark hfront (m := '=') rfl (value.print ++ ['\n'] ++ tail)
    simpa [Line.render] using hmark

/-- Well-formed lines keep a tail guarded. -/
theorem guarded_render {lines : List Line} (hwell : lines.all Line.wellFormed = true)
    {tail : List Char} (htail : Guarded tail) : Guarded (render lines ++ tail) := by
  induction lines with
  | nil => exact htail
  | cons line lines ih =>
    rw [List.all_cons, Bool.and_eq_true] at hwell
    have hline := guarded_line hwell.1 (ih hwell.2)
    simpa [render] using hline

/-- Only a string can fail to be plain. -/
theorem exists_string_of_not_plain {d : Dialect} {line : Line} (h : ¬ line.Plain d) :
    ∃ indent key s, line = .pair indent key (.string s) := by
  cases line with
  | pair indent key value =>
    cases value with
    | string s => exact ⟨indent, key, s, rfl⟩
    | integer i => exact absurd trivial h
    | boolean b => exact absurd trivial h
    | other text => exact absurd trivial h
  | blank => exact absurd trivial h
  | comment indent text => exact absurd trivial h
  | table indent name => exact absurd trivial h

/-- The first line whose string is not plain leaves another string under its key, if the text is a
    document at all. -/
theorem parseFrom_ne {g : Grammar} {fuel : Nat} {doc final : Doc} {lines : List Line}
    {tail : List Char} (helements : doc.elements = []) (hwell : lines.all Line.wellFormed = true)
    (htail : Guarded tail) (hplain : ¬ ∀ line ∈ lines, line.Plain g.toDialect)
    (h : parseFrom g fuel doc (render lines ++ tail) = some final) :
    ∃ path s out, (path, .string s) ∈ entries doc.current lines ∧ out ≠ s ∧
      (path, .string out) ∈ final.values := by
  induction lines generalizing fuel doc with
  | nil => exact absurd (fun line hline => absurd hline (by simp)) hplain
  | cons line lines ih =>
    rw [List.all_cons, Bool.and_eq_true] at hwell
    cases fuel with
    | zero => cases h
    | succ fuel =>
      have htext : render (line :: lines) ++ tail = line.render ++ (render lines ++ tail) := by
        simp [render]
      rw [htext, parseFrom_step g _ doc (render_ne_nil _ _)] at h
      obtain ⟨⟨next, rest⟩, hstep, hrun⟩ := Option.bind_eq_some_iff.mp h
      by_cases hline : line.Plain g.toDialect
      · -- the line is read, and the one in question is further down
        rw [statement_render g doc hwell.1 hline] at hstep
        obtain ⟨doc', happly, hpair⟩ := Option.map_eq_some_iff.mp hstep
        cases hpair
        obtain ⟨hcurrent, hnone, -⟩ := apply_spec helements happly
        have hlines : ¬ ∀ l ∈ lines, l.Plain g.toDialect := fun hall => hplain fun l hl => by
          rcases List.mem_cons.mp hl with rfl | hl
          · exact hline
          · exact hall l hl
        obtain ⟨path, s, out, hmem, hne, hfinal⟩ := ih hnone hwell.2 hlines hrun
        rw [hcurrent] at hmem
        exact ⟨path, s, out, List.mem_append_right _ hmem, hne, hfinal⟩
      · -- the line in question
        obtain ⟨indent, key, s, rfl⟩ := exists_string_of_not_plain hline
        have hkeys := hwell.1
        simp only [Line.wellFormed, Bool.and_eq_true, Bool.not_eq_true',
          List.isEmpty_eq_false_iff] at hkeys
        rw [render_string, statement_string g doc hkeys.1.1.1 hkeys.1.1.2 hkeys.1.2] at hstep
        simp only [Option.bind_eq_bind, Option.bind_eq_some_iff] at hstep
        obtain ⟨⟨out, _⟩, hstring, _, _, doc', hdefine, hpair⟩ := hstep
        cases hpair
        have hne := stringValue_ne hline (guarded_render hwell.2 htail) hstring
        have hkept : (doc.current ++ [.key key], .string out) ∈ next.values := by
          rw [(define_keeps hdefine).2.2]
          exact List.mem_append_right _ List.mem_cons_self
        exact ⟨_, s, out, List.mem_append_left _ List.mem_cons_self, hne,
          parseFrom_keeps hrun _ hkept⟩

theorem values_of_lines {lines : List Line} {doc : Doc} (h : applyAll Doc.empty lines = some doc) :
    doc.elements = [] ∧ doc.values = entries [] lines := values_applyAll rfl h

/-- Lines of which one has a string that is not plain, and a tail: the text is refused, or it leaves
    another string under the key of one of the lines. -/
theorem parse_ne {g : Grammar} {final : Doc} {lines : List Line} {tail : List Char}
    (hwell : lines.all Line.wellFormed = true) (htail : Guarded tail)
    (hplain : ¬ ∀ line ∈ lines, line.Plain g.toDialect)
    (h : parse g (render lines ++ tail) = some final) :
    ∃ path s out, (path, .string s) ∈ entries [] lines ∧ out ≠ s ∧
      (path, .string out) ∈ final.values := parseFrom_ne rfl hwell htail hplain h

theorem guarded_nil : Guarded [] := by
  intro before after h
  cases before <;> cases h

end Toml
