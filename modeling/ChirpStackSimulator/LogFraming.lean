/-
  The bytes of the live log: `LogHook.Fire`, `handleLogStream` (`internal/api/logs.go`) and the
  `EventSource` of `console.js`.

  A Go string is bytes, and a message may have been put together from a payload off the network.  The
  handler writes every line as one `data` field and a blank line.

  1. **Lines** — `Entry.line` is what `Fire` formats, `frame` what the handler writes of it.

  2. **The browser** decodes the bytes as UTF-8 and reads the text as an event stream.  What it puts in
     the place of bytes that are no UTF-8 is a parameter.

  3. **The law** (`lines_delivered_iff`): the messages are the lines, one for one, exactly if every line is
     UTF-8 without line feeds and carriage returns.  `console_delivery` puts it together
     with the delivery of the lines themselves, which are texts there.
-/
import ChirpStackSimulator.Lib.EventStream
import ChirpStackSimulator.LogStream

namespace ChirpStackSimulator.LogFraming

open EventStream (IsBreak frames parse)

/-! ## Lines -/

/-- The bytes of a text. -/
def utf8 (text : List Char) : List UInt8 := text.flatMap String.utf8EncodeChar

/-- What `Fire` reads of a log entry, its strings as bytes. -/
structure Entry where
  timestamp : List UInt8
  level : List UInt8
  message : List UInt8
  /-- The fields as JSON; `none` for an entry without fields. -/
  data : Option (Except String (List UInt8))

/-- `[time] level: message fields`. -/
def Entry.line (entry : Entry) : List UInt8 :=
  let fields := match entry.data with
    | some (.ok fieldsData) => utf8 [' '] ++ fieldsData
    | _ => []
  utf8 ['['] ++ entry.timestamp ++ utf8 [']', ' '] ++ entry.level ++ utf8 [':', ' '] ++ entry.message
    ++ fields

/-- `fmt.Fprintf(w, "data: %s\n\n", line)`. -/
def frame (line : List UInt8) : List UInt8 :=
  utf8 ['d', 'a', 't', 'a', ':', ' '] ++ line ++ utf8 ['\n', '\n']

/-- What the handler writes for these entries. -/
def written (entries : List Entry) : List UInt8 := entries.flatMap fun entry => frame entry.line

/-! ## The browser -/

/-- The UTF-8 decoder, which puts something else in the place of what is no UTF-8. -/
def decodeText (replaced : List UInt8 → List Char) (bytes : List UInt8) : List Char :=
  match bytes.toByteArray.utf8Decode? with
  | some text => text.toList
  | none => replaced bytes

/-- The data of the messages `onmessage` gets. -/
def messages (replaced : List UInt8 → List Char) (bytes : List UInt8) : List (List Char) :=
  parse (decodeText replaced bytes)

theorem utf8_append (text more : List Char) : utf8 (text ++ more) = utf8 text ++ utf8 more :=
  List.flatMap_append

/-- Text is decoded as it was encoded. -/
theorem decodeText_utf8 (replaced : List UInt8 → List Char) (text : List Char) :
    decodeText replaced (utf8 text) = text := by
  have hbytes : (utf8 text).toByteArray = text.utf8Encode := rfl
  unfold decodeText
  rw [hbytes, List.utf8Decode?_utf8Encode]

/-- An ASCII byte stands for its character and is part of no other. -/
theorem mem_utf8EncodeChar {c : Char} {b : UInt8} (hb : b.toNat ≤ 127) :
    b ∈ String.utf8EncodeChar c ↔ c.toNat = b.toNat := by
  have hofNat {n : Nat} (hn : n < 256) : b = UInt8.ofNat n ↔ b.toNat = n := by
    have hvalue : (UInt8.ofNat n).toNat = n := UInt8.toNat_ofNat_of_lt hn
    rw [← UInt8.toNat_inj, hvalue]
  have hv : c.toNat = c.val.toNat := rfl
  rw [hv]
  unfold String.utf8EncodeChar
  dsimp only
  split
  · rw [List.mem_singleton, hofNat (by omega)]
    exact eq_comm
  · refine iff_of_false (fun hmem => ?_) (by omega)
    split at hmem
    · simp only [List.mem_cons, List.not_mem_nil, or_false] at hmem
      rw [hofNat (by omega), hofNat (by omega)] at hmem
      omega
    · split at hmem
      · simp only [List.mem_cons, List.not_mem_nil, or_false] at hmem
        rw [hofNat (by omega), hofNat (by omega), hofNat (by omega)] at hmem
        omega
      · simp only [List.mem_cons, List.not_mem_nil, or_false] at hmem
        rw [hofNat (by omega), hofNat (by omega), hofNat (by omega), hofNat (by omega)] at hmem
        omega

/-- A line feed or a carriage return among the bytes. -/
def IsBreakByte (b : UInt8) : Prop := b = 10 ∨ b = 13

instance (b : UInt8) : Decidable (IsBreakByte b) := by unfold IsBreakByte; infer_instance

/-- A text has a line break exactly if its bytes have. -/
theorem breaks_utf8 (text : List Char) :
    (∀ b ∈ utf8 text, ¬ IsBreakByte b) ↔ ∀ c ∈ text, ¬ IsBreak c := by
  have hchar (c : Char) : (∃ b ∈ String.utf8EncodeChar c, IsBreakByte b) ↔ IsBreak c := by
    have h10 : (10 : UInt8) ∈ String.utf8EncodeChar c ↔ c = '\n' := by
      rw [mem_utf8EncodeChar (by decide), ← Char.toNat_inj]
      rfl
    have h13 : (13 : UInt8) ∈ String.utf8EncodeChar c ↔ c = '\r' := by
      rw [mem_utf8EncodeChar (by decide), ← Char.toNat_inj]
      rfl
    unfold IsBreakByte IsBreak
    rw [← h10, ← h13]
    constructor
    · rintro ⟨b, hb, rfl | rfl⟩
      · exact Or.inl hb
      · exact Or.inr hb
    · rintro (hb | hb)
      · exact ⟨10, hb, Or.inl rfl⟩
      · exact ⟨13, hb, Or.inr rfl⟩
  constructor
  · intro h c hc hbreak
    obtain ⟨b, hb, hbyte⟩ := (hchar c).mpr hbreak
    exact h b (List.mem_flatMap.mpr ⟨c, hc, hb⟩) hbyte
  · intro h b hb hbyte
    obtain ⟨c, hc, hmem⟩ := List.mem_flatMap.mp hb
    exact h c hc ((hchar c).mp ⟨b, hmem, hbyte⟩)

/-! ## The law -/

/-- The messages are the lines of the entries, one for one. -/
def Delivered (replaced : List UInt8 → List Char) (entries : List Entry) : Prop :=
  (messages replaced (written entries)).map utf8 = entries.map Entry.line

/-- A line that can be framed: text, without line breaks. -/
def Clean (line : List UInt8) : Prop :=
  (∃ text, line = utf8 text) ∧ ∀ b ∈ line, ¬ IsBreakByte b

theorem frame_utf8 (text : List Char) : frame (utf8 text) = utf8 (EventStream.frame text) := by
  unfold frame EventStream.frame
  rw [utf8_append, utf8_append]

theorem written_utf8 (texts : List (List Char)) :
    texts.flatMap (fun text => frame (utf8 text)) = utf8 (frames texts) := by
  unfold frames utf8
  rw [List.flatMap_assoc]
  exact List.flatMap_congr fun text _ => frame_utf8 text

/-- Texts are read one by one exactly if none has a line break. -/
theorem messages_texts_iff (replaced : List UInt8 → List Char) (texts : List (List Char)) :
    messages replaced (texts.flatMap fun text => frame (utf8 text)) = texts ↔
      ∀ text ∈ texts, ∀ c ∈ text, ¬ IsBreak c := by
  unfold messages
  rw [written_utf8, decodeText_utf8]
  exact EventStream.parse_frames_iff texts

theorem exists_texts {lines : List (List UInt8)} (h : ∀ line ∈ lines, ∃ text, line = utf8 text) :
    ∃ texts : List (List Char), texts.map utf8 = lines := by
  induction lines with
  | nil => exact ⟨[], rfl⟩
  | cons line lines ih =>
    obtain ⟨⟨text, rfl⟩, hrest⟩ := List.forall_mem_cons.mp h
    obtain ⟨texts, rfl⟩ := ih hrest
    exact ⟨text :: texts, rfl⟩

theorem written_eq (entries : List Entry) :
    written entries = (entries.map Entry.line).flatMap frame := by
  unfold written
  rw [List.flatMap_map]

/-- What arrives is text without a line break. -/
theorem clean_of_delivered {replaced : List UInt8 → List Char} {entries : List Entry}
    (h : Delivered replaced entries) : ∀ entry ∈ entries, Clean entry.line := by
  unfold Delivered at h
  rw [written_eq] at h
  suffices hlines : ∀ line ∈ entries.map Entry.line, Clean line by simpa using hlines
  generalize entries.map Entry.line = lines at h ⊢
  intro line hline
  have hbreaks : ∀ text ∈ messages replaced (lines.flatMap frame), ∀ c ∈ text, ¬ IsBreak c := by
    refine (messages_texts_iff replaced _).mp ?_
    rw [← List.flatMap_map, h]
  rw [← h] at hline
  obtain ⟨text, htext, rfl⟩ := List.mem_map.mp hline
  exact ⟨⟨text, rfl⟩, (breaks_utf8 text).mpr (hbreaks text htext)⟩

/-- **The log arrives line by line exactly if every line is clean**, for any entries and whatever the
    browser puts in the place of bytes that are no UTF-8. -/
theorem lines_delivered_iff (replaced : List UInt8 → List Char) (entries : List Entry) :
    Delivered replaced entries ↔ ∀ entry ∈ entries, Clean entry.line := by
  refine ⟨clean_of_delivered, fun h => ?_⟩
  unfold Delivered
  rw [written_eq]
  have hlines : ∀ line ∈ entries.map Entry.line, Clean line := by simpa using h
  generalize entries.map Entry.line = lines at hlines ⊢
  obtain ⟨texts, rfl⟩ := exists_texts fun line hline => (hlines line hline).1
  have hbreaks : ∀ text ∈ texts, ∀ c ∈ text, ¬ IsBreak c := fun text htext =>
    (breaks_utf8 text).mp (hlines (utf8 text) (List.mem_map_of_mem htext)).2
  rw [List.flatMap_map, (messages_texts_iff replaced texts).mpr hbreaks]

/-! ### A raw event -/

/-- The message of `handleIntegrationMessage` for a payload that is no JSON. -/
def rawEvent (err : String) (payload : List UInt8) : List UInt8 :=
  utf8 "as/integration: [ChirpStack Integration] Event raw error: ".toList ++ utf8 err.toList ++
    utf8 ", payload: ".toList ++ payload

/-- An open brace and a line feed come in on the topic of a device. -/
def brokenEvent : Entry where
  timestamp := utf8 "2026-01-01T00:00:00Z".toList
  level := utf8 "info".toList
  message := rawEvent "unexpected end of JSON input" [123, 10]
  data := some (.ok (utf8 "\x7b\"topic\":\"application/1/device/0000000000000001/event/up\"\x7d".toList))

/-- Its line does not arrive. -/
theorem brokenEvent_not_delivered : ¬ ∃ replaced, Delivered replaced [brokenEvent] := by
  rintro ⟨replaced, h⟩
  have hclean := clean_of_delivered h brokenEvent (List.mem_singleton_self _)
  refine hclean.2 10 ?_ (Or.inl rfl)
  simp [Entry.line, brokenEvent, rawEvent]

/-! ## A handler's lines -/

open LogStream Transition Buffers in
/-- **From the hook to the console.**  In a run that fires no line with a line break, what the browser
    has got of a handler, what the handler has still to replay and what waits in its channel is the
    window at its connection and what its channel had room for. -/
theorem console_delivery (replaced : List UInt8 → List Char) (labels : List LogStream.Label)
    {s : LogStream.State} (hrun : exec LogStream.step LogStream.init labels = some s)
    (hclean : ∀ line ∈ s.fired, ∀ c ∈ line.toList, ¬ IsBreak c) {c : ℕ} {h : LogStream.Handler}
    (hc : s.handlers[c]? = some h) :
    (messages replaced (h.written.flatMap fun line => frame (utf8 line.toList))).map String.ofList
        ++ h.stage.rest ++ h.chan.waiting
      = last 100 (s.fired.take h.start) ++ Queue.kept 50 h.chan.offered := by
  obtain ⟨hwritten, hsublist⟩ := (exec_invariant coherent_step coherent_init hrun).kept hc
  have hfired : ∀ line ∈ h.written, line ∈ s.fired := by
    intro line hline
    have hmem : line ∈ last 100 (s.fired.take h.start) ++ Queue.kept 50 h.chan.offered := by
      rw [← hwritten]
      exact List.mem_append_left _ (List.mem_append_left _ hline)
    rcases List.mem_append.mp hmem with hwindow | hkept
    · exact List.mem_of_mem_take (List.mem_of_mem_drop hwindow)
    · exact List.mem_of_mem_drop (hsublist.subset hkept)
  have hmessages : messages replaced (h.written.flatMap fun line => frame (utf8 line.toList)) =
      h.written.map String.toList := by
    rw [← List.flatMap_map String.toList fun text => frame (utf8 text)]
    refine (messages_texts_iff replaced _).mpr fun text htext => ?_
    obtain ⟨line, hline, rfl⟩ := List.mem_map.mp htext
    exact hclean line (hfired line hline)
  rw [hmessages, List.map_map, ← hwritten]
  simp

end ChirpStackSimulator.LogFraming
