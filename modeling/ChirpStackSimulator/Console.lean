/-
  The live console of the browser (`console.js`) at the live log of the server (`logs.go`).

  The browser has one `EventSource` at a time.  When it breaks, or a simulation is started, it opens
  another, and the server replays the newest hundred lines to that one.  What arrives is put at the end
  of the console, which shows the lines that match its filters and forgets the oldest beyond 300.

  1. **Lines** — what `appendConsoleLog` makes of a message, and which lines the filters show.
  2. **Steps** — those of the server (`LogStream.step`), of the connections and of the user, in any
     order.  `step_cases` says once what a step can do.
  3. **The window** (`console_window`) — the console shows, in every state, what its filters say now of
     the newest 300 lines since it was cleared.
  4. **Reconnections** (`console_gapless`) — the messages have no gap if no line met a full channel, and
     every connection came before more than a hundred lines had been missed.

  The map that pulses with the lines, the scroll position and the translations are left out.
-/
import ChirpStackSimulator.LogFraming
import ChirpStackSimulator.TablePages

namespace ChirpStackSimulator.Console

open Transition Buffers
open LogFraming (utf8 frame)
open EventStream (IsBreak)
open TablePages (contains)

/-! ## Lines -/

/-- What the console asks the browser for: the local time of a timestamp that `Date` can read, and two
    functions on strings. -/
structure Browser where
  localTime : List Char → Option (List Char)
  toLowerCase : String → String
  trim : String → String
  /-- What the decoder puts in the place of bytes that are no UTF-8. -/
  replaced : List UInt8 → List Char

/-- The two controls above the console. -/
structure Filter where
  /-- `all`, `local` or `remote`. -/
  source : String
  text : String
  deriving DecidableEq

structure Line where
  text : String
  source : String
  color : String
  shown : Bool
  deriving DecidableEq

/-- `line.match(/^\[([^\]]+)\]/)`. -/
def rawTimestamp (line : List Char) : Option (List Char) :=
  match line with
  | '[' :: rest =>
    let rawTs := rest.takeWhile (· ≠ ']')
    if rawTs ≠ [] ∧ rawTs.length < rest.length then some rawTs else none
  | _ => none

/-- `line.replace(old, new)`: the first occurrence. -/
def replaceFirst (old new : List Char) : List Char → List Char
  | [] => if old = [] then new else []
  | c :: rest =>
    if old <+: c :: rest then new ++ (c :: rest).drop old.length
    else c :: replaceFirst old new rest

section
variable (browser : Browser)

/-- The text of a line, with its timestamp in local time. -/
def displayed (message : String) : String :=
  match rawTimestamp message.toList with
  | none => message
  | some rawTs =>
    match browser.localTime rawTs with
    | none => message
    | some localTs => String.ofList (replaceFirst rawTs localTs message.toList)

def isRemote (lowerLine : String) : Bool :=
  contains lowerLine "as/integration" || contains lowerLine "[chirpstack integration]" ||
    contains lowerLine "as/debug"

def color (lowerLine : String) : String :=
  let has (words : List String) : Bool := words.any fun word => contains lowerLine word
  if isRemote lowerLine then "#22d3ee"
  else if has [" level=error", "error:", " level=fatal"] then "var(--red)"
  else if has [" level=warn", "warn:"] then "var(--yellow)"
  else if has ["received downlink", "downlink frame", "received downlink data", "otaa activated",
      "join accept"] then "var(--blue)"
  else if has ["send uplink", "uplink frame sent", "send otaa"] then "var(--accent)"
  else ""

/-- `matchesSource && matchesText`. -/
def Filter.shows (f : Filter) (source text : String) : Bool :=
  let q := browser.toLowerCase (browser.trim f.text)
  (f.source = "all" || source = f.source) && (q = "" || contains (browser.toLowerCase text) q)

/-- The element `appendConsoleLog` makes of a message. -/
def element (f : Filter) (message : String) : Line :=
  let text := displayed browser message
  let lowerLine := browser.toLowerCase text
  let source := if isRemote lowerLine then "remote" else "local"
  ⟨text, source, color lowerLine, f.shows browser source text⟩

/-! ## The state -/

/-- The children of the container: the placeholder, or lines, oldest first. -/
structure Container where
  placeholder : Bool
  lines : List Line
  filter : Filter
  deriving DecidableEq

/-- `appendConsoleLog`; the loop at its end leaves the newest 300. -/
def Container.append (c : Container) (message : String) : Container :=
  { c with
    placeholder := false
    lines := last 300 (c.lines ++ [element browser c.filter message]) }

/-- `applyConsoleFilters`, when a control has a new value. -/
def Container.setFilter (c : Container) (f : Filter) : Container :=
  { c with
    filter := f
    lines := c.lines.map fun el => { el with shown := f.shows browser el.source el.text } }

/-- The clear button; the placeholder comes back when no simulation is under way. -/
def Container.clear (c : Container) (currentStatus : String) : Container :=
  { c with
    placeholder := currentStatus ≠ "running" && currentStatus ≠ "starting"
    lines := [] }

end

/-- An `EventSource`: the handler of its request, once the server has it, and the messages it gave. -/
structure Source where
  handler : Option ℕ
  received : List String
  closed : Bool
  deriving DecidableEq

/-- The server, the sources in the order they were opened, and the console; for the history, every
    message appended, and how many of them when the console was last emptied. -/
structure State where
  server : LogStream.State
  sources : List Source
  /-- `logSource`, by its place. -/
  logSource : Option ℕ
  container : Container
  appended : List String
  cleared : ℕ

/-- The page when it has been loaded. -/
def init : State :=
  ⟨LogStream.init, [], none, ⟨true, [], ⟨"all", ""⟩⟩, [], 0⟩

inductive Label where
  /-- A step of the server, but for a new connection. -/
  | server (a : LogStream.Label)
  | connectLogStream
  /-- The request of the `i`-th source reaches the server. -/
  | accepted (i : ℕ)
  | message (i : ℕ)
  | error (i : ℕ)
  | setFilter (f : Filter)
  | clear (currentStatus : String)
  | logout

/-! ## Steps -/

/-- `logSource.close()`, if there is one. -/
def State.closeSource (s : State) : State :=
  match s.logSource with
  | none => s
  | some i => { s with sources := s.sources.modify i fun src => { src with closed := true } }

section
variable (browser : Browser)

/-- The data of the messages a handler has written so far. -/
def dataOf (h : LogStream.Handler) : List String :=
  (LogFraming.messages browser.replaced
    (h.written.flatMap fun line => frame (utf8 line.toList))).map String.ofList

/-- One step. -/
def step (s : State) : Label → Option State
  | .server a =>
    match a with
    | .connect => none
    | a => (LogStream.step s.server a).map fun server => { s with server }
  | .connectLogStream =>
    let s := s.closeSource
    some { s with
      sources := s.sources ++ [⟨none, [], false⟩]
      logSource := some s.sources.length }
  | .accepted i =>
    match s.sources[i]? with
    | some ⟨none, received, closed⟩ =>
      (LogStream.step s.server .connect).map fun server =>
        { s with
          server
          sources := s.sources.set i ⟨some s.server.handlers.length, received, closed⟩ }
    | _ => none
  | .message i =>
    match s.sources[i]? with
    | some ⟨some c, received, false⟩ =>
      match s.server.handlers[c]? with
      | some h =>
        match (dataOf browser h)[received.length]? with
        | some message =>
          some { s with
            sources := s.sources.set i ⟨some c, received ++ [message], false⟩
            container := s.container.append browser message
            appended := s.appended ++ [message] }
        | none => none
      | none => none
    | _ => none
  | .error i =>
    match s.sources[i]? with
    | some ⟨_, _, false⟩ => some { s.closeSource with logSource := none }
    | _ => none
  | .setFilter f => some { s with container := s.container.setFilter browser f }
  | .clear currentStatus =>
    some { s with
      container := s.container.clear currentStatus
      cleared := s.appended.length }
  | .logout =>
    some { s.closeSource with
      container := { s.container with placeholder := false, lines := [] }
      cleared := s.appended.length }

/-- What a step can do, with its guards. -/
inductive Steps (s : State) : Label → State → Prop where
  | server (a : LogStream.Label) (server : LogStream.State) (ha : a ≠ .connect)
      (hserver : LogStream.step s.server a = some server) :
    Steps s (.server a) { s with server }
  | connectLogStream :
    Steps s .connectLogStream
      { s.closeSource with
        sources := s.closeSource.sources ++ [⟨none, [], false⟩]
        logSource := some s.closeSource.sources.length }
  | accepted (i : ℕ) (src : Source) (server : LogStream.State) (hsrc : s.sources[i]? = some src)
      (hnone : src.handler = none) (hserver : LogStream.step s.server .connect = some server) :
    Steps s (.accepted i)
      { s with
        server
        sources := s.sources.set i { src with handler := some s.server.handlers.length } }
  | message (i : ℕ) (src : Source) (c : ℕ) (h : LogStream.Handler) (message : String)
      (hsrc : s.sources[i]? = some src) (hopen : src.closed = false)
      (hhandler : src.handler = some c) (hh : s.server.handlers[c]? = some h)
      (hmessage : (dataOf browser h)[src.received.length]? = some message) :
    Steps s (.message i)
      { s with
        sources := s.sources.set i { src with received := src.received ++ [message] }
        container := s.container.append browser message
        appended := s.appended ++ [message] }
  | error (i : ℕ) (src : Source) (hsrc : s.sources[i]? = some src) (hopen : src.closed = false) :
    Steps s (.error i) { s.closeSource with logSource := none }
  | setFilter (f : Filter) :
    Steps s (.setFilter f) { s with container := s.container.setFilter browser f }
  | clear (currentStatus : String) :
    Steps s (.clear currentStatus)
      { s with
        container := s.container.clear currentStatus
        cleared := s.appended.length }
  | logout :
    Steps s .logout
      { s.closeSource with
        container := { s.container with placeholder := false, lines := [] }
        cleared := s.appended.length }

/-- **What a step can do.** -/
theorem step_cases {s t : State} {a : Label} (h : step browser s a = some t) :
    Steps browser s a t := by
  cases a with
  | server a =>
    have hmap : a ≠ .connect ∧
        (LogStream.step s.server a).map (fun server => { s with server }) = some t := by
      cases a with
      | connect => cases h
      | _ => exact ⟨by simp, h⟩
    obtain ⟨server, hserver, rfl⟩ := Option.map_eq_some_iff.mp hmap.2
    exact .server a server hmap.1 hserver
  | connectLogStream =>
    obtain rfl := Option.some.inj h
    exact .connectLogStream
  | accepted i =>
    simp only [step] at h
    split at h
    · rename_i received closed hsrc
      obtain ⟨server, hserver, rfl⟩ := Option.map_eq_some_iff.mp h
      exact .accepted i ⟨none, received, closed⟩ server hsrc rfl hserver
    · cases h
  | message i =>
    simp only [step] at h
    split at h
    · rename_i c received hsrc
      split at h
      · rename_i hd hh
        split at h
        · rename_i message hmessage
          obtain rfl := Option.some.inj h
          exact .message i ⟨some c, received, false⟩ c hd message hsrc rfl rfl hh hmessage
        · cases h
      · cases h
    · cases h
  | error i =>
    simp only [step] at h
    split at h
    · rename_i handler received hsrc
      obtain rfl := Option.some.inj h
      exact .error i ⟨handler, received, false⟩ hsrc rfl
    · cases h
  | setFilter f =>
    obtain rfl := Option.some.inj h
    exact .setFilter f
  | clear currentStatus =>
    obtain rfl := Option.some.inj h
    exact .clear currentStatus
  | logout =>
    obtain rfl := Option.some.inj h
    exact .logout

end

section
variable {browser : Browser}

/-! ## Sources -/

/-- At most the newest source is open, and it is `logSource`; the messages appended are those of the
    sources, one source after another. -/
structure Fed (s : State) : Prop where
  current : ∀ (i : ℕ) (src : Source), s.sources[i]? = some src → src.closed = false →
    s.logSource = some i ∧ i + 1 = s.sources.length
  appended : s.appended = s.sources.flatMap Source.received

theorem fed_init : Fed init where
  current i src hsrc := by cases hsrc
  appended := rfl

theorem closeSource_appended (s : State) :
    s.closeSource.sources.flatMap Source.received = s.sources.flatMap Source.received := by
  unfold State.closeSource
  split
  · rfl
  · rename_i i _
    have hmap : (s.sources.modify i fun src => { src with closed := true }).map Source.received
        = s.sources.map Source.received := by
      apply List.ext_getElem?
      intro j
      rw [List.getElem?_map, List.getElem?_map, List.getElem?_modify]
      cases s.sources[j]? with
      | none => rfl
      | some src => by_cases hij : i = j <;> simp [hij]
    rw [List.flatMap_def, List.flatMap_def, hmap]

/-- After `logSource.close()` no source is open. -/
theorem Fed.closed {s : State} (hs : Fed s) {i : ℕ} {src : Source}
    (hsrc : s.closeSource.sources[i]? = some src) : src.closed = true := by
  cases hclosed : src.closed with
  | true => rfl
  | false =>
    unfold State.closeSource at hsrc
    split at hsrc
    · rename_i hnone
      have hcurrent := (hs.current i src hsrc hclosed).1
      rw [hnone] at hcurrent
      cases hcurrent
    · rename_i j hj
      rw [List.getElem?_modify] at hsrc
      obtain ⟨src₀, hsrc₀, rfl⟩ := Option.map_eq_some_iff.mp hsrc
      by_cases hji : j = i
      · rw [if_pos hji] at hclosed
        cases hclosed
      · rw [if_neg hji] at hclosed
        have hcurrent := (hs.current i src₀ hsrc₀ hclosed).1
        rw [hj] at hcurrent
        exact absurd (Option.some.inj hcurrent) hji

/-- Where nothing is open any more. -/
theorem Fed.of_closed {s t : State} (hs : Fed s) (hsources : t.sources = s.closeSource.sources)
    (happended : t.appended = s.appended) : Fed t where
  current i src hsrc hopen := by
    rw [hsources] at hsrc
    rw [hs.closed hsrc] at hopen
    cases hopen
  appended := by rw [hsources, closeSource_appended, happended, hs.appended]

/-- Where the sources stay. -/
theorem Fed.of_same {s t : State} (hs : Fed s) (hsources : t.sources = s.sources)
    (hlog : t.logSource = s.logSource) (happended : t.appended = s.appended) : Fed t where
  current i src hsrc hopen := by
    rw [hsources] at hsrc ⊢
    rw [hlog]
    exact hs.current i src hsrc hopen
  appended := by rw [hsources, happended, hs.appended]

theorem flatMap_received_set {sources : List Source} {i : ℕ} {src : Source} (src' : Source)
    (hsrc : sources[i]? = some src) (hsame : src'.received = src.received) :
    (sources.set i src').flatMap Source.received = sources.flatMap Source.received := by
  have hmap : (sources.set i src').map Source.received = sources.map Source.received := by
    obtain ⟨hlt, rfl⟩ := List.getElem?_eq_some_iff.mp hsrc
    have hlt' : i < (sources.map Source.received).length := by rwa [List.length_map]
    rw [List.map_set, hsame, ← @List.getElem_map _ _ Source.received sources i hlt']
    exact List.set_getElem_self hlt'
  rw [List.flatMap_def, List.flatMap_def, hmap]

theorem fed_step {s t : State} {a : Label} (hs : Fed s) (h : step browser s a = some t) : Fed t := by
  cases step_cases browser h with
  | server a server ha hserver => exact hs.of_same rfl rfl rfl
  | connectLogStream =>
    refine ⟨fun i src hsrc hopen => ?_, ?_⟩
    · rcases Objects.lookup_append.mp hsrc with hold | ⟨rfl, -⟩
      · rw [hs.closed hold] at hopen
        cases hopen
      · exact ⟨rfl, by rw [List.length_append, List.length_singleton]⟩
    · show s.closeSource.appended = _
      rw [List.flatMap_append, closeSource_appended, ← hs.appended]
      unfold State.closeSource
      split <;> simp
  | accepted i src server hsrc hnone hserver =>
    refine ⟨fun j src' hsrc' hopen => ?_, ?_⟩
    · rw [List.length_set]
      rcases Objects.of_lookup_set hsrc' with ⟨rfl, rfl⟩ | ⟨-, hsrc'⟩
      · exact hs.current j src hsrc hopen
      · exact hs.current j src' hsrc' hopen
    · exact hs.appended.trans (flatMap_received_set
        { src with handler := some s.server.handlers.length } hsrc rfl).symm
  | message i src c hd message hsrc hopen hhandler hh hmessage =>
    have hlast := (hs.current i src hsrc hopen).2
    refine ⟨fun j src' hsrc' hopen' => ?_, ?_⟩
    · rw [List.length_set]
      rcases Objects.of_lookup_set hsrc' with ⟨rfl, rfl⟩ | ⟨-, hsrc'⟩
      · exact hs.current j src hsrc hopen
      · exact hs.current j src' hsrc' hopen'
    · -- the source is the last one, so its message comes last
      obtain ⟨earlier, heq⟩ : ∃ earlier, s.sources = earlier ++ [src] ∧ i = earlier.length := by
        refine ⟨s.sources.dropLast, ?_, by rw [List.length_dropLast]; omega⟩
        have hne : s.sources ≠ [] := List.ne_nil_of_mem (List.mem_of_getElem? hsrc)
        have hget : s.sources.getLast hne = src := by
          rw [List.getLast_eq_getElem]
          obtain ⟨hlt, heq⟩ := List.getElem?_eq_some_iff.mp hsrc
          rw [← heq]
          congr 1
          omega
        rw [← hget, List.dropLast_append_getLast hne]
      rw [hs.appended, heq.1, heq.2, List.set_append_right _ _ (Nat.le_refl _), Nat.sub_self,
        List.set_cons_zero, List.flatMap_append, List.flatMap_append, List.append_assoc]
      simp
  | error i src hsrc hopen =>
    refine hs.of_closed rfl ?_
    unfold State.closeSource
    split <;> rfl
  | setFilter f => exact hs.of_same rfl rfl rfl
  | clear currentStatus => exact hs.of_same rfl rfl rfl
  | logout =>
    refine hs.of_closed rfl ?_
    unfold State.closeSource
    split <;> rfl

/-! ## The window -/

/-- The console shows what its filters say of the newest 300 lines since it was cleared. -/
structure Windowed (browser : Browser) (s : State) : Prop where
  cleared_le : s.cleared ≤ s.appended.length
  lines : s.container.lines =
    (last 300 (s.appended.drop s.cleared)).map (element browser s.container.filter)
  placeholder : s.container.placeholder = true → s.cleared = s.appended.length

theorem windowed_init : Windowed browser init where
  cleared_le := Nat.le_refl 0
  lines := rfl
  placeholder _ := rfl

/-- Where the console is emptied. -/
theorem Windowed.of_emptied {s t : State} (happended : t.appended = s.appended)
    (hcleared : t.cleared = s.appended.length) (hlines : t.container.lines = []) :
    Windowed browser t where
  cleared_le := by rw [hcleared, happended]
  lines := by
    rw [hlines, hcleared, happended, List.drop_length]
    rfl
  placeholder _ := by rw [hcleared, happended]

/-- Where the console stays. -/
theorem Windowed.of_same {s t : State} (hs : Windowed browser s) (happended : t.appended = s.appended)
    (hcleared : t.cleared = s.cleared) (hcontainer : t.container = s.container) :
    Windowed browser t where
  cleared_le := by
    rw [happended, hcleared]
    exact hs.cleared_le
  lines := by
    rw [happended, hcleared, hcontainer]
    exact hs.lines
  placeholder := by
    rw [happended, hcleared, hcontainer]
    exact hs.placeholder

theorem closeSource_history (s : State) : s.closeSource.appended = s.appended ∧
    s.closeSource.cleared = s.cleared ∧ s.closeSource.container = s.container := by
  unfold State.closeSource
  split
  · exact ⟨rfl, rfl, rfl⟩
  · exact ⟨rfl, rfl, rfl⟩

theorem windowed_step {s t : State} {a : Label} (hs : Windowed browser s)
    (h : step browser s a = some t) : Windowed browser t := by
  obtain ⟨happended, hcleared, hcontainer⟩ := closeSource_history s
  cases step_cases browser h with
  | server a server ha hserver => exact hs.of_same rfl rfl rfl
  | connectLogStream => exact hs.of_same happended hcleared hcontainer
  | accepted i src server hsrc hnone hserver => exact hs.of_same rfl rfl rfl
  | message i src c hd message hsrc hopen hhandler hh hmessage =>
    have hle := hs.cleared_le
    refine ⟨?_, ?_, fun hplaceholder => absurd hplaceholder (by simp [Container.append])⟩
    · rw [List.length_append]
      exact Nat.le_trans hle (Nat.le_add_right _ _)
    · have hnew : [element browser s.container.filter message]
          = [message].map (element browser s.container.filter) := rfl
      dsimp only [Container.append]
      rw [hnew, hs.lines, List.drop_append_of_le_length hle, ← last_map, last_last_append, ← last_map,
        List.map_append]
  | error i src hsrc hopen => exact hs.of_same happended hcleared hcontainer
  | setFilter f =>
    refine ⟨hs.cleared_le, ?_, hs.placeholder⟩
    show s.container.lines.map _ = _
    rw [hs.lines, List.map_map]
    rfl
  | clear currentStatus => exact .of_emptied rfl rfl rfl
  | logout => exact .of_emptied happended rfl rfl

/-- **The window of the console.**  In every state of every run, whatever the order of messages, new
    filters, clearings, failed connections and new ones: the console has the newest 300 of the messages
    since it was emptied, in order, each shown exactly if it matches the filters as they are now; and
    these messages are those of the sources, one source after another. -/
theorem console_window (labels : List Label) {s : State}
    (hrun : exec (step browser) init labels = some s) :
    s.container.lines =
        (last 300 (s.appended.drop s.cleared)).map (element browser s.container.filter) ∧
      s.appended = s.sources.flatMap Source.received ∧
      (s.container.placeholder = true → s.container.lines = []) := by
  have hwindow : Windowed browser s :=
    exec_invariant (fun _ _ _ hs h => windowed_step hs h) windowed_init hrun
  have hfed : Fed s := exec_invariant (fun _ _ _ hs h => fed_step hs h) fed_init hrun
  refine ⟨hwindow.lines, hfed.appended, fun hplaceholder => ?_⟩
  rw [hwindow.lines, hwindow.placeholder hplaceholder, List.drop_length]
  rfl

/-! ## What the server writes -/

/-- A step of the server leaves the lines fired and what a handler has written, and puts more behind
    them; a handler keeps where it began. -/
theorem server_kept {s t : LogStream.State} {a : LogStream.Label} (h : LogStream.step s a = some t) :
    (∃ more, t.fired = s.fired ++ more) ∧
      ∀ (c : ℕ) (hd : LogStream.Handler), s.handlers[c]? = some hd →
        ∃ hd', t.handlers[c]? = some hd' ∧ hd'.start = hd.start ∧ hd.written <+: hd'.written := by
  have hsame : ∀ (c : ℕ) (hd : LogStream.Handler), s.handlers[c]? = some hd →
      ∃ hd', s.handlers[c]? = some hd' ∧ hd'.start = hd.start ∧ hd.written <+: hd'.written :=
    fun c hd hc => ⟨hd, hc, rfl, List.prefix_refl _⟩
  -- one handler changes
  have hput : ∀ (k : ℕ) (g g' : LogStream.Handler), s.handlers[k]? = some g → g'.start = g.start →
      g.written <+: g'.written → ∀ (c : ℕ) (hd : LogStream.Handler), s.handlers[c]? = some hd →
        ∃ hd', (s.handlers.set k g')[c]? = some hd' ∧ hd'.start = hd.start ∧
          hd.written <+: hd'.written := by
    intro k g g' hk hstart hwritten c hd hc
    by_cases hck : c = k
    · subst hck
      obtain rfl := Option.some.inj (hk.symm.trans hc)
      exact ⟨g', Objects.set_self hk, hstart, hwritten⟩
    · exact ⟨hd, Objects.set_kept hck hc, rfl, List.prefix_refl _⟩
  have hnone : ∃ more, s.fired = s.fired ++ more := ⟨[], (List.append_nil _).symm⟩
  cases a with
  | fire entry =>
    simp only [LogStream.step, LogStream.fire] at h
    split at h
    · cases h
      exact ⟨⟨[entry.line], rfl⟩, hsame⟩
    · cases h
  | send c =>
    simp only [LogStream.step, LogStream.send] at h
    split at h
    · rename_i line pending g _ hg
      split at h
      · split at h
        · cases h
          exact ⟨hnone, hsame⟩
        · cases h
          exact ⟨hnone, hput c g _ hg rfl (List.prefix_refl _)⟩
      · cases h
    · cases h
  | fireUnlock =>
    simp only [LogStream.step, LogStream.fireUnlock] at h
    split at h
    · cases h
      exact ⟨hnone, hsame⟩
    · cases h
  | connect =>
    simp only [LogStream.step, LogStream.connect] at h
    split at h
    · cases h
      exact ⟨hnone, fun c hd hc => ⟨hd, Objects.append_kept hc _, rfl, List.prefix_refl _⟩⟩
    · cases h
  | replay =>
    simp only [LogStream.step, LogStream.replay] at h
    split at h
    · split at h
      · rename_i g hg
        split at h
        · rename_i line rest _
          cases h
          exact ⟨hnone, hput _ g _ hg rfl (List.prefix_append _ _)⟩
        · cases h
      · cases h
    · cases h
  | register =>
    simp only [LogStream.step, LogStream.register] at h
    split at h
    · split at h
      · rename_i g hg
        split at h
        · cases h
          exact ⟨hnone, hput _ g _ hg rfl (List.prefix_refl _)⟩
        · cases h
      · cases h
    · cases h
  | read c =>
    simp only [LogStream.step, LogStream.read] at h
    split at h
    · rename_i g hg
      split at h
      · split at h
        · rename_i line chan _
          cases h
          exact ⟨hnone, hput c g _ hg rfl (List.prefix_append _ _)⟩
        · cases h
      · cases h
    · cases h
  | done c =>
    simp only [LogStream.step, LogStream.done] at h
    split at h
    · rename_i g hg
      split at h
      · cases h
        exact ⟨hnone, hput c g _ hg rfl (List.prefix_refl _)⟩
      · cases h
    · cases h
  | unregister c =>
    simp only [LogStream.step, LogStream.unregister] at h
    split at h
    · rename_i g _ hg
      split at h
      · cases h
        exact ⟨hnone, hput c g _ hg rfl (List.prefix_refl _)⟩
      · cases h
    · cases h
  | close c =>
    simp only [LogStream.step, LogStream.close] at h
    split at h
    · rename_i g hg
      split at h
      · cases h
        exact ⟨hnone, hput c g _ hg rfl (List.prefix_refl _)⟩
      · cases h
    · cases h

/-- No line that was fired has a line break. -/
def Clean (s : LogStream.State) : Prop := ∀ line ∈ s.fired, ∀ c ∈ line.toList, ¬ IsBreak c

/-- Without line breaks the messages of a handler are the lines it has written. -/
theorem dataOf_eq {s : LogStream.State} (hs : LogStream.Coherent s) (hclean : Clean s) {c : ℕ}
    {h : LogStream.Handler} (hc : s.handlers[c]? = some h) : dataOf browser h = h.written := by
  obtain ⟨hwritten, hsublist⟩ := hs.kept hc
  have hfired : ∀ line ∈ h.written, line ∈ s.fired := by
    intro line hline
    have hmem : line ∈ last 100 (s.fired.take h.start) ++ Queue.kept 50 h.chan.offered := by
      rw [← hwritten]
      exact List.mem_append_left _ (List.mem_append_left _ hline)
    rcases List.mem_append.mp hmem with hwindow | hkept
    · exact List.mem_of_mem_take (List.mem_of_mem_drop hwindow)
    · exact List.mem_of_mem_drop (hsublist.subset hkept)
  have htexts : LogFraming.messages browser.replaced
      (h.written.flatMap fun line => frame (utf8 line.toList)) = h.written.map String.toList := by
    rw [← List.flatMap_map String.toList fun text => frame (utf8 text)]
    refine (LogFraming.messages_texts_iff browser.replaced _).mpr fun text htext => ?_
    obtain ⟨line, hline, rfl⟩ := List.mem_map.mp htext
    exact hclean line (hfired line hline)
  rw [dataOf, htexts, List.map_map]
  simp

/-- A source has got the first lines that its handler has written. -/
def Source.Reads (server : LogStream.State) (src : Source) : Prop :=
  match src.handler with
  | none => src.received = []
  | some c => ∃ h, server.handlers[c]? = some h ∧ src.received <+: h.written

structure Reading (s : State) : Prop where
  coherent : LogStream.Coherent s.server
  reads : Clean s.server → ∀ src ∈ s.sources, src.Reads s.server

theorem reading_init : Reading init where
  coherent := LogStream.coherent_init
  reads _ src hsrc := by cases hsrc

/-- A step of the server takes nothing away from a source. -/
theorem Source.Reads.server {s t : LogStream.State} {a : LogStream.Label} {src : Source}
    (hsrc : src.Reads s) (h : LogStream.step s a = some t) : src.Reads t := by
  unfold Source.Reads at hsrc ⊢
  split
  · rename_i hnone
    rw [hnone] at hsrc
    exact hsrc
  · rename_i c hc
    rw [hc] at hsrc
    obtain ⟨hd, hhd, hextends⟩ := hsrc
    obtain ⟨hd', hhd', -, hmore⟩ := (server_kept h).2 c hd hhd
    exact ⟨hd', hhd', hextends.trans hmore⟩

theorem Clean.before {s t : LogStream.State} {a : LogStream.Label} (ht : Clean t)
    (h : LogStream.step s a = some t) : Clean s := by
  obtain ⟨more, hfired⟩ := (server_kept h).1
  intro line hline
  exact ht line (hfired ▸ List.mem_append_left more hline)

/-- Closing `logSource` leaves what the sources have got. -/
theorem reads_closeSource {s : State} {server : LogStream.State}
    (h : ∀ src ∈ s.sources, src.Reads server) : ∀ src ∈ s.closeSource.sources, src.Reads server := by
  intro src hsrc
  unfold State.closeSource at hsrc
  split at hsrc
  · exact h src hsrc
  · obtain ⟨i, hi⟩ := List.mem_iff_getElem?.mp hsrc
    rw [List.getElem?_modify] at hi
    obtain ⟨src₀, hsrc₀, rfl⟩ := Option.map_eq_some_iff.mp hi
    have hreads := h src₀ (List.mem_of_getElem? hsrc₀)
    split
    · exact hreads
    · exact hreads

theorem closeSource_server (s : State) : s.closeSource.server = s.server := by
  unfold State.closeSource
  split <;> rfl

theorem reading_step {s t : State} {a : Label} (hs : Reading s) (h : step browser s a = some t) :
    Reading t := by
  cases step_cases browser h with
  | server a server ha hserver =>
    exact ⟨LogStream.coherent_step _ _ _ hs.coherent hserver, fun hclean src hsrc =>
      (hs.reads (hclean.before hserver) src hsrc).server hserver⟩
  | connectLogStream =>
    have hserver := closeSource_server s
    refine ⟨hserver ▸ hs.coherent, fun hclean src hsrc => ?_⟩
    have hclean' : Clean s.server := hserver ▸ hclean
    show src.Reads s.closeSource.server
    rw [hserver]
    rcases List.mem_append.mp hsrc with hold | hnew
    · exact reads_closeSource (hs.reads hclean') src hold
    · obtain rfl := List.mem_singleton.mp hnew
      exact rfl
  | accepted i src server hsrc hnone hserver =>
    refine ⟨LogStream.coherent_step _ _ _ hs.coherent hserver, fun hclean src' hsrc' => ?_⟩
    have hold := hs.reads (hclean.before hserver)
    rcases List.mem_or_eq_of_mem_set hsrc' with hsrc' | rfl
    · exact (hold src' hsrc').server hserver
    · -- the new handler is there, and nothing of it has been read
      have hreceived := hold src (List.mem_of_getElem? hsrc)
      rw [Source.Reads, hnone] at hreceived
      simp only [LogStream.step, LogStream.connect] at hserver
      split at hserver
      · cases hserver
        exact ⟨_, List.getElem?_concat_length, by rw [hreceived]⟩
      · cases hserver
  | message i src c hd message hsrc hopen hhandler hh hmessage =>
    refine ⟨hs.coherent, fun hclean src' hsrc' => ?_⟩
    have hold := hs.reads hclean
    rcases List.mem_or_eq_of_mem_set hsrc' with hsrc' | rfl
    · exact hold src' hsrc'
    · have hreads := hold src (List.mem_of_getElem? hsrc)
      rw [Source.Reads, hhandler] at hreads
      obtain ⟨hd', hhd', hextends⟩ := hreads
      obtain rfl := Option.some.inj (hh.symm.trans hhd')
      rw [dataOf_eq hs.coherent hclean hh] at hmessage
      unfold Source.Reads
      rw [hhandler]
      refine ⟨hd, hh, ?_⟩
      obtain ⟨rest, hrest⟩ := hextends
      rw [← hrest, List.getElem?_append_right (Nat.le_refl _), Nat.sub_self] at hmessage
      cases rest with
      | nil => cases hmessage
      | cons line rest =>
        obtain rfl := Option.some.inj hmessage
        exact ⟨rest, by rw [List.append_assoc]; exact hrest⟩
  | error i src hsrc hopen =>
    have hserver := closeSource_server s
    refine ⟨hserver ▸ hs.coherent, fun hclean src hsrc => ?_⟩
    show src.Reads s.closeSource.server
    rw [hserver]
    exact reads_closeSource (hs.reads (hserver ▸ hclean)) src hsrc
  | setFilter f => exact ⟨hs.coherent, hs.reads⟩
  | clear currentStatus => exact ⟨hs.coherent, hs.reads⟩
  | logout =>
    have hserver := closeSource_server s
    refine ⟨hserver ▸ hs.coherent, fun hclean src hsrc => ?_⟩
    show src.Reads s.closeSource.server
    rw [hserver]
    exact reads_closeSource (hs.reads (hserver ▸ hclean)) src hsrc

/-! ## Reconnections -/

/-- Where in the history of the server a source has begun and where it has got to. -/
def Source.span (server : LogStream.State) (src : Source) : Option (ℕ × ℕ) :=
  src.handler.bind fun c =>
    server.handlers[c]?.map fun h => (h.start - 100, h.start - 100 + src.received.length)

/-- The spans of the sources that have reached the server. -/
def State.spans (s : State) : List (ℕ × ℕ) := s.sources.filterMap (Source.span s.server)

/-- No line met a full channel. -/
def Lossless (server : LogStream.State) : Prop :=
  ∀ (c : ℕ) (h : LogStream.Handler), server.handlers[c]? = some h → ∀ offer ∈ h.chan.offered, offer.2 < 50

/-- Without a loss, what a handler writes is a stretch of the history. -/
theorem written_extends {s : LogStream.State} (hs : LogStream.Coherent s) (hlossless : Lossless s)
    {c : ℕ} {h : LogStream.Handler} (hc : s.handlers[c]? = some h) :
    h.written <+: s.fired.drop (h.start - 100) := by
  have hd := hs.delivered c h hc
  have hkept : Queue.kept 50 h.chan.offered = h.chan.offered.map Prod.fst := by
    rw [Queue.kept, List.filter_eq_self.mpr fun offer hoffer =>
      decide_eq_true (hlossless c h hc offer hoffer)]
  have hstart : h.start ≤ s.fired.length := Nat.le_trans hd.start_le hd.until_le
  have hwindow : last 100 (s.fired.take h.start) = stretch (h.start - 100) h.start s.fired := by
    rw [last, List.length_take, Nat.min_eq_left hstart]
    rfl
  have hoffered : h.chan.offered.map Prod.fst <+: s.fired.drop h.start := by
    refine ⟨s.lock.owed c ++ s.fired.drop (h.until s.fired.length), ?_⟩
    rw [← List.append_assoc, hd.offered, ← List.drop_append_of_le_length, List.take_append_drop]
    rw [List.length_take, Nat.min_eq_left hd.until_le]
    exact hd.start_le
  have hwhole : s.fired.drop (h.start - 100)
      = stretch (h.start - 100) h.start s.fired ++ s.fired.drop h.start := by
    rw [stretch, ← List.drop_append_of_le_length, List.take_append_drop]
    rw [List.length_take, Nat.min_eq_left hstart]
    omega
  have hall := (hs.kept hc).1
  rw [hkept, hwindow] at hall
  obtain ⟨more, hmore⟩ := hoffered
  refine ⟨h.stage.rest ++ h.chan.waiting ++ more, ?_⟩
  rw [hwhole, ← hmore, ← List.append_assoc (stretch _ _ _), ← hall]
  simp only [List.append_assoc]

/-- What a source has got is its stretch. -/
theorem Source.Reads.received {s : LogStream.State} (hs : LogStream.Coherent s)
    (hlossless : Lossless s) {src : Source} (hreads : src.Reads s) :
    src.received = ((src.span s).toList.flatMap fun span => stretch span.1 span.2 s.fired) := by
  unfold Source.Reads at hreads
  unfold Source.span
  cases hhandler : src.handler with
  | none =>
    rw [hhandler] at hreads
    exact hreads
  | some c =>
    rw [hhandler] at hreads
    obtain ⟨h, hc, hextends⟩ := hreads
    obtain ⟨more, hmore⟩ := hextends.trans (written_extends hs hlossless hc)
    rw [Option.bind_some, hc, Option.map_some, Option.toList_some, List.flatMap_singleton]
    have htake : (s.fired.drop (h.start - 100)).take src.received.length = src.received := by
      rw [← hmore, List.take_left]
    rw [stretch, ← List.take_drop, htake]

/-- **Reconnections leave no gap.**  In a run that fires no line with a line break and in which no line
    met a full channel: if every source began no more than a hundred lines after the furthest line
    got before, the console was given, in order, every line between the first and the furthest. -/
theorem console_gapless (labels : List Label) {s : State}
    (hrun : exec (step browser) init labels = some s) (hclean : Clean s.server)
    (hlossless : Lossless s.server) {lo hi : ℕ} {spans : List (ℕ × ℕ)}
    (hspans : s.spans = (lo, hi) :: spans) (hbridged : Bridged (max lo hi) spans) :
    (stretch lo (furthest (max lo hi) spans) s.server.fired).Sublist s.appended := by
  have hreading : Reading s := exec_invariant (fun _ _ _ hs h => reading_step hs h) reading_init hrun
  have hfed : Fed s := exec_invariant (fun _ _ _ hs h => fed_step hs h) fed_init hrun
  have hall : s.appended = readAll s.server.fired s.spans := by
    rw [hfed.appended, readAll, State.spans, List.filterMap_eq_flatMap_toList, List.flatMap_assoc,
      List.flatMap_def, List.flatMap_def]
    congr 1
    refine List.map_congr_left fun src hsrc => ?_
    exact (hreading.reads hclean src hsrc).received hreading.coherent hlossless
  rw [hall, hspans]
  exact stretch_sublist_of_bridged s.server.fired hbridged

/-! ### A run -/

theorem step_message {s : State} {i c : ℕ} {received : List String} {h : LogStream.Handler}
    {message : String} (hsrc : s.sources[i]? = some ⟨some c, received, false⟩)
    (hh : s.server.handlers[c]? = some h)
    (hmessage : (dataOf browser h)[received.length]? = some message) :
    step browser s (.message i) = some { s with
      sources := s.sources.set i ⟨some c, received ++ [message], false⟩
      container := s.container.append browser message
      appended := s.appended ++ [message] } := by
  simp only [step, hsrc, hh, hmessage]

end

/-- A browser that changes no text. -/
def plainBrowser : Browser := ⟨fun _ => none, id, id, fun _ => []⟩

/-- A line that was fired before the page was loaded, up to its message. -/
def oneLine : List Label :=
  [.server (.fire (LogStream.plainEntry "a")), .server .fireUnlock, .connectLogStream, .accepted 0,
    .server .replay, .server .register]

def beforeMessage : State := (exec (step plainBrowser) init oneLine).getD init

def afterMessage : State :=
  { beforeMessage with
    sources := [⟨some 0, [(LogStream.plainEntry "a").line], false⟩]
    container := beforeMessage.container.append plainBrowser (LogStream.plainEntry "a").line
    appended := [(LogStream.plainEntry "a").line] }

theorem plainEntry_clean : ∀ c ∈ (LogStream.plainEntry "a").line.toList, ¬ IsBreak c := by
  have hall : ((LogStream.plainEntry "a").line.toList.all fun c => decide (¬ IsBreak c)) = true := by
    decide
  exact fun c hc => of_decide_eq_true (List.all_eq_true.mp hall c hc)

theorem exec_oneLine :
    exec (step plainBrowser) init (oneLine ++ [.message 0]) = some afterMessage := by
  have hclean : ∀ text ∈ [(LogStream.plainEntry "a").line.toList], ∀ c ∈ text, ¬ IsBreak c := by
    intro text htext
    obtain rfl := List.mem_singleton.mp htext
    exact plainEntry_clean
  have hdata : ∀ h : LogStream.Handler, h.written = [(LogStream.plainEntry "a").line] →
      (dataOf plainBrowser h)[0]? = some (LogStream.plainEntry "a").line := by
    intro h hwritten
    have htexts := (LogFraming.messages_texts_iff plainBrowser.replaced _).mpr hclean
    rw [dataOf, hwritten]
    exact congrArg (fun texts => (texts.map String.ofList)[0]?) htexts
  have hmessage : step plainBrowser beforeMessage (.message 0) = some afterMessage :=
    @step_message plainBrowser beforeMessage 0 0 [] _ (LogStream.plainEntry "a").line rfl rfl
      (hdata _ rfl)
  iterate 6 refine exec_cons_eq_some.mpr ⟨_, rfl, ?_⟩
  exact exec_cons_eq_some.mpr ⟨_, hmessage, rfl⟩

theorem console_window_oneLine :
    ∃ s, exec (step plainBrowser) init (oneLine ++ [.message 0]) = some s ∧
      s.container.lines =
        (last 300 (s.appended.drop s.cleared)).map (element plainBrowser s.container.filter) :=
  ⟨afterMessage, exec_oneLine, (console_window (oneLine ++ [.message 0]) exec_oneLine).1⟩

theorem console_gapless_oneLine :
    ∃ s, exec (step plainBrowser) init (oneLine ++ [.message 0]) = some s ∧
      (stretch 0 1 s.server.fired).Sublist s.appended :=
  have hclean : Clean afterMessage.server := by
    intro line hline
    obtain rfl : line = (LogStream.plainEntry "a").line := List.mem_singleton.mp hline
    exact plainEntry_clean
  have hlossless : Lossless afterMessage.server := by
    intro c h hh
    cases c with
    | zero =>
      obtain rfl := Option.some.inj hh
      exact fun offer hoffer => absurd hoffer List.not_mem_nil
    | succ c => cases hh
  ⟨afterMessage, exec_oneLine, @console_gapless plainBrowser (oneLine ++ [.message 0]) afterMessage
    exec_oneLine hclean hlossless 0 1 [] rfl trivial⟩

end ChirpStackSimulator.Console
