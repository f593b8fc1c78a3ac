/-
  The live log: `LogHook` and `handleLogStream` of `internal/api/logs.go`.

  Every log entry is fired into the hook, which keeps the newest hundred lines and hands each line to
  the clients that are connected; a client is a request handler with a channel of fifty slots, and a
  line that finds its channel full is dropped for that client.

  1. **Steps** - a step is what one goroutine does between two points where another may come in.
     `Fire` takes the lock, appends the line and then sends it to one client after another, in any
     order, while the handlers go on reading; a new handler replays the buffer line by line under
     the lock and then registers; a handler that leaves unregisters under the lock and closes its
     channel after it.

  2. **History** - the state also keeps every line fired, and for each handler how many had been
     fired when it connected and when it unregistered.  No step reads them.

  3. **Delivery** - over any run the buffer is the window of what was fired, and what a client was
     sent is the window at its connection followed by the lines fired since, only those left out
     whose send found the channel full (`log_stream_delivery`).
-/
import ChirpStackSimulator.Lib.Buffers
import ChirpStackSimulator.Lib.Objects
import ChirpStackSimulator.Lib.Run
import Mathlib.Data.List.Nodup

namespace ChirpStackSimulator

open Transition Buffers

namespace LogStream

/-! ## Lines -/

/-- What `Fire` reads of a log entry: the time in RFC 3339, the level's name, the message, and the
    fields as JSON when there are any, or nothing when they cannot be marshalled. -/
structure LogEntry where
  timestamp : String
  level : String
  message : String
  /-- `none` for an entry without fields. -/
  data : Option (Except String String)
  deriving Repr

/-- The line of an entry: `[time] level: message fields`. -/
def LogEntry.line (entry : LogEntry) : String :=
  let fields := match entry.data with
    | some (.ok fieldsData) => " " ++ fieldsData
    | _ => ""
  "[" ++ entry.timestamp ++ "] " ++ entry.level ++ ": " ++ entry.message ++ fields

/-- `maxSize` of the hook. -/
def maxSize : ℕ := 100

/-- The slots of `clientChan`. -/
def chanSize : ℕ := 50

/-! ## The state -/

/-- Where a handler is. -/
inductive Stage
  /-- Holding the lock, with the lines of the buffer it has still to write. -/
  | replaying (rest : List String)
  /-- In the loop. -/
  | streaming
  /-- Out of the loop, before the deferred function has the lock. -/
  | leaving
  /-- Out of the map, its channel still open. -/
  | unregistered
  /-- Its channel is closed. -/
  | closed
  deriving DecidableEq, Repr

/-- The stages in which the handler's channel is in the map. -/
def Stage.Registered : Stage → Prop
  | .streaming | .leaving => True
  | .replaying _ | .unregistered | .closed => False

/-- A request handler: its stage, its channel and what it has written to the response, and, of the
    history, how many lines had been fired when it connected and when it unregistered. -/
structure Handler where
  stage : Stage
  chan : Queue String
  written : List String
  start : ℕ
  stop : ℕ
  deriving DecidableEq, Repr

/-- Who holds `h.mu`. -/
inductive Lock
  | free
  /-- A `Fire` with the clients it has still to send the line to. -/
  | firing (line : String) (pending : List ℕ)
  /-- A handler that replays the buffer. -/
  | connecting (c : ℕ)
  deriving DecidableEq, Repr

/-- The hook, the handlers by the order in which they connected, and every line fired. -/
structure State where
  lock : Lock
  buffer : List String
  clients : List ℕ
  handlers : List Handler
  /-- A send on a closed channel panics. -/
  panicked : Bool
  fired : List String
  deriving DecidableEq, Repr

/-- The hook as `InitLogHook` makes it. -/
def init : State := ⟨.free, [], [], [], false, []⟩

/-- What the goroutines do. -/
inductive Label
  | fire (entry : LogEntry)
  | send (c : ℕ)
  | fireUnlock
  | connect
  | replay
  | register
  | read (c : ℕ)
  | done (c : ℕ)
  | unregister (c : ℕ)
  | close (c : ℕ)
  deriving Repr

/-! ## The steps -/

/-- Put the handler back. -/
def State.put (s : State) (c : ℕ) (h : Handler) : State :=
  { s with handlers := s.handlers.set c h }

/-- `Fire` has the lock: make room in the buffer and append; the clients of the map are next. -/
def fire (s : State) (entry : LogEntry) : Option State :=
  match s.lock with
  | .free =>
    let buffer := if maxSize ≤ s.buffer.length then s.buffer.tail else s.buffer
    some { s with
      buffer := buffer ++ [entry.line]
      lock := .firing entry.line s.clients
      fired := s.fired ++ [entry.line] }
  | _ => none

/-- `Fire` comes to one client of the map: send, or drop the line when the channel is full. -/
def send (s : State) (c : ℕ) : Option State :=
  match s.lock, s.handlers[c]? with
  | .firing line pending, some h =>
    if c ∈ pending then
      let s := { s with lock := .firing line (pending.erase c) }
      if h.stage = .closed then some { s with panicked := true }
      else some (s.put c { h with chan := h.chan.offer chanSize line })
    else none
  | _, _ => none

/-- `Fire` is through with the map. -/
def fireUnlock (s : State) : Option State :=
  match s.lock with
  | .firing _ [] => some { s with lock := .free }
  | _ => none

/-- A new request: make the channel and take the lock. -/
def connect (s : State) : Option State :=
  match s.lock with
  | .free =>
    some { s with
      lock := .connecting s.handlers.length
      handlers := s.handlers ++ [⟨.replaying s.buffer, .empty, [], s.fired.length, 0⟩] }
  | _ => none

/-- The connecting handler writes the next line of the buffer. -/
def replay (s : State) : Option State :=
  match s.lock with
  | .connecting c =>
    match s.handlers[c]? with
    | some h =>
      match h.stage with
      | .replaying (line :: rest) =>
        some (s.put c { h with stage := .replaying rest, written := h.written ++ [line] })
      | _ => none
    | none => none
  | _ => none

/-- The connecting handler has written the buffer: put its channel in the map and unlock. -/
def register (s : State) : Option State :=
  match s.lock with
  | .connecting c =>
    match s.handlers[c]? with
    | some h =>
      match h.stage with
      | .replaying [] =>
        some ({ s with lock := .free, clients := s.clients ++ [c] }.put c
          { h with stage := .streaming })
      | _ => none
    | none => none
  | _ => none

/-- A handler in its loop receives a line and writes it. -/
def read (s : State) (c : ℕ) : Option State :=
  match s.handlers[c]? with
  | some h =>
    if h.stage = .streaming then
      match h.chan.take with
      | some (line, chan) => some (s.put c { h with chan, written := h.written ++ [line] })
      | none => none
    else none
  | none => none

/-- The request of a handler in its loop is done: the handler leaves, whatever waits. -/
def done (s : State) (c : ℕ) : Option State :=
  match s.handlers[c]? with
  | some h => if h.stage = .streaming then some (s.put c { h with stage := .leaving }) else none
  | none => none

/-- The deferred function takes the lock, deletes the channel from the map and unlocks. -/
def unregister (s : State) (c : ℕ) : Option State :=
  match s.lock, s.handlers[c]? with
  | .free, some h =>
    if h.stage = .leaving then
      some ({ s with clients := s.clients.erase c }.put c
        { h with stage := .unregistered, stop := s.fired.length })
    else none
  | _, _ => none

/-- The deferred function closes the channel. -/
def close (s : State) (c : ℕ) : Option State :=
  match s.handlers[c]? with
  | some h =>
    if h.stage = .unregistered then some (s.put c { h with stage := .closed }) else none
  | none => none

/-- One step. -/
def step (s : State) : Label → Option State
  | .fire entry => fire s entry
  | .send c => send s c
  | .fireUnlock => fireUnlock s
  | .connect => connect s
  | .replay => replay s
  | .register => register s
  | .read c => read s c
  | .done c => done s c
  | .unregister c => unregister s c
  | .close c => close s c

/-! ## What holds of every handler -/

/-- What the `Fire` that holds the lock has still to send to the handler. -/
def Lock.owed : Lock → ℕ → List String
  | .firing line pending, c => if c ∈ pending then [line] else []
  | .free, _ => []
  | .connecting _, _ => []

/-- What the handler has still to write of the buffer. -/
def Stage.rest : Stage → List String
  | .replaying rest => rest
  | .streaming | .leaving | .unregistered | .closed => []

/-- How many lines had been fired when the handler's channel was last in the map: all `n` of them
    for a handler that is not out of it. -/
def Handler.until (h : Handler) (n : ℕ) : ℕ :=
  match h.stage with
  | .replaying _ | .streaming | .leaving => n
  | .unregistered | .closed => h.stop

/-- The delivery to one handler: it writes the window at its connection and then what its channel
    gave it, and its channel was offered, one after another, the lines fired between its connection
    and its unregistration, the one that is owed still to come. -/
structure Handler.Delivered (fired owed : List String) (h : Handler) : Prop where
  start_le : h.start ≤ h.until fired.length
  until_le : h.until fired.length ≤ fired.length
  lawful : h.chan.Lawful chanSize
  written : h.written ++ h.stage.rest = last maxSize (fired.take h.start) ++ h.chan.taken
  offered : h.chan.offered.map Prod.fst ++ owed = (fired.take (h.until fired.length)).drop h.start

/-- The delivery does not depend on where the handler is, as long as its channel is in the map or out
    of it as before and what it writes and has still to write is the same together. -/
theorem Handler.Delivered.congr {fired owed : List String} {h h' : Handler}
    (hd : h.Delivered fired owed) (hchan : h'.chan = h.chan) (hstart : h'.start = h.start)
    (huntil : h'.until fired.length = h.until fired.length)
    (hwritten : h'.written ++ h'.stage.rest = h.written ++ h.stage.rest) :
    h'.Delivered fired owed := by
  refine ⟨?_, ?_, ?_, ?_, ?_⟩
  · rw [hstart, huntil]
    exact hd.start_le
  · rw [huntil]
    exact hd.until_le
  · rw [hchan]
    exact hd.lawful
  · rw [hwritten, hstart, hchan]
    exact hd.written
  · rw [hchan, huntil, hstart]
    exact hd.offered

theorem Handler.until_of_registered (h : Handler) (hstage : h.stage.Registered) (n : ℕ) :
    h.until n = n := by
  unfold Handler.until
  cases hs : h.stage with
  | replaying rest => rfl
  | streaming => rfl
  | leaving => rfl
  | unregistered =>
    rw [hs] at hstage
    exact absurd hstage id
  | closed =>
    rw [hs] at hstage
    exact absurd hstage id

theorem Handler.until_of_out (h : Handler) (hstage : ¬ h.stage.Registered)
    (hnot : ∀ rest, h.stage ≠ .replaying rest) (n : ℕ) : h.until n = h.stop := by
  unfold Handler.until
  cases hs : h.stage with
  | replaying rest => exact absurd hs (hnot rest)
  | streaming =>
    rw [hs] at hstage
    exact absurd trivial hstage
  | leaving =>
    rw [hs] at hstage
    exact absurd trivial hstage
  | unregistered => rfl
  | closed => rfl

/-- What holds between two steps. -/
structure Coherent (s : State) : Prop where
  buffer : s.buffer = last maxSize s.fired
  calm : s.panicked = false
  nodup : s.clients.Nodup
  clients : ∀ c, c ∈ s.clients ↔ ∃ h, s.handlers[c]? = some h ∧ h.stage.Registered
  pending : ∀ line pending, s.lock = .firing line pending →
    pending.Nodup ∧ ∀ c ∈ pending, c ∈ s.clients
  connecting : ∀ c h rest, s.handlers[c]? = some h → h.stage = .replaying rest →
    s.lock = .connecting c
  delivered : ∀ c (h : Handler), s.handlers[c]? = some h → h.Delivered s.fired (s.lock.owed c)

theorem coherent_init : Coherent init where
  buffer := rfl
  calm := rfl
  nodup := List.nodup_nil
  clients c := by simp [init]
  pending line pending h := by cases h
  connecting c h rest hc := by simp [init] at hc
  delivered c h hc := by simp [init] at hc

theorem Coherent.mem_clients {s : State} (hI : Coherent s) {c : ℕ} {h : Handler}
    (hc : s.handlers[c]? = some h) : c ∈ s.clients ↔ h.stage.Registered := by
  refine (hI.clients c).trans ⟨?_, fun hstage => ⟨h, hc, hstage⟩⟩
  rintro ⟨g, hg, hstage⟩
  rw [hc] at hg
  cases hg
  exact hstage

/-! ### One handler changes -/

/-- A step that changes one handler, and of the rest at most whether its channel is in the map, who
    holds the lock and what is owed to it, keeps the invariant if it keeps the delivery to that
    handler. -/
theorem Coherent.update {s t : State} (hI : Coherent s) {c : ℕ} {h h' : Handler}
    (hc : s.handlers[c]? = some h) (hhandlers : t.handlers = s.handlers.set c h')
    (hbuffer : t.buffer = s.buffer) (hfired : t.fired = s.fired) (hcalm : t.panicked = false)
    (hnodup : t.clients.Nodup) (hclients : ∀ d, d ≠ c → (d ∈ t.clients ↔ d ∈ s.clients))
    (hmem : c ∈ t.clients ↔ h'.stage.Registered)
    (howed : ∀ d, d ≠ c → t.lock.owed d = s.lock.owed d)
    (hpending : ∀ line pending, t.lock = .firing line pending →
      pending.Nodup ∧ ∀ d ∈ pending, d ∈ t.clients)
    (hreplaying : ∀ rest, h'.stage = .replaying rest → t.lock = .connecting c)
    (hconnecting : ∀ d, d ≠ c → s.lock = .connecting d → t.lock = .connecting d)
    (hdelivered : h'.Delivered t.fired (t.lock.owed c)) : Coherent t := by
  have hself : t.handlers[c]? = some h' := by
    rw [hhandlers]
    exact Objects.set_self hc
  have hother : ∀ d, d ≠ c → t.handlers[d]? = s.handlers[d]? := by
    intro d hd
    rw [hhandlers, List.getElem?_set_ne (Ne.symm hd)]
  refine ⟨?_, hcalm, hnodup, ?_, hpending, ?_, ?_⟩
  · rw [hbuffer, hfired, hI.buffer]
  · intro d
    by_cases hd : d = c
    · rw [hd, hself, hmem]
      simp
    · rw [hother d hd, hclients d hd, hI.clients d]
  · intro d g rest hg hstage
    by_cases hd : d = c
    · rw [hd, hself] at hg
      cases hg
      rw [hd]
      exact hreplaying rest hstage
    · rw [hother d hd] at hg
      exact hconnecting d hd (hI.connecting d g rest hg hstage)
  · intro d g hg
    by_cases hd : d = c
    · rw [hd, hself] at hg
      cases hg
      rw [hd]
      exact hdelivered
    · rw [hother d hd] at hg
      rw [hfired, howed d hd]
      exact hI.delivered d g hg

/-- A step that changes nothing but one handler, which stays in the map or out of it. -/
theorem Coherent.put {s : State} (hI : Coherent s) {c : ℕ} {h h' : Handler} (hc : s.handlers[c]? = some h)
    (hregistered : h'.stage.Registered ↔ h.stage.Registered)
    (hreplaying : ∀ rest, h'.stage = .replaying rest → s.lock = .connecting c)
    (hdelivered : h'.Delivered s.fired (s.lock.owed c)) : Coherent (s.put c h') := by
  refine hI.update hc rfl rfl rfl hI.calm hI.nodup (fun _ _ => Iff.rfl) ?_ (fun _ _ => rfl)
    hI.pending hreplaying (fun _ _ => id) hdelivered
  exact (hI.mem_clients hc).trans hregistered.symm

/-! ### Handlers in their loop -/

theorem coherent_read {s t : State} {c : ℕ} (hI : Coherent s) (h : read s c = some t) :
    Coherent t := by
  unfold read at h
  split at h
  · next g hc =>
    split at h
    · next hstage =>
      split at h
      · next line chan htake =>
        cases h
        obtain ⟨-, htaken, hoffered⟩ := Queue.take_eq_some htake
        have hd := hI.delivered c g hc
        refine hI.put hc Iff.rfl (hI.connecting c g · hc) ⟨hd.start_le, hd.until_le, ?_, ?_, ?_⟩
        · exact hd.lawful.take htake
        · have hwritten := hd.written
          simp only [hstage, Stage.rest, List.append_nil] at hwritten ⊢
          rw [htaken, hwritten, List.append_assoc]
        · rw [hoffered]
          exact hd.offered
      · cases h
    · cases h
  · cases h

theorem coherent_done {s t : State} {c : ℕ} (hI : Coherent s) (h : done s c = some t) :
    Coherent t := by
  unfold done at h
  split at h
  · next g hc =>
    split at h
    · next hstage =>
      cases h
      have hd := hI.delivered c g hc
      refine hI.put hc ?_ (fun rest hrest => nomatch hrest) (hd.congr rfl rfl ?_ ?_)
      · rw [hstage]
        exact Iff.rfl
      · rw [Handler.until, Handler.until, hstage]
      · rw [hstage]
        rfl
    · cases h
  · cases h

theorem coherent_close {s t : State} {c : ℕ} (hI : Coherent s) (h : close s c = some t) :
    Coherent t := by
  unfold close at h
  split at h
  · next g hc =>
    split at h
    · next hstage =>
      cases h
      have hd := hI.delivered c g hc
      refine hI.put hc ?_ (fun rest hrest => nomatch hrest) (hd.congr rfl rfl ?_ ?_)
      · rw [hstage]
        exact Iff.rfl
      · rw [Handler.until, Handler.until, hstage]
      · rw [hstage]
        rfl
    · cases h
  · cases h

/-! ### Connecting -/

theorem coherent_connect {s t : State} (hI : Coherent s) (h : connect s = some t) :
    Coherent t := by
  unfold connect at h
  split at h
  · next hlock =>
    cases h
    have howed : ∀ c, s.lock.owed c = [] := by
      intro c
      rw [hlock]
      rfl
    refine ⟨hI.buffer, hI.calm, hI.nodup, ?_, ?_, ?_, ?_⟩
    · intro c
      refine (hI.clients c).trans ⟨?_, ?_⟩
      · rintro ⟨g, hg, hstage⟩
        exact ⟨g, Objects.append_kept hg _, hstage⟩
      · rintro ⟨g, hg, hstage⟩
        rcases Objects.lookup_append.mp hg with hg | ⟨-, rfl⟩
        · exact ⟨g, hg, hstage⟩
        · exact absurd hstage id
    · intro line pending hfiring
      cases hfiring
    · intro c g rest hg hstage
      rcases Objects.lookup_append.mp hg with hg | ⟨rfl, -⟩
      · have hconnecting := hI.connecting c g rest hg hstage
        rw [hlock] at hconnecting
        cases hconnecting
      · rfl
    · intro c g hg
      rcases Objects.lookup_append.mp hg with hg | ⟨-, rfl⟩
      · have hd := hI.delivered c g hg
        rw [howed] at hd
        exact hd
      · refine ⟨Nat.le_refl _, Nat.le_refl _, Queue.lawful_empty chanSize, ?_, ?_⟩
        · show s.buffer = last maxSize (s.fired.take s.fired.length) ++ []
          rw [List.take_length, List.append_nil]
          exact hI.buffer
        · show [] = (s.fired.take s.fired.length).drop s.fired.length
          rw [List.take_length, List.drop_length]
  · cases h

theorem coherent_replay {s t : State} (hI : Coherent s) (h : replay s = some t) :
    Coherent t := by
  unfold replay at h
  split at h
  · next c hlock =>
    split at h
    · next g hc =>
      split at h
      · next line rest hstage =>
        cases h
        have hd := hI.delivered c g hc
        refine hI.put hc ?_ (fun _ _ => hlock) (hd.congr rfl rfl ?_ ?_)
        · rw [hstage]
          exact Iff.rfl
        · rw [Handler.until, Handler.until, hstage]
        · show (g.written ++ [line]) ++ rest = g.written ++ g.stage.rest
          rw [hstage, List.append_assoc]
          rfl
      · cases h
    · cases h
  · cases h

theorem coherent_register {s t : State} (hI : Coherent s) (h : register s = some t) :
    Coherent t := by
  unfold register at h
  split at h
  · next c hlock =>
    split at h
    · next g hc =>
      split at h
      · next hstage =>
        cases h
        have hd := hI.delivered c g hc
        have hout : c ∉ s.clients := by
          rw [hI.mem_clients hc, hstage]
          exact id
        have howed : ∀ d, s.lock.owed d = [] := by
          intro d
          rw [hlock]
          rfl
        rw [howed] at hd
        refine hI.update hc rfl rfl rfl hI.calm ?_ ?_ ?_ ?_ ?_ (fun rest hrest => nomatch hrest) ?_
          (hd.congr rfl rfl ?_ ?_)
        · exact List.nodup_append.mpr
            ⟨hI.nodup, List.nodup_singleton c, fun a ha b hb hab =>
              hout (List.mem_singleton.mp hb ▸ hab ▸ ha)⟩
        · intro d hd'
          show d ∈ s.clients ++ [c] ↔ d ∈ s.clients
          simp [hd']
        · show c ∈ s.clients ++ [c] ↔ True
          simp
        · intro d _
          rw [howed]
          rfl
        · intro line pending hfiring
          cases hfiring
        · intro d hd' hconnecting
          rw [hlock] at hconnecting
          cases hconnecting
          exact absurd rfl hd'
        · rw [Handler.until, Handler.until, hstage]
        · rw [hstage]
          rfl
      · cases h
    · cases h
  · cases h

/-! ### Disconnecting -/

theorem coherent_unregister {s t : State} {c : ℕ} (hI : Coherent s)
    (h : unregister s c = some t) : Coherent t := by
  unfold unregister at h
  split at h
  · next g hlock hc =>
    split at h
    · next hstage =>
      cases h
      have hd := hI.delivered c g hc
      have huntil : g.until s.fired.length = s.fired.length := by rw [Handler.until, hstage]
      refine hI.update hc rfl rfl rfl hI.calm (hI.nodup.erase c) ?_ ?_ (fun _ _ => rfl) ?_
        (fun rest hrest => nomatch hrest) (fun _ _ => id) (hd.congr rfl rfl huntil.symm ?_)
      · intro d hdc
        exact List.mem_erase_of_ne hdc
      · show c ∈ s.clients.erase c ↔ False
        simp [hI.nodup.mem_erase_iff]
      · intro line pending hfiring
        cases hlock.symm.trans hfiring
      · rw [hstage]
        rfl
    · cases h
  · cases h

/-! ### Firing -/

/-- A line fired is owed to every handler in the map and to no other. -/
theorem Handler.Delivered.fire {fired : List String} {h : Handler} {line : String}
    {clients : List ℕ} {c : ℕ} (hd : h.Delivered fired [])
    (hregistered : c ∈ clients ↔ h.stage.Registered)
    (hnot : ∀ rest, h.stage ≠ .replaying rest) :
    h.Delivered (fired ++ [line]) (Lock.owed (.firing line clients) c) := by
  have hlen : (fired ++ [line]).length = fired.length + 1 := by simp
  have hstart := hd.start_le
  have hle := hd.until_le
  have hwritten := hd.written
  have hoffered := hd.offered
  have htake : (fired ++ [line]).take h.start = fired.take h.start :=
    List.take_append_of_le_length (Nat.le_trans hstart hle)
  rw [List.append_nil] at hoffered
  by_cases hmap : h.stage.Registered
  · have huntil := h.until_of_registered hmap
    rw [huntil] at hstart hoffered
    refine ⟨?_, ?_, hd.lawful, ?_, ?_⟩
    · rw [huntil, hlen]
      omega
    · exact Nat.le_of_eq (huntil _)
    · rw [htake]
      exact hwritten
    · rw [Lock.owed, if_pos (hregistered.mpr hmap), hoffered, huntil, List.take_length,
        List.take_length, List.drop_append_of_le_length hstart]
  · have huntil := h.until_of_out hmap hnot
    rw [huntil] at hstart hle hoffered
    refine ⟨?_, ?_, hd.lawful, ?_, ?_⟩
    · rw [huntil]
      exact hstart
    · rw [huntil, hlen]
      omega
    · rw [htake]
      exact hwritten
    · rw [Lock.owed, if_neg fun hc => hmap (hregistered.mp hc), List.append_nil, hoffered, huntil,
        List.take_append_of_le_length hle]

theorem coherent_fire {s t : State} {entry : LogEntry} (hI : Coherent s)
    (h : fire s entry = some t) : Coherent t := by
  unfold fire at h
  split at h
  · next hlock =>
    cases h
    have hnot : ∀ (c : ℕ) (g : Handler) rest, s.handlers[c]? = some g → g.stage ≠ .replaying rest := by
      intro c g rest hc hstage
      cases hlock.symm.trans (hI.connecting c g rest hc hstage)
    refine ⟨?_, hI.calm, hI.nodup, hI.clients, ?_, ?_, ?_⟩
    · show _ = last maxSize (s.fired ++ [entry.line])
      rw [last_concat (by decide), ← hI.buffer]
    · intro line pending hpending
      cases hpending
      exact ⟨hI.nodup, fun _ => id⟩
    · intro c g rest hc hstage
      exact absurd hstage (hnot c g rest hc)
    · intro c g hc
      have hd := hI.delivered c g hc
      rw [hlock] at hd
      exact hd.fire (hI.mem_clients hc) fun rest => hnot c g rest hc
  · cases h

theorem coherent_send {s t : State} {c : ℕ} (hI : Coherent s) (h : send s c = some t) :
    Coherent t := by
  unfold send at h
  split at h
  · next line pending g hlock hc =>
    split at h
    · next hmem =>
      obtain ⟨hnodup, hsub⟩ := hI.pending line pending hlock
      have hregistered : g.stage.Registered := (hI.mem_clients hc).mp (hsub c hmem)
      have hopen : g.stage ≠ .closed := by
        intro hclosed
        rw [hclosed] at hregistered
        exact hregistered
      dsimp only at h
      rw [if_neg hopen] at h
      cases h
      have hd := hI.delivered c g hc
      have hoffered := hd.offered
      rw [hlock, Lock.owed, if_pos hmem] at hoffered
      refine hI.update hc rfl rfl rfl hI.calm hI.nodup (fun _ _ => Iff.rfl) ?_ ?_ ?_ ?_ ?_
        ⟨hd.start_le, hd.until_le, hd.lawful.offer line, hd.written, ?_⟩
      · exact iff_of_true (hsub c hmem) hregistered
      · intro d hdc
        rw [hlock]
        simp only [State.put, Lock.owed, List.mem_erase_of_ne hdc]
      · intro line' pending' hfiring
        cases hfiring
        exact ⟨hnodup.erase c, fun d hd' => hsub d (List.mem_of_mem_erase hd')⟩
      · intro rest hstage
        rw [show g.stage = .replaying rest from hstage] at hregistered
        exact absurd hregistered id
      · intro d _ hconnecting
        cases hlock.symm.trans hconnecting
      · show (g.chan.offered ++ [(line, g.chan.waiting.length)]).map Prod.fst
            ++ (if c ∈ pending.erase c then [line] else []) = _
        rw [if_neg fun hc' => (hnodup.mem_erase_iff.mp hc').1 rfl, List.append_nil, List.map_append]
        exact hoffered
    · cases h
  · cases h

theorem coherent_fireUnlock {s t : State} (hI : Coherent s) (h : fireUnlock s = some t) :
    Coherent t := by
  unfold fireUnlock at h
  split at h
  · next line hlock =>
    cases h
    refine ⟨hI.buffer, hI.calm, hI.nodup, hI.clients, ?_, ?_, ?_⟩
    · intro line' pending hpending
      cases hpending
    · intro c g rest hc hstage
      cases hlock.symm.trans (hI.connecting c g rest hc hstage)
    · intro c g hc
      have hd := hI.delivered c g hc
      rw [hlock] at hd
      exact hd
  · cases h

/-! ## Runs -/

theorem coherent_step (s : State) (a : Label) (t : State) (hI : Coherent s)
    (h : step s a = some t) : Coherent t := by
  cases a with
  | fire entry => exact coherent_fire hI h
  | send c => exact coherent_send hI h
  | fireUnlock => exact coherent_fireUnlock hI h
  | connect => exact coherent_connect hI h
  | replay => exact coherent_replay hI h
  | register => exact coherent_register hI h
  | read c => exact coherent_read hI h
  | done c => exact coherent_done hI h
  | unregister c => exact coherent_unregister hI h
  | close c => exact coherent_close hI h

/-- What a handler has had is the window at its connection and what its channel had room for, and
    that is of the lines fired since. -/
theorem Coherent.kept {s : State} (hI : Coherent s) {c : Nat} {h : Handler}
    (hc : s.handlers[c]? = some h) :
    h.written ++ h.stage.rest ++ h.chan.waiting
        = last 100 (s.fired.take h.start) ++ Queue.kept 50 h.chan.offered ∧
      (Queue.kept 50 h.chan.offered).Sublist (s.fired.drop h.start) := by
  have hd := hI.delivered c h hc
  refine ⟨?_, ?_⟩
  · rw [hd.written, List.append_assoc, hd.lawful.fifo]
    rfl
  · have hoffered : (h.chan.offered.map Prod.fst).Sublist (s.fired.drop h.start) := by
      refine ((List.prefix_append _ (s.lock.owed c)).sublist.trans ?_)
      rw [hd.offered]
      exact (List.take_sublist _ _).drop _
    exact (Queue.kept_sublist 50 _).trans hoffered

/-- **Log stream delivery.**  After any interleaving of the steps of `Fire` and of the handlers:
    the buffer is the window of the lines fired; what a handler has written, has still to replay and
    has waiting in its channel is, in order, the window at its connection followed by the lines that
    were offered to its channel while it had a free slot; what was offered is, with the line that a
    `Fire` still owes it, exactly the lines fired while its channel was in the map; and no send met a
    closed channel. -/
theorem log_stream_delivery (labels : List Label) {s : State}
    (hrun : exec step init labels = some s) :
    s.buffer = last 100 s.fired ∧ s.buffer.length = min 100 s.fired.length ∧
      (∀ c (h : Handler), s.handlers[c]? = some h →
        h.written ++ h.stage.rest ++ h.chan.waiting
            = last 100 (s.fired.take h.start) ++ Queue.kept 50 h.chan.offered ∧
          h.chan.offered.map Prod.fst ++ s.lock.owed c
            = (s.fired.take (h.until s.fired.length)).drop h.start ∧
          (Queue.kept 50 h.chan.offered).Sublist (s.fired.drop h.start)) ∧
      s.panicked = false := by
  have hI : Coherent s := exec_invariant coherent_step coherent_init hrun
  refine ⟨hI.buffer, ?_, ?_, hI.calm⟩
  · rw [hI.buffer]
    exact length_last 100 s.fired
  · intro c h hc
    obtain ⟨hwritten, hsublist⟩ := hI.kept hc
    exact ⟨hwritten, (hI.delivered c h hc).offered, hsublist⟩

/-- An entry without fields. -/
def plainEntry (message : String) : LogEntry := ⟨"2026-01-01T00:00:00Z", "info", message, none⟩

/-- A line before the connection, one that is delivered, and one that the handler leaves waiting. -/
def sampleRun : List Label :=
  [.fire (plainEntry "a"), .fireUnlock, .connect, .replay, .register, .fire (plainEntry "b"),
    .send 0, .fireUnlock, .read 0, .fire (plainEntry "c"), .done 0, .send 0, .fireUnlock,
    .unregister 0, .close 0]

/-- The rule at that run. -/
theorem log_stream_delivery_sampleRun :
    ∃ s h, exec step init sampleRun = some s ∧ s.handlers[0]? = some h ∧
      h.written ++ h.stage.rest ++ h.chan.waiting
        = last 100 (s.fired.take h.start) ++ Queue.kept 50 h.chan.offered :=
  ⟨_, _, rfl, rfl, ((log_stream_delivery sampleRun rfl).2.2.1 0 _ rfl).1⟩

end LogStream

end ChirpStackSimulator
