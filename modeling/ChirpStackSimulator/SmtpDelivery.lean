/-
  How a report is delivered over SMTP (`internal/api/report.go`).

  `sendEmail` hands the message to the writer of the DATA command and closes the writer.  Closing it
  ends the message and returns the server's last answer, which nobody looks at.

  1. **Calls** - those of the SMTP client, and what a chain of attempts asks of its surroundings.
  2. **The functions** `connectSMTP`, `sendEmail`, `SendEmailReport` and `sendEmailWithRetry`.
  3. **Responses** - what is answered in each attempt of a chain, and a world that answers so: the
     server takes a message with its last answer, and the database keeps what is saved.
  4. **An attempt** - it succeeds exactly if the message was handed over (`HandedOver`), and the server
     takes it if the last answer is positive too.
  5. **A chain** (`marked_only_if_accepted_iff`) - the first attempt that hands the message over ends it.
-/
import ChirpStackSimulator.Lib.Prog
import Mathlib.Data.List.Basic

namespace ChirpStackSimulator.SmtpDelivery

/-! ## Calls -/

/-- `config.C.SMTP`. -/
structure SMTPConfig where
  enabled : Bool
  host : String
  port : Int
  encryption : String
  username : String
  password : String
  fromEmail : String
  reportEmail : String
  deriving DecidableEq, Repr

/-- What the mailer asks of its surroundings. -/
inductive Call
  /-- Reading `config.C.SMTP`. -/
  | smtpConfig
  | collectMetrics
  | tlsDial (addr serverName : String)
  | dialTimeout (addr : String)
  | newClient (host : String)
  /-- Of the connection, of the client and of the writer of the message. -/
  | connClose
  | clientClose
  | writerClose
  | startTLS (serverName : String)
  | auth (username password host : String)
  | mail (sender : String)
  | rcpt (recipient : String)
  | data
  /-- Ranging over the header. -/
  | range (header : List (String × String))
  | write (msg : String)
  | quit
  | sleep (minutes : Nat)
  | saveSystemState (key value : String)
  deriving DecidableEq, Repr

variable {M : Type}

/-- Errors are texts; `M` are the metrics. -/
def Answer (M : Type) : Call → Type
  | .smtpConfig => SMTPConfig
  | .collectMetrics => M
  | .range _ => List (String × String)
  | .connClose | .clientClose | .quit | .sleep _ => Unit
  | .tlsDial _ _ | .dialTimeout _ | .newClient _ | .startTLS _ | .auth _ _ _ | .mail _ | .rcpt _
  | .data | .write _ | .writerClose | .saveSystemState _ _ => Option String

abbrev Smtp (M : Type) := Prog Call (Answer M)

def ask (c : Call) : Smtp M (Answer M c) := Prog.ask c

/-! ## The functions -/

/-- The connection with the client on it. -/
def newClient (host : String) : Smtp M (Option String) := do
  match ← ask (.newClient host) with
  | some e => do
    let _ ← ask .connClose
    pure (some ("smtp new client error: " ++ e))
  | none => pure none

/-- The branches on `encryption`. -/
def openClient (host addr encryption : String) : Smtp M (Option String) :=
  if encryption = "ssl" then do
    match ← ask (.tlsDial addr host) with
    | some e => pure (some ("tls dial error: " ++ e))
    | none => newClient host
  else do
    match ← ask (.dialTimeout addr) with
    | some e => pure (some ("tcp dial error: " ++ e))
    | none =>
      match ← newClient host with
      | some e => pure (some e)
      | none =>
        if encryption = "tls" then do
          match ← ask (.startTLS host) with
          | some e => do
            let _ ← ask .clientClose
            pure (some ("starttls error: " ++ e))
          | none => pure none
        else pure none

/-- A connection, with a login if there are credentials. -/
def connectSMTP (host : String) (port : Int) (encryption username password : String) :
    Smtp M (Option String) := do
  match ← openClient host (host ++ ":" ++ toString port) encryption with
  | some e => pure (some e)
  | none =>
    if username ≠ "" ∧ password ≠ "" then do
      match ← ask (.auth username password host) with
      | some e => do
        let _ ← ask .clientClose
        pure (some ("smtp authentication error: " ++ e))
      | none => pure none
    else pure none

/-- The header of a mail. -/
def header (sender recipient subject : String) : List (String × String) :=
  [("From", sender), ("To", recipient), ("Subject", subject), ("MIME-Version", "1.0"),
    ("Content-Type", "text/html; charset=\"utf-8\"")]

/-- The header and the body; the header comes in the order of a range over it. -/
def message (header : List (String × String)) (body : String) : String :=
  String.join (header.map fun e => e.1 ++ ": " ++ e.2 ++ "\r\n") ++ "\r\n" ++ body

/-- `sendEmail` from the DATA command on. -/
def sendData (sender recipient subject body : String) : Smtp M (Option String) := do
  match ← ask .data with
  | some e => pure (some ("smtp data command error: " ++ e))
  | none => do
    let header ← ask (.range (header sender recipient subject))
    match ← ask (.write (message header body)) with
    | some e => do
      let _ ← ask .writerClose
      pure (some ("write smtp body error: " ++ e))
    | none => do
      -- the last answer is dropped
      let _ ← ask .writerClose
      pure none

/-- `sendEmail` once the client is there. -/
def sendMail (sender recipient subject body : String) : Smtp M (Option String) := do
  match ← ask (.mail sender) with
  | some e => pure (some ("smtp mail command error: " ++ e))
  | none =>
    match ← ask (.rcpt recipient) with
    | some e => pure (some ("smtp rcpt command error: " ++ e))
    | none => sendData sender recipient subject body

/-- `sendEmail`: a connection, and one mail over it. -/
def sendEmail (host : String) (port : Int)
    (encryption username password sender recipient subject body : String) : Smtp M (Option String) := do
  match ← connectSMTP host port encryption username password with
  | some e => pure (some e)
  | none => do
    let err ← sendMail sender recipient subject body
    -- deferred
    let _ ← ask .quit
    pure err

section
variable (buildHTMLReport : M → String)

/-- The metrics come without an error in any case. -/
def sendEmailReport (isTest : Bool) : Smtp M (Option String) := do
  let smtpConf ← ask .smtpConfig
  if !smtpConf.enabled && !isTest then pure (some "smtp is disabled in configuration") else do
  let metrics ← ask .collectMetrics
  let subject := if isTest then "ChirpStack SimulaTR SMTP Bağlantı Testi [BAŞARILI]"
    else "ChirpStack SimulaTR Günlük Sağlık Raporu"
  sendEmail smtpConf.host smtpConf.port smtpConf.encryption smtpConf.username smtpConf.password
    smtpConf.fromEmail smtpConf.reportEmail subject (buildHTMLReport metrics)

/-- An attempt, whose date is saved if it succeeds; an error of the saving is logged. -/
def attempt (today : String) (otherwise : Smtp M Unit) : Smtp M Unit := do
  match ← sendEmailReport buildHTMLReport false with
  | none => do
    let _ ← ask (.saveSystemState "last_report_sent_date" today)
    pure ()
  | some _ => otherwise

/-- The loop of the retries. -/
def retries (today : String) : Nat → Smtp M Unit
  | 0 => pure ()
  | n + 1 => do
    let _ ← ask (.sleep 30)
    attempt buildHTMLReport today (retries today n)

/-- The first attempt, and three more if it fails. -/
def sendEmailWithRetry (today : String) : Smtp M Unit :=
  attempt buildHTMLReport today (retries buildHTMLReport today 3)

end

/-! ## Responses -/

/-- What is answered in an attempt; an error is a text. -/
structure Responses (M : Type) where
  smtpConfig : SMTPConfig
  metrics : M
  dial : Option String
  newClient : Option String
  startTLS : Option String
  auth : Option String
  mail : Option String
  rcpt : Option String
  data : Option String
  range : List (String × String) → List (String × String)
  write : Option String
  /-- The last answer. -/
  writerClose : Option String
  saveSystemState : Option String

/-- What the attempts leave behind. -/
structure World where
  /-- The attempt of the chain, from zero. -/
  attempt : Nat
  /-- What was written and is not yet answered. -/
  written : Option String
  /-- The messages that the server has acknowledged positively. -/
  accepted : List String
  /-- What the database has stored, in that order. -/
  stored : List (String × String)
  deriving DecidableEq, Repr

/-- At the begin of a chain. -/
def World.start : World := ⟨0, none, [], []⟩

/-- The last answer. -/
def World.answer (w : World) : Option String → World
  | none => { w with written := none, accepted := w.accepted ++ w.written.toList }
  | some _ => { w with written := none }

def World.save (w : World) (key value : String) : Option String → World
  | none => { w with stored := w.stored ++ [(key, value)] }
  | some _ => w

/-- The world that answers the `i`-th attempt as `r i` has it. -/
def world (r : Nat → Responses M) : Prog.Env World (Answer M)
  | w, .smtpConfig => ((r w.attempt).smtpConfig, w)
  | w, .collectMetrics => ((r w.attempt).metrics, w)
  | w, .tlsDial _ _ => ((r w.attempt).dial, w)
  | w, .dialTimeout _ => ((r w.attempt).dial, w)
  | w, .newClient _ => ((r w.attempt).newClient, w)
  | w, .connClose => ((), w)
  | w, .clientClose => ((), w)
  | w, .writerClose => ((r w.attempt).writerClose, w.answer (r w.attempt).writerClose)
  | w, .startTLS _ => ((r w.attempt).startTLS, w)
  | w, .auth _ _ _ => ((r w.attempt).auth, w)
  | w, .mail _ => ((r w.attempt).mail, w)
  | w, .rcpt _ => ((r w.attempt).rcpt, w)
  | w, .data => ((r w.attempt).data, w)
  | w, .range header => ((r w.attempt).range header, w)
  | w, .write msg =>
    ((r w.attempt).write, { w with written := if (r w.attempt).write = none then some msg else none })
  | w, .quit => ((), w)
  | w, .sleep _ => ((), { w with attempt := w.attempt + 1 })
  | w, .saveSystemState key value =>
    ((r w.attempt).saveSystemState, w.save key value (r w.attempt).saveSystemState)

/-! ## An attempt -/

/-- Nothing fails before the message is handed over. -/
structure HandedOver (a : Responses M) : Prop where
  enabled : a.smtpConfig.enabled = true
  dial : a.dial = none
  newClient : a.newClient = none
  startTLS : a.smtpConfig.encryption = "tls" → a.startTLS = none
  auth : a.smtpConfig.username ≠ "" → a.smtpConfig.password ≠ "" → a.auth = none
  mail : a.mail = none
  rcpt : a.rcpt = none
  data : a.data = none
  write : a.write = none

/-- Run in `w`, the program succeeds exactly if `b`, and the server takes a message exactly if its last
    answer is positive too. -/
structure SucceedsIff (r : Nat → Responses M) (w : World) (p : Smtp M (Option String)) (b : Prop) :
    Prop where
  result : p.result (world r) w = none ↔ b
  final : ∃ msgs, p.final (world r) w = { w with accepted := w.accepted ++ msgs } ∧
    (msgs ≠ [] ↔ b ∧ (r w.attempt).writerClose = none)

section
variable {r : Nat → Responses M} {w : World}

/-- The steps up to the mail leave the world as it was, and succeed by their responses. -/
theorem newClient_run (host : String) :
    (newClient host).final (world r) w = w ∧
      ((newClient host).result (world r) w = none ↔ (r w.attempt).newClient = none) := by
  cases h : (r w.attempt).newClient with
  | none => simp [newClient, ask, world, h]
  | some e => simp [newClient, ask, world, h]

theorem openClient_run {host addr encryption : String} :
    (openClient host addr encryption).final (world r) w = w ∧
      ((openClient host addr encryption).result (world r) w = none ↔
        (r w.attempt).dial = none ∧ (r w.attempt).newClient = none ∧
          (encryption = "tls" → (r w.attempt).startTLS = none)) := by
  obtain ⟨hfinal, hresult⟩ := newClient_run (r := r) (w := w) host
  unfold openClient
  split
  · next hssl =>
    subst hssl
    cases hdial : (r w.attempt).dial with
    | none => simp [ask, world, hdial, hfinal, hresult]
    | some e => simp [ask, world, hdial]
  · cases hdial : (r w.attempt).dial with
    | some e => simp [ask, world, hdial]
    | none =>
      cases hclient : (newClient host).result (world r) w with
      | some e =>
        have hfailed : ¬ (r w.attempt).newClient = none := by
          rw [← hresult, hclient]
          exact Option.some_ne_none e
        simp [ask, world, hdial, hfinal, hclient, hfailed]
      | none =>
        by_cases htls : encryption = "tls"
        · cases hstart : (r w.attempt).startTLS with
          | none => simp [ask, world, hdial, hfinal, hclient, htls, hresult.mp hclient, hstart]
          | some e => simp [ask, world, hdial, hfinal, hclient, htls, hresult.mp hclient, hstart]
        · simp [ask, world, hdial, hfinal, hclient, htls, hresult.mp hclient]

theorem connectSMTP_run {host encryption username password : String} {port : Int} :
    (connectSMTP host port encryption username password).final (world r) w = w ∧
      ((connectSMTP host port encryption username password).result (world r) w = none ↔
        ((r w.attempt).dial = none ∧ (r w.attempt).newClient = none ∧
          (encryption = "tls" → (r w.attempt).startTLS = none)) ∧
            (username ≠ "" ∧ password ≠ "" → (r w.attempt).auth = none)) := by
  unfold connectSMTP
  generalize host ++ ":" ++ toString port = addr
  obtain ⟨hfinal, hresult⟩ : _ ∧ ((openClient host addr encryption).result (world r) w = none ↔ _) :=
    openClient_run
  rw [← hresult]
  cases hopen : (openClient host addr encryption).result (world r) w with
  | some e => simp [hfinal, hopen]
  | none =>
    by_cases hauth : username ≠ "" ∧ password ≠ ""
    · cases hanswer : (r w.attempt).auth with
      | none => simp [ask, world, hfinal, hopen, hauth, hanswer]
      | some e => simp [ask, world, hfinal, hopen, hauth, hanswer]
    · simp only [Prog.final_bind, Prog.result_bind, hfinal, hopen, if_neg hauth, Prog.final_pure,
        Prog.result_pure]
      simp [hauth]

/-- The condition may be stated in other words. -/
theorem SucceedsIff.congr {p : Smtp M (Option String)} {b b' : Prop} (h : SucceedsIff r w p b)
    (hb : b ↔ b') : SucceedsIff r w p b' where
  result := h.result.trans hb
  final := by
    obtain ⟨msgs, hfinal, hmsgs⟩ := h.final
    exact ⟨msgs, hfinal, hmsgs.trans (and_congr_left' hb)⟩

/-- A program that ends with an error before the message. -/
theorem SucceedsIff.of_error {p : Smtp M (Option String)} {b : Prop} {e : String}
    (hresult : p.result (world r) w = some e) (hfinal : p.final (world r) w = w) (hb : ¬ b) :
    SucceedsIff r w p b where
  result := by
    rw [hresult]
    exact iff_of_false (Option.some_ne_none e) hb
  final := by
    refine ⟨[], ?_, ?_⟩
    · rw [hfinal, List.append_nil]
    · exact iff_of_false (fun h => h rfl) fun h => hb h.1

/-- A call that leaves the world as it is. -/
theorem SucceedsIff.ask_bind {c : Call} {f : Answer M c → Smtp M (Option String)} {b : Prop}
    (hc : (world r w c).2 = w) (h : SucceedsIff r w (f (world r w c).1) b) :
    SucceedsIff r w (ask c >>= f) b where
  result := by
    rw [← h.result, ask, Prog.result_bind, Prog.result_ask, Prog.final_ask, hc]
  final := by
    obtain ⟨msgs, hfinal, hmsgs⟩ := h.final
    refine ⟨msgs, ?_, hmsgs⟩
    rw [ask, Prog.final_bind, Prog.result_ask, Prog.final_ask, hc, hfinal]

/-- From the DATA command on. -/
theorem sendData_succeeds (sender recipient subject body : String) (hw : w.written = none) :
    SucceedsIff r w (sendData sender recipient subject body)
      ((r w.attempt).data = none ∧ (r w.attempt).write = none) := by
  obtain ⟨attempt, written, accepted, stored⟩ := w
  subst hw
  unfold sendData
  cases hdata : (r attempt).data with
  | some e => exact .of_error (by simp [ask, world, hdata]; rfl) (by simp [ask, world, hdata]) (by simp)
  | none =>
    cases hwrite : (r attempt).write with
    | some e =>
      refine ⟨by simp [ask, world, hdata, hwrite], [], ?_, by simp⟩
      cases hclose : (r attempt).writerClose with
      | none => simp [ask, world, hdata, hwrite, hclose, World.answer]
      | some e => simp [ask, world, hdata, hwrite, hclose, World.answer]
    | none =>
      refine ⟨by simp [ask, world, hdata, hwrite], ?_⟩
      cases hclose : (r attempt).writerClose with
      | none =>
        refine ⟨[message ((r attempt).range (header sender recipient subject)) body], ?_, by simp⟩
        simp [ask, world, hdata, hwrite, hclose, World.answer]
      | some e =>
        refine ⟨[], ?_, by simp⟩
        simp [ask, world, hdata, hwrite, hclose, World.answer]

/-- A mail goes out exactly if each of its commands is accepted. -/
theorem sendMail_succeeds (sender recipient subject body : String) (hw : w.written = none) :
    SucceedsIff r w (sendMail sender recipient subject body)
      ((r w.attempt).mail = none ∧ (r w.attempt).rcpt = none ∧
        (r w.attempt).data = none ∧ (r w.attempt).write = none) := by
  have hrest := sendData_succeeds (r := r) sender recipient subject body hw
  unfold sendMail
  cases hmail : (r w.attempt).mail with
  | some e => exact .of_error (by simp [ask, world, hmail]; rfl) (by simp [ask, world, hmail]) (by simp)
  | none =>
    cases hrcpt : (r w.attempt).rcpt with
    | some e =>
      exact .of_error (by simp [ask, world, hmail, hrcpt]; rfl) (by simp [ask, world, hmail, hrcpt])
        (by simp)
    | none =>
      refine ⟨?_, ?_⟩
      · simpa [ask, world, hmail, hrcpt] using hrest.result
      · simpa [ask, world, hmail, hrcpt] using hrest.final

theorem sendEmail_succeeds {host encryption username password sender recipient subject body : String}
    {port : Int} (hw : w.written = none) :
    SucceedsIff r w (sendEmail host port encryption username password sender recipient subject body)
      ((((r w.attempt).dial = none ∧ (r w.attempt).newClient = none ∧
          (encryption = "tls" → (r w.attempt).startTLS = none)) ∧
            (username ≠ "" ∧ password ≠ "" → (r w.attempt).auth = none)) ∧
        (r w.attempt).mail = none ∧ (r w.attempt).rcpt = none ∧
          (r w.attempt).data = none ∧ (r w.attempt).write = none) := by
  obtain ⟨hfinal, hresult⟩ : _ ∧ ((connectSMTP host port encryption username password).result
    (world r) w = none ↔ _) := connectSMTP_run
  have hrest := sendMail_succeeds (r := r) sender recipient subject body hw
  rw [← hresult]
  unfold sendEmail
  cases hconnect : (connectSMTP host port encryption username password).result (world r) w with
  | some e =>
    exact .of_error (by simp [hfinal, hconnect]; rfl) (by simp [hfinal, hconnect]) (by simp)
  | none =>
    obtain ⟨msgs, hmsgs, hiff⟩ := hrest.final
    refine ⟨?_, msgs, ?_, ?_⟩
    · simpa [ask, hfinal, hconnect] using hrest.result
    · simp [ask, world, hfinal, hconnect, hmsgs]
    · simpa using hiff

variable (buildHTMLReport : M → String) (today : String)

/-- **A report is sent exactly if it was handed over.** -/
theorem sendEmailReport_succeeds (hw : w.written = none) :
    SucceedsIff r w (sendEmailReport buildHTMLReport false) (HandedOver (r w.attempt)) := by
  unfold sendEmailReport
  cases henabled : (r w.attempt).smtpConfig.enabled with
  | false =>
    refine .of_error (by simp [ask, world, henabled]; rfl) (by simp [ask, world, henabled]) fun h => ?_
    rw [h.enabled] at henabled
    cases henabled
  | true =>
    refine .ask_bind rfl ?_
    have hon : (!(r w.attempt).smtpConfig.enabled && !false) = false := by rw [henabled]; rfl
    show SucceedsIff r w (if (!(r w.attempt).smtpConfig.enabled && !false) = true then _ else _) _
    rw [if_neg (by rw [hon]; exact Bool.false_ne_true)]
    refine .ask_bind rfl ((sendEmail_succeeds hw).congr ?_)
    constructor
    · rintro ⟨⟨⟨hdial, hclient, htls⟩, hauth⟩, hmail, hrcpt, hdata, hwrite⟩
      exact ⟨henabled, hdial, hclient, htls, fun hu hp => hauth ⟨hu, hp⟩, hmail, hrcpt, hdata, hwrite⟩
    · intro h
      exact ⟨⟨⟨h.dial, h.newClient, h.startTLS⟩, fun hauth => h.auth hauth.1 hauth.2⟩, h.mail, h.rcpt,
        h.data, h.write⟩

/-- The attempt fails, or its date is saved. -/
theorem attempt_final {otherwise : Smtp M Unit} (hw : w.written = none) :
    (HandedOver (r w.attempt) ∧ ∃ msgs, (msgs ≠ [] ↔ (r w.attempt).writerClose = none) ∧
      (attempt buildHTMLReport today otherwise).final (world r) w =
        { w with accepted := w.accepted ++ msgs }.save "last_report_sent_date" today
          (r w.attempt).saveSystemState) ∨
    (¬ HandedOver (r w.attempt) ∧
      (attempt buildHTMLReport today otherwise).final (world r) w = otherwise.final (world r) w) := by
  obtain ⟨hresult, msgs, hfinal, hmsgs⟩ :=
    sendEmailReport_succeeds (r := r) buildHTMLReport hw
  unfold attempt
  rw [Prog.final_bind, hfinal]
  cases hreport : (sendEmailReport buildHTMLReport false).result (world r) w with
  | none =>
    have hover := hresult.mp hreport
    exact Or.inl ⟨hover, msgs, hmsgs.trans (and_iff_right hover), rfl⟩
  | some e =>
    have hover : ¬ HandedOver (r w.attempt) := by
      rw [← hresult, hreport]
      exact Option.some_ne_none e
    have hnone : msgs = [] := by
      by_contra hne
      exact hover (hmsgs.mp hne).1
    refine Or.inr ⟨hover, ?_⟩
    rw [hnone, List.append_nil]

/-! ## A chain -/

/-- An attempt and at most `n` retries: the first one that hands its message over ends the chain, and its
    date is saved. -/
theorem attempts_final {n : Nat} (hw : w.written = none) :
    (∃ i, w.attempt ≤ i ∧ i ≤ w.attempt + n ∧ HandedOver (r i) ∧
      (∀ j, w.attempt ≤ j → j < i → ¬ HandedOver (r j)) ∧
      ∃ msgs, (msgs ≠ [] ↔ (r i).writerClose = none) ∧
        (attempt buildHTMLReport today (retries buildHTMLReport today n)).final (world r) w =
          { w with attempt := i, accepted := w.accepted ++ msgs }.save "last_report_sent_date" today
            (r i).saveSystemState) ∨
    ((∀ i, w.attempt ≤ i → i ≤ w.attempt + n → ¬ HandedOver (r i)) ∧
      (attempt buildHTMLReport today (retries buildHTMLReport today n)).final (world r) w =
        { w with attempt := w.attempt + n }) := by
  induction n generalizing w with
  | zero =>
    rcases attempt_final (r := r) buildHTMLReport today hw with ⟨hover, msgs, hmsgs, hfinal⟩ | ⟨hover, hfinal⟩
    · exact Or.inl ⟨w.attempt, Nat.le_refl _, Nat.le_refl _, hover, fun j h h' => by omega, msgs, hmsgs,
        hfinal⟩
    · refine Or.inr ⟨fun i h h' => ?_, hfinal⟩
      rw [show i = w.attempt by omega]
      exact hover
  | succ n ih =>
    rcases attempt_final (r := r) buildHTMLReport today hw with ⟨hover, msgs, hmsgs, hfinal⟩ | ⟨hover, hfinal⟩
    · exact Or.inl ⟨w.attempt, Nat.le_refl _, Nat.le_add_right _ _, hover, fun j h h' => by omega, msgs,
        hmsgs, hfinal⟩
    · rw [hfinal]
      have hrest := ih (w := { w with attempt := w.attempt + 1 }) hw
      rcases hrest with ⟨i, hle, hle', hover', hfirst, msgs, hmsgs, hfinal'⟩ | ⟨hnone, hfinal'⟩
      · refine Or.inl ⟨i, Nat.le_of_succ_le hle, by simp only at hle'; omega, hover', ?_, msgs, hmsgs,
          hfinal'⟩
        intro j hj hji
        rcases Nat.eq_or_lt_of_le hj with rfl | hlt
        · exact hover
        · exact hfirst j hlt hji
      · refine Or.inr ⟨fun i hi hi' => ?_, ?_⟩
        · rcases Nat.eq_or_lt_of_le hi with rfl | hlt
          · exact hover
          · exact hnone i hlt (by simp only; omega)
        · have hattempt : w.attempt + 1 + n = w.attempt + (n + 1) := by omega
          rw [← hattempt]
          exact hfinal'

end

/-- A date is stored only if the server has acknowledged a message of the chain positively. -/
def MarkedOnlyIfAccepted (buildHTMLReport : M → String) (today : String) (r : Nat → Responses M) :
    Prop :=
  (∃ date, ("last_report_sent_date", date) ∈
      ((sendEmailWithRetry buildHTMLReport today).final (world r) .start).stored) →
    ((sendEmailWithRetry buildHTMLReport today).final (world r) .start).accepted ≠ []

/-- **Marked only if accepted**, for every sequence of responses: exactly if the first attempt that
    hands its message over, if one of the four does, gets a positive last answer or cannot save its
    date. -/
theorem marked_only_if_accepted_iff (buildHTMLReport : M → String) (today : String)
    (r : Nat → Responses M) : MarkedOnlyIfAccepted buildHTMLReport today r ↔
      ∀ i ≤ 3, HandedOver (r i) → (∀ j < i, ¬ HandedOver (r j)) →
        (r i).writerClose = none ∨ (r i).saveSystemState ≠ none := by
  have hchain := attempts_final (r := r) (w := .start) (n := 3) buildHTMLReport today rfl
  unfold MarkedOnlyIfAccepted sendEmailWithRetry
  rcases hchain with ⟨i, -, hle, hover, hfirst, msgs, hmsgs, hfinal⟩ | ⟨hnone, hfinal⟩
  · have hother : ∀ j, HandedOver (r j) → (∀ k < j, ¬ HandedOver (r k)) → j = i := by
      intro j hover' hfirst'
      rcases Nat.lt_trichotomy j i with hlt | heq | hlt
      · exact absurd hover' (hfirst j (Nat.zero_le j) hlt)
      · exact heq
      · exact absurd hover (hfirst' i hlt)
    rw [hfinal]
    cases hsave : (r i).saveSystemState with
    | none =>
      constructor
      · intro h j _ hover' hfirst'
        obtain rfl := hother j hover' hfirst'
        exact Or.inl (hmsgs.mp (h ⟨today, List.mem_singleton_self _⟩))
      · intro h _
        have hle' : i ≤ 3 := by simpa [World.start] using hle
        have hlast := h i hle' hover fun k hk => hfirst k (Nat.zero_le k) hk
        exact hmsgs.mpr (hlast.resolve_right fun hne => hne hsave)
    | some e =>
      refine iff_of_true ?_ ?_
      · rintro ⟨date, hstored⟩
        exact absurd hstored List.not_mem_nil
      · intro j _ hover' hfirst'
        obtain rfl := hother j hover' hfirst'
        rw [hsave]
        exact Or.inr (Option.some_ne_none e)
  · rw [hfinal]
    refine iff_of_true ?_ ?_
    · rintro ⟨date, hstored⟩
      exact absurd hstored List.not_mem_nil
    · intro i hi hover
      exact absurd hover (hnone i (Nat.zero_le _) (by simp only [World.start]; omega))

/-- Everything goes well but the last answer. -/
def refused : Responses Unit where
  smtpConfig := ⟨true, "mail", 587, "tls", "u", "p", "s@mail", "r@mail"⟩
  metrics := ()
  dial := none
  newClient := none
  startTLS := none
  auth := none
  mail := none
  rcpt := none
  data := none
  range header := header
  write := none
  writerClose := some "554 message rejected"
  saveSystemState := none

/-- The report that the server has refused is stored as sent. -/
theorem refused_marked : ((sendEmailWithRetry (fun _ => "") "2024-01-31").final
      (world fun _ => refused) .start).stored = [("last_report_sent_date", "2024-01-31")] ∧
    ¬ MarkedOnlyIfAccepted (fun _ => "") "2024-01-31" fun _ => refused := by
  have hfinal : (sendEmailWithRetry (fun _ => "") "2024-01-31").final (world fun _ => refused) .start =
      ⟨0, none, [], [("last_report_sent_date", "2024-01-31")]⟩ := by decide
  refine ⟨?_, fun h => ?_⟩
  · rw [hfinal]
  · unfold MarkedOnlyIfAccepted at h
    rw [hfinal] at h
    exact h ⟨_, List.mem_singleton_self _⟩ rfl

end ChirpStackSimulator.SmtpDelivery
