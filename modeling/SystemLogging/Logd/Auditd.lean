import SystemLogging.Logd.LogPrint

/-!
# The audit reader as a state machine

`src/logd/LogAudit.cpp`: the constructor, `onDataAvailable` and `log`, over the state a
`LogAudit` keeps from one call to the next: its `initialized` flag and the function-static
`denial_metadata` of `logPrint` (`LogPrint`). Kernel log lines reach it through `log` while
`readDmesg` runs at startup (`Main`); netlink messages reach it through `onDataAvailable`
once its listener runs.

`auditStep_self` says what one input does to the object: a netlink message sets
`initialized`, and nothing else changes it. Everything else follows from that lemma and from
`logAuditLog_calls_of_dmesg`:

* a run from a state with dmesg on passes the same records to `LogBuffer::Log` whatever the
  static held before (`auditRun_calls_of_dmesg`);
* two histories that each hold a netlink message leave the same object behind, so with a
  dmesg descriptor every later record is independent of the history
  (`auditRun_history_independent`);
* before the first netlink message dmesg is off, whatever the descriptor
  (`auditRun_kernelLines_dmesgOn`), which is the state in which the static can leak from one
  call into the next (`logPrintAfter_history_leaks`).
-/

namespace SystemLogging.Logd

/-- The message `audit_get_reply` reads from the netlink socket: `nlmsg_type`, `nlmsg_len`
and `data`. -/
structure AuditReply where
  nlmsgType : ℕ
  nlmsgLen : ℕ
  data : CStr
  deriving DecidableEq, Repr

/-- `"type=%d %.*s"` of a reply: `%.*s` prints at most `nlmsg_len` characters of `data`. -/
def AuditReply.text (r : AuditReply) : CStr :=
  (((CStr.lit "type=").append (CStr.decimal r.nlmsgType)).append (CStr.lit " ")).append
    (r.data.take r.nlmsgLen)

/-- What the reader keeps from one call to the next: the object, whose `initialized` is the
only field a call changes, and the static `denial_metadata`. -/
structure AuditState where
  self : LogAudit
  denialMetadata : List Char
  deriving DecidableEq, Repr

/-- `auditd_message`: `KMSG_PRIORITY(LOG_INFO)` and `"logd.auditd: start\n"`. -/
def auditdMessage : List Char := logInfo ++ "logd.auditd: start\n".toList

/-- `LogAudit::LogAudit(buf, fdDmesg)`, with `main` and `events` the values of
`ro.logd.auditd.main` and `ro.logd.auditd.events`: the reader, not yet initialized and with
the static still `""`, and what `write(fdDmesg, auditd_message, ...)` adds to the kernel log
(nothing on a negative descriptor). -/
def LogAudit.create (fdDmesg : ℤ) (main events : Bool) : AuditState × Option (List Char) :=
  (⟨⟨fdDmesg, main, events, false⟩, []⟩, if 0 ≤ fdDmesg then some auditdMessage else none)

/-- One input of the reader. -/
inductive AuditInput
  /-- `LogAudit::log(tok, len)` on a kernel log line, from `readDmesg`. -/
  | kernelLine (tok : CStr) (len : ℕ)
  /-- `onDataAvailable` with what `audit_get_reply` returned; `none` when it fails. -/
  | netlink (reply : Option AuditReply)
  deriving DecidableEq, Repr

/-- Whether the input comes through `onDataAvailable`. -/
def AuditInput.isNetlink : AuditInput → Bool
  | .kernelLine .. => false
  | .netlink _ => true

section Step

variable (cap : ℕ) (env : AuditEnv)

/-- `LogAudit::onDataAvailable`: `initialized = true` first, then, unless `audit_get_reply`
fails, `logPrint("type=%d %.*s", ...)`. The state after the call and the result of
`logPrint`; `none` when it runs into undefined behaviour. -/
def onDataAvailable (s : AuditState) (reply : Option AuditReply) :
    Option (AuditState × Option LogPrintResult) :=
  let self := { s.self with initialized := true }
  match reply with
  | none => some (⟨self, s.denialMetadata⟩, none)
  | some r =>
    (logPrint cap self env s.denialMetadata r.text).map fun p =>
      (⟨self, p.denialMetadata⟩, some p)

/-- One input: the state after it and what `log` or `logPrint` returned. -/
def auditStep (s : AuditState) : AuditInput → Option (AuditState × Option LogPrintResult)
  | .kernelLine tok len =>
    (logAuditLog cap s.self env s.denialMetadata tok len).map fun p =>
      (⟨s.self, p.denialMetadata⟩, some p)
  | .netlink reply => onDataAvailable cap env s reply

/-- A run over the inputs: the state at its end and the results in order. -/
def auditRun (s : AuditState) : List AuditInput → Option (AuditState × List LogPrintResult)
  | [] => some (s, [])
  | i :: is =>
    (auditStep cap env s i).bind fun p =>
      (auditRun p.1 is).map fun q => (q.1, p.2.toList ++ q.2)

/-- A run over `a ++ b` is the run over `a`, then the run over `b` from where it ended. -/
theorem auditRun_append (s : AuditState) (a b : List AuditInput) :
    auditRun cap env s (a ++ b) =
      (auditRun cap env s a).bind fun q =>
        (auditRun cap env q.1 b).map fun q' => (q'.1, q.2 ++ q'.2) := by
  induction a generalizing s with
  | nil => simp [auditRun]
  | cons i a ih =>
    rw [List.cons_append, auditRun.eq_2, auditRun.eq_2, Option.bind_assoc]
    congr 1
    funext p
    rw [ih]
    cases auditRun cap env p.1 a <;> simp [Option.map_map, Function.comp_def, List.append_assoc]

/-- What one input does to the object: a netlink message sets `initialized`. -/
theorem auditStep_self {s s' : AuditState} {i : AuditInput} {r : Option LogPrintResult}
    (h : auditStep cap env s i = some (s', r)) :
    s'.self = { s.self with initialized := s.self.initialized || i.isNetlink } := by
  cases i with
  | kernelLine tok len =>
    obtain ⟨p, -, hp⟩ := Option.map_eq_some'.mp h
    cases hp
    simp [AuditInput.isNetlink]
  | netlink reply =>
    cases reply with
    | none => cases h; simp [AuditInput.isNetlink]
    | some r =>
      obtain ⟨p, -, hp⟩ := Option.map_eq_some'.mp h
      cases hp
      simp [AuditInput.isNetlink]

/-- What a run does to the object: `initialized` once a netlink message came. -/
theorem auditRun_self {s s' : AuditState} {is : List AuditInput} {rs : List LogPrintResult}
    (h : auditRun cap env s is = some (s', rs)) :
    s'.self = { s.self with initialized := s.self.initialized || is.any AuditInput.isNetlink } := by
  induction is generalizing s rs with
  | nil => cases h; simp
  | cons i is ih =>
    obtain ⟨⟨t, r⟩, hs, hr⟩ := Option.bind_eq_some.mp h
    obtain ⟨⟨t', rs'⟩, hr', hq⟩ := Option.map_eq_some'.mp hr
    cases hq
    rw [ih hr', auditStep_self cap env hs]
    simp [Bool.or_assoc]

/-- What the comparison of two runs looks at: the object after a step, and the records the
step passed to `LogBuffer::Log`. -/
def stepCalls (p : AuditState × Option LogPrintResult) : LogAudit × Option (List LogCall) :=
  (p.1.self, p.2.map (·.calls))

/-- With dmesg on, one input does the same to the object and passes the same records
whatever the static held. -/
theorem auditStep_calls_of_dmesg {s₁ s₂ : AuditState} (h : s₁.self = s₂.self)
    (hd : s₁.self.dmesgOn = true) (i : AuditInput) :
    (auditStep cap env s₁ i).map stepCalls = (auditStep cap env s₂ i).map stepCalls := by
  cases i with
  | kernelLine tok len =>
    have := congrArg (Option.map fun c => (s₁.self, some c))
      (logAuditLog_calls_of_dmesg cap s₁.self env hd s₁.denialMetadata s₂.denialMetadata tok len)
    simpa only [auditStep, Option.map_map, ← h, Function.comp_def, stepCalls] using this
  | netlink reply =>
    cases reply with
    | none => simp [auditStep, onDataAvailable, stepCalls, h]
    | some r =>
      have hd' : ({ s₁.self with initialized := true } : LogAudit).dmesgOn = true := by
        simp only [LogAudit.dmesgOn, Bool.and_eq_true] at hd ⊢
        exact ⟨hd.1, trivial⟩
      simp only [auditStep, onDataAvailable, Option.map_map, ← h,
        logPrint_of_dmesg cap _ env hd' s₁.denialMetadata s₂.denialMetadata]

/-- A step keeps dmesg on. -/
theorem auditStep_dmesgOn {s t : AuditState} {i : AuditInput} {r : Option LogPrintResult}
    (h : auditStep cap env s i = some (t, r)) (hd : s.self.dmesgOn = true) :
    t.self.dmesgOn = true := by
  rw [auditStep_self cap env h]
  simp only [LogAudit.dmesgOn, Bool.and_eq_true, Bool.or_eq_true] at hd ⊢
  exact ⟨hd.1, .inl hd.2⟩

/-- What the comparison of two runs looks at: the object at the end, and the records of each
call. -/
def runCalls (q : AuditState × List LogPrintResult) : LogAudit × List (List LogCall) :=
  (q.1.self, q.2.map (·.calls))

theorem runCalls_cons (r : Option LogPrintResult) :
    runCalls ∘ (fun q => (q.1, r.toList ++ q.2)) =
      (fun x => (x.1, (r.map (·.calls)).toList ++ x.2)) ∘ runCalls := by
  funext q
  cases r <;> simp [runCalls]

/-- With dmesg on, a run passes the same records to `LogBuffer::Log`, and leaves the same
object, whatever the static held when it began. -/
theorem auditRun_calls_of_dmesg {s₁ s₂ : AuditState} (h : s₁.self = s₂.self)
    (hd : s₁.self.dmesgOn = true) (is : List AuditInput) :
    (auditRun cap env s₁ is).map runCalls = (auditRun cap env s₂ is).map runCalls := by
  induction is generalizing s₁ s₂ with
  | nil => simp [auditRun, runCalls, h]
  | cons i is ih =>
    have hstep := auditStep_calls_of_dmesg cap env h hd i
    simp only [auditRun]
    cases h₁ : auditStep cap env s₁ i with
    | none =>
      rw [h₁, Option.map_none', eq_comm, Option.map_eq_none'] at hstep
      simp [hstep]
    | some p₁ =>
      obtain ⟨p₂, h₂, hp⟩ := Option.map_eq_some'.mp (h₁ ▸ hstep).symm
      simp only [stepCalls, Prod.mk.injEq] at hp
      simp only [h₂, Option.some_bind, Option.map_map, runCalls_cons, hp.2]
      rw [← Option.map_map, ← Option.map_map, ih hp.1.symm (auditStep_dmesgOn cap env h₁ hd)]

/-- With a dmesg descriptor, two histories that each hold a netlink message leave the reader
in states from which every run passes the same records: from then on the static carries
nothing from one call into the next. -/
theorem auditRun_history_independent {s₀ t₁ t₂ : AuditState} {h₁ h₂ : List AuditInput}
    {rs₁ rs₂ : List LogPrintResult} (hfd : 0 ≤ s₀.self.fdDmesg)
    (hn₁ : h₁.any AuditInput.isNetlink = true) (hn₂ : h₂.any AuditInput.isNetlink = true)
    (hr₁ : auditRun cap env s₀ h₁ = some (t₁, rs₁)) (hr₂ : auditRun cap env s₀ h₂ = some (t₂, rs₂))
    (is : List AuditInput) :
    (auditRun cap env t₁ is).map runCalls = (auditRun cap env t₂ is).map runCalls := by
  have e₁ := auditRun_self cap env hr₁
  have e₂ := auditRun_self cap env hr₂
  rw [hn₁, Bool.or_true] at e₁
  rw [hn₂, Bool.or_true] at e₂
  refine auditRun_calls_of_dmesg cap env (e₁.trans e₂.symm) ?_ is
  simp [e₁, LogAudit.dmesgOn, hfd]

/-- Kernel lines leave the object as it was: a reader that has seen no netlink message has
dmesg off, whatever its descriptor. -/
theorem auditRun_kernelLines_dmesgOn {s t : AuditState} {is : List AuditInput}
    {rs : List LogPrintResult} (hs : s.self.initialized = false)
    (hk : is.any AuditInput.isNetlink = false) (h : auditRun cap env s is = some (t, rs)) :
    t.self = s.self ∧ t.self.dmesgOn = false := by
  have e := auditRun_self cap env h
  rw [hk, hs, Bool.or_false, ← hs] at e
  exact ⟨e, by simp [e, LogAudit.dmesgOn, hs]⟩

end Step

end SystemLogging.Logd
