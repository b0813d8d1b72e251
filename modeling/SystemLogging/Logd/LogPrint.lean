import SystemLogging.Logd.BugMap
import SystemLogging.Logd.AuditText
import SystemLogging.Logd.AuditRecords

/-!
# `LogAudit::logPrint` and the static `denial_metadata`

`src/logd/LogAudit.cpp`. `logPrint` rewrites an audit text (`AuditText`), writes it to the
kernel log when dmesg is on, and passes its events and main records (`AuditRecords`) to
`LogBuffer::Log`. The bug metadata appended everywhere lives in a function-static
`std::string denial_metadata`, which is the only state one call leaves for the next.

With dmesg on, every call recomputes the metadata before any use, so the records do not
depend on earlier calls (`logPrint_calls_of_dmesg`). With dmesg off, a text that already
ends in metadata (`hasMetadata`) skips the recomputation and takes the metadata of the
previous call: the same text then yields different records after different histories
(`logPrintAfter_history_leaks`).
-/

namespace SystemLogging.Logd

/-- The settings of a `LogAudit` that `logPrint` reads. -/
structure LogAudit where
  fdDmesg : ℤ
  main : Bool
  events : Bool
  initialized : Bool
  deriving DecidableEq, Repr

/-- The record of a `LogBuffer::Log` call. -/
inductive Record
  | event (e : EventString)
  | text (bytes : List (Option Char))
  deriving DecidableEq, Repr

/-- The arguments of a `LogBuffer::Log` call. -/
structure LogCall where
  logId : ℤ
  realtime : LogTime
  uid : ℕ
  pid : ℤ
  tid : ℤ
  record : Record
  len : ℕ
  deriving DecidableEq, Repr

/-- What `logPrint` reads of the process and of code outside `src/`: `getpid()`,
`gettid()`, `android::pidToUid`, `android::pidToName`, `android::uidToName`,
`ReadFileToString`, `log_time::strptime`, `CLOCK_REALTIME`, `AUDITD_LOG_TAG`,
`EVENT_TYPE_STRING`, and what `LogBuffer::Log` returns for a call. -/
structure AuditEnv where
  getpid : ℤ
  gettid : ℤ
  pidToUid : ℤ → ℕ
  pidToName : ℤ → Option CStr
  uidToName : ℕ → Option CStr
  readFile : List Char → Option (List Char)
  strptime : List Char → Option (LogTime × ℕ)
  realtime : LogTime
  auditdLogTag : ℕ
  eventTypeString : ℕ
  logRc : LogCall → ℤ

/-- A device for the examples: logd is pid 100, every pid belongs to the app uid 10001 named
`com.x`, no process name, bug map file or timestamp can be read, the clock reads zero,
`AUDITD_LOG_TAG` is 1003, `EVENT_TYPE_STRING` is 2, and every `LogBuffer::Log` call succeeds. -/
def appEnv : AuditEnv where
  getpid := 100
  gettid := 100
  pidToUid _ := 10001
  pidToName _ := none
  uidToName _ := some (.lit "com.x")
  readFile _ := none
  strptime _ := none
  realtime := ⟨0, 0⟩
  auditdLogTag := 1003
  eventTypeString := 2
  logRc _ := 0

/-- `KMSG_PRIORITY(LOG_INFO)`: `LOG_AUTH | LOG_INFO = 38` in angle brackets. -/
def logInfo : List Char := "<38>".toList

/-- `KMSG_PRIORITY(LOG_WARNING)`: `LOG_AUTH | LOG_WARNING = 36` in angle brackets. -/
def logWarning : List Char := "<36>".toList

/-- `hasMetadata(str, str_len)`: a `/` 9 or 39 characters before the end. -/
def hasMetadata (str : List Char) (strLen : ℕ) : Bool :=
  decide (39 ≤ strLen) && (str[strLen - 9]? == some '/' || str[strLen - 39]? == some '/')

/-- What one `logPrint` call does: its result, the line it writes to `fdDmesg`, its
`LogBuffer::Log` calls, and `denial_metadata` after it. -/
structure LogPrintResult where
  rc : ℤ
  dmesg : Option (List Char)
  calls : List LogCall
  denialMetadata : List Char

section LogPrint

variable (cap : ℕ) (self : LogAudit) (env : AuditEnv)

/-- `(fdDmesg >= 0) && initialized`. -/
def LogAudit.dmesgOn (self : LogAudit) : Bool := decide (0 ≤ self.fdDmesg) && self.initialized

/-- `LogAudit::logPrint` on the text `vasprintf` formatted, with `denialMetadata` the value
of the static before the call; `none` when the call runs into undefined behaviour. -/
def logPrint (denialMetadata : List Char) (formatted : CStr) : Option LogPrintResult := do
  let p ← pidStep env.getpid env.gettid env.pidToUid (replaceNewlines formatted.chars ++ [nul])
  let str := (cstrOf p.buf).chars
  let info := (strstr str " permissive=1".toList).isSome ||
    (strstr str " policy loaded ".toList).isSome
  let denialMetadata := if self.dmesgOn then auditParse env.readFile env.uidToName str p.uid
    else denialMetadata
  let dmesg := if self.dmesgOn then
      some ((if info then logInfo else logWarning) ++ str ++ denialMetadata ++ ['\n'])
    else none
  if !self.main && !self.events then return ⟨0, dmesg, [], denialMetadata⟩
  let (buf, now) ← timeStep env.strptime env.realtime p.buf
  let str := cstrOf buf
  let denialMetadata :=
    if !self.dmesgOn && !hasMetadata str.chars (strnlen str cap) then
      auditParse env.readFile env.uidToName str.chars p.uid
    else denialMetadata
  let events ← if self.events then
      (eventsRecord cap env.auditdLogTag env.eventTypeString str denialMetadata).map fun r =>
        [⟨logIdEvents, now, p.uid, p.pid, p.tid, .event r.1, r.2⟩]
    else some []
  let c := chooseComm str p.pid env.getpid p.tid env.pidToName
  let main ← if self.main then
      (mainRecord cap info str c denialMetadata).map fun r =>
        [⟨logIdMain, now, p.uid, c.pid, p.tid, .text r.1, r.2⟩]
    else some []
  let rcs := (events ++ main).map env.logRc
  let rc := rcs.getLastD formatted.chars.length
  -- `if (notify) { if (rc < 0) rc = message_len; }`
  let rc := if rcs.any (0 ≤ ·) && rc < 0 then (mainMessageLen cap c denialMetadata : ℤ) else rc
  return ⟨rc, dmesg, events ++ main, denialMetadata⟩

/-- `LogAudit::log(buf, len)` on a kernel line: `0` without `" audit("` in its first `len`
bytes; else `logPrint("%s %s", type, audit + 1)` when the text before `" audit("` holds
`"type="`, and `logPrint("%s", audit + 1)` otherwise. The NUL it writes over `" audit("`
is put back. -/
def logAuditLog (denialMetadata : List Char) (buf : CStr) (len : ℕ) : Option LogPrintResult :=
  match strstr buf.chars " audit(".toList with
  | none => some ⟨0, none, [], denialMetadata⟩
  | some audit =>
    if len ≤ audit then some ⟨0, none, [], denialMetadata⟩
    else
      -- `*audit = '\0'`: the search for `"type="` sees the text before `" audit("`
      match strstr (buf.take audit).chars "type=".toList with
      | some type =>
        if type < len then
          logPrint cap self env denialMetadata
            ((((buf.take audit).drop type).append (.lit " ")).append (buf.drop (audit + 1)))
        else logPrint cap self env denialMetadata (buf.drop (audit + 1))
      | none => logPrint cap self env denialMetadata (buf.drop (audit + 1))

/-- `log` hands `logPrint` the kernel line unchanged from its first `"type="` before
`" audit("`, or from `"audit("` when there is none: the `" "` of `"%s %s"` puts back the space
the NUL overwrote, and the `type < &buf[len]` test never fails, since `"type="` was searched
for in the text before `" audit("`. -/
theorem logAuditLog_eq_logPrint (dm : List Char) (buf : CStr) (len : ℕ) {a : ℕ}
    (ha : strstr buf.chars " audit(".toList = some a) (hlen : a < len) :
    logAuditLog cap self env dm buf len =
      logPrint cap self env dm
        (buf.drop ((strstr (buf.take a).chars "type=".toList).getD (a + 1))) := by
  obtain ⟨⟨rest, hrest⟩, hale, -⟩ := strstr_eq_some_iff.mp ha
  unfold logAuditLog
  rw [ha]
  simp only [if_neg (not_le.mpr hlen)]
  cases ht : strstr (buf.take a).chars "type=".toList with
  | none => rfl
  | some ty =>
    have hty : ty ≤ a := by
      have := (strstr_eq_some_iff.mp ht).1.length_le
      simp [CStr.take] at this
      omega
    dsimp only
    rw [if_pos (by omega)]
    congr 1
    apply CStr.ext_chars
    have hsp : buf.chars.drop a = ' ' :: buf.chars.drop (a + 1) := by
      rw [← List.drop_drop, ← hrest]; rfl
    simp only [CStr.append, CStr.take, CStr.drop, CStr.lit, Option.getD_some]
    rw [List.append_assoc, show " ".toList ++ buf.chars.drop (a + 1) = buf.chars.drop a by
      rw [hsp]; rfl, ← List.drop_append_of_le_length (by simp; omega), List.take_append_drop]

/-- A kernel line `audit: type=1400 audit(...)`: `logPrint` gets it from `"type="` on. -/
theorem logAuditLog_eq_logPrint_kernel :
    logAuditLog 4068 ⟨-1, true, true, false⟩ appEnv []
        (.lit "audit: type=1400 audit(0.0:1): avc") 34 =
      logPrint 4068 ⟨-1, true, true, false⟩ appEnv [] (.lit "type=1400 audit(0.0:1): avc") :=
  (logAuditLog_eq_logPrint 4068 ⟨-1, true, true, false⟩ appEnv [] _ 34 (a := 16) (by decide)
    (by decide)).trans
    (congrArg _ (CStr.ext_chars (by decide)))

/-! ### What `logPrint` returns

`rc` starts as what `vasprintf` returned and takes the result of each `LogBuffer::Log` call
in turn; when one call succeeded and the last failed it becomes `message_len`. So it ends
negative exactly when the call made records and every `Log` call failed
(`logPrint_rc_neg_iff`), which is what stops `readDmesg` (`Main`). -/

/-- The call made `LogBuffer::Log` calls, and every one of them failed. -/
def LogPrintResult.rejected (r : LogPrintResult) : Bool :=
  !r.calls.isEmpty && r.calls.all fun c => decide (env.logRc c < 0)

theorem LogPrintResult.rejected_iff (r : LogPrintResult) :
    r.rejected env = true ↔ r.calls ≠ [] ∧ ∀ c ∈ r.calls, env.logRc c < 0 := by
  simp [LogPrintResult.rejected, List.isEmpty_iff]

/-- The last lines of `logPrint` on the `rc`s of a nonempty list of calls. -/
theorem finalRc_neg_iff {rcs : List ℤ} (hne : rcs ≠ []) (d : ℤ) (n : ℕ) :
    (if ((rcs.any fun x => decide (0 ≤ x)) && decide (rcs.getLastD d < 0)) = true then (n : ℤ)
      else rcs.getLastD d) < 0 ↔ ∀ x ∈ rcs, x < 0 := by
  by_cases hany : ∃ x ∈ rcs, 0 ≤ x
  · obtain ⟨x, hx, hx0⟩ := hany
    rw [List.any_eq_true.mpr ⟨x, hx, decide_eq_true hx0⟩, Bool.true_and]
    refine iff_of_false ?_ fun hall => absurd (hall x hx) (by omega)
    split_ifs with hl
    · omega
    · simpa using hl
  · push_neg at hany
    have hlast : rcs.getLastD d ∈ rcs := by
      rw [List.getLastD_eq_getLast?, List.getLast?_eq_getLast _ hne]
      exact List.getLast_mem hne
    rw [show (rcs.any fun x => decide (0 ≤ x)) = false by simpa using hany, Bool.false_and,
      if_neg Bool.false_ne_true]
    exact iff_of_true (hany _ hlast) hany

/-- `logPrint` returns a negative value exactly when every record it passed to
`LogBuffer::Log` was refused, and it passed one. -/
theorem logPrint_rc_neg_iff (dm : List Char) (s : CStr) :
    ∀ r ∈ logPrint cap self env dm s, r.rc < 0 ↔ r.rejected env = true := by
  intro r h
  unfold logPrint at h
  obtain ⟨p, -, h⟩ := Option.bind_eq_some.mp h
  obtain ⟨fd, main, events, init⟩ := self
  cases main <;> cases events <;>
    simp only [Bool.not_false, Bool.not_true, Bool.and_self, Bool.and_false, Bool.false_and,
      if_true, if_false, Bool.false_eq_true] at h
  · cases h; simp [LogPrintResult.rejected]
  all_goals
    obtain ⟨_, -, h⟩ := Option.bind_eq_some.mp h
    obtain ⟨bn, -, h⟩ := Option.bind_eq_some.mp h
    obtain ⟨evs, hevs, h⟩ := Option.bind_eq_some.mp h
    obtain ⟨mns, hmns, h⟩ := Option.bind_eq_some.mp h
    obtain rfl := Option.some.inj h
    -- `events` and `main` each add one record when they are on
    have hne : evs ++ mns ≠ [] := by
      first
        | obtain ⟨_, -, rfl⟩ := Option.map_eq_some'.mp hmns; simp
        | obtain ⟨_, -, rfl⟩ := Option.map_eq_some'.mp hevs; simp
    rw [finalRc_neg_iff (by simpa using hne), List.forall_mem_map, LogPrintResult.rejected_iff]
    exact ⟨fun h => ⟨hne, h⟩, fun h => h.2⟩

/-- `log` returns `0` for a line it does not pass on, else what `logPrint` returns. -/
theorem logAuditLog_rc_neg_iff (dm : List Char) (buf : CStr) (len : ℕ) :
    ∀ r ∈ logAuditLog cap self env dm buf len, r.rc < 0 ↔ r.rejected env = true := by
  unfold logAuditLog
  split
  · rintro r ⟨⟩; simp [LogPrintResult.rejected]
  · split_ifs
    · rintro r ⟨⟩; simp [LogPrintResult.rejected]
    · split
      · split_ifs <;> exact logPrint_rc_neg_iff cap self env dm _
      · exact logPrint_rc_neg_iff cap self env dm _

/-- The static `denial_metadata` after a history of calls, from its initial `""`. -/
def runHistory : List CStr → Option (List Char) :=
  List.foldlM (fun dm t => (logPrint cap self env dm t).map (·.denialMetadata)) []

/-- `logPrint` on `s` after the calls of `history`. -/
def logPrintAfter (history : List CStr) (s : CStr) : Option LogPrintResult :=
  (runHistory cap self env history).bind fun dm => logPrint cap self env dm s

/-- With dmesg on, the call recomputes the static before any use: the value it held before
reaches nothing. -/
theorem logPrint_of_dmesg (h : self.dmesgOn = true) (dm₁ dm₂ : List Char) (s : CStr) :
    logPrint cap self env dm₁ s = logPrint cap self env dm₂ s := by
  simp only [logPrint, h, if_true]

/-- With dmesg on, the value the static held before the call reaches nothing the call
passes to `LogBuffer::Log`. -/
theorem logPrint_calls_of_dmesg (h : self.dmesgOn = true) (dm₁ dm₂ : List Char) (s : CStr) :
    (logPrint cap self env dm₁ s).map (·.calls) = (logPrint cap self env dm₂ s).map (·.calls) := by
  rw [logPrint_of_dmesg cap self env h dm₁ dm₂]

/-- `log` passes the same records whatever the static held, with dmesg on; its early returns
pass none. -/
theorem logAuditLog_calls_of_dmesg (h : self.dmesgOn = true) (dm₁ dm₂ : List Char) (buf : CStr)
    (len : ℕ) :
    (logAuditLog cap self env dm₁ buf len).map (·.calls) =
      (logAuditLog cap self env dm₂ buf len).map (·.calls) := by
  unfold logAuditLog
  split
  · rfl
  · split_ifs
    · rfl
    · split
      · split_ifs <;> exact logPrint_calls_of_dmesg cap self env h dm₁ dm₂ _
      · exact logPrint_calls_of_dmesg cap self env h dm₁ dm₂ _

end LogPrint

/-- dmesg off: after a call for pid 5 whose uid is an app's, the static holds `" app=com.x"`,
and a text that ends in `b/<8 digits>` takes it as its own metadata. -/
theorem logPrintAfter_history_leaks :
    (logPrintAfter 4068 ⟨-1, true, true, false⟩ appEnv []
        (.lit "avc: denied comm=\"sh\" tclass=file bug=b/12345678")).map (·.calls) ≠
      (logPrintAfter 4068 ⟨-1, true, true, false⟩ appEnv [.lit "avc: denied pid=5 comm=\"sh\""]
        (.lit "avc: denied comm=\"sh\" tclass=file bug=b/12345678")).map (·.calls) := by
  decide

end SystemLogging.Logd
