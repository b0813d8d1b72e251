import SystemLogging.Liblog.LogdWriter
import SystemLogging.CString

/-!
# The security-log gate and the file logger

`src/liblog/logger_write.cpp`. `write_to_log` is the last stop before `LogdWrite`: it refuses
the kernel buffer, checks that binary records carry a 4-byte tag, and lets a
`LOG_ID_SECURITY` record through only for a privileged writer
(`check_log_uid_permissions`) while the security log is enabled.

`filestream_logger` prints a message's priority as a letter of `log_characters`. The clamp
before the lookup handles priorities above `ANDROID_LOG_SILENT` only: `ANDROID_LOG_SILENT`
itself reads the NUL that ends the array (`priorityChar_of_nonneg`), and a negative priority
indexes before it (`filestreamLogger_negative_priority`).
-/

namespace SystemLogging.Liblog

/-! ## `check_log_uid_permissions` -/

/-- What `check_log_uid_permissions` reads: `getuid()`, `geteuid()`, `getgid()`,
`getegid()` and the supplementary groups, the same list for both `getgroups` calls. -/
structure Creds where
  uid : ℕ
  euid : ℕ
  gid : ℕ
  egid : ℕ
  groups : List ℕ
  deriving DecidableEq, Repr

/-- The id test the function repeats for each of the four ids. -/
def Privileged (id : ℕ) : Prop := id = aidSystem ∨ id = aidRoot ∨ id = aidLog

instance (id : ℕ) : Decidable (Privileged id) := inferInstanceAs (Decidable (_ ∨ _))

/-- The `while (num_groups > 0)` loop: scanning `groups[0..n)` from the end, the count
left when it stops at `AID_LOG` or `AID_SECURITY_LOG_WRITER`. -/
def scanGroups (groups : List ℕ) : ℕ → ℕ
  | 0 => 0
  | n + 1 =>
    if groups[n]? = some aidLog ∨ groups[n]? = some aidSecurityLogWriter then n + 1
    else scanGroups groups n

/-- `check_log_uid_permissions()`; `callocOk` is whether `calloc` returned memory. -/
def checkLogUidPermissions (c : Creds) (callocOk : Bool) : ℤ :=
  if Privileged c.uid ∨ Privileged c.euid ∨ Privileged c.gid ∨ Privileged c.egid then 0
  else
    let numGroups := c.groups.length
    if numGroups ≤ 0 then -ePerm
    else if !callocOk then -eNoMem
    else if scanGroups c.groups numGroups ≤ 0 then -ePerm
    else 0

/-- The scan stops short of zero exactly when one of the first `n` groups is a log group. -/
theorem scanGroups_pos_iff (groups : List ℕ) (n : ℕ) :
    0 < scanGroups groups n ↔
      ∃ j < n, groups[j]? = some aidLog ∨ groups[j]? = some aidSecurityLogWriter := by
  induction n with
  | zero => simp [scanGroups]
  | succ n ih =>
    simp only [scanGroups]
    split_ifs with h
    · exact ⟨fun _ => ⟨n, by omega, h⟩, fun _ => by omega⟩
    · rw [ih]
      constructor
      · rintro ⟨j, hj, hg⟩; exact ⟨j, by omega, hg⟩
      · rintro ⟨j, hj, hg⟩
        rcases Nat.lt_succ_iff_lt_or_eq.mp hj with hj | rfl
        · exact ⟨j, hj, hg⟩
        · exact absurd hg h

theorem scanGroups_length_pos_iff (groups : List ℕ) :
    0 < scanGroups groups groups.length ↔ aidLog ∈ groups ∨ aidSecurityLogWriter ∈ groups := by
  rw [scanGroups_pos_iff]
  simp only [List.mem_iff_getElem?]
  constructor
  · rintro ⟨j, -, h | h⟩
    · exact .inl ⟨j, h⟩
    · exact .inr ⟨j, h⟩
  · rintro (⟨j, h⟩ | ⟨j, h⟩) <;>
      exact ⟨j, (List.getElem?_eq_some_iff.mp h).1, by simp [h]⟩

/-- The function returns `0`, `-EPERM` or `-ENOMEM`. -/
theorem checkLogUidPermissions_le (c : Creds) (callocOk : Bool) :
    checkLogUidPermissions c callocOk ≤ 0 := by
  simp only [checkLogUidPermissions, ePerm, eNoMem]
  split_ifs <;> omega

/-! ## `write_to_log` -/

/-- What `write_to_log` does with a record. -/
inductive WriteToLog
  /-- Returns `err` before `LogdWrite`. -/
  | rejected (err : ℤ)
  /-- Calls `LogdWrite` and `PmsgWrite` with timestamp `ts`; returns `LogdWrite`'s result. -/
  | forwarded (ts : Timespec)
  deriving DecidableEq, Repr

/-- What `write_to_log` reads besides its arguments: the credentials, whether `calloc`
succeeds, `__android_log_security()`, and `clock_gettime(CLOCK_REALTIME)`. -/
structure WriteEnv where
  creds : Creds
  callocOk : Bool
  security : Bool
  clock : Timespec
  deriving DecidableEq, Repr

/-- `vec[0].iov_len`; every caller passes at least one `iovec`. -/
def firstLen (vec : List Iovec) : ℕ := (vec.headD ⟨0, 0⟩).iovLen.toNat

/-- `write_to_log(log_id, vec, nr, timestamp)`. -/
def writeToLog (env : WriteEnv) (logId : ℤ) (vec : List Iovec) (timestamp : Option Timespec) :
    WriteToLog :=
  let ts := timestamp.getD env.clock
  if logId = logIdKernel then .rejected (-eInval)
  else if logId = logIdSecurity then
    if firstLen vec < 4 then .rejected (-eInval)
    else
      let ret := checkLogUidPermissions env.creds env.callocOk
      if ret < 0 then .rejected ret
      else if !env.security then .rejected (-ePerm)
      else .forwarded ts
  else if logId = logIdEvents ∨ logId = logIdStats then
    if firstLen vec < 4 then .rejected (-eInval) else .forwarded ts
  else .forwarded ts

/-- With allocation succeeding and one group list, `check_log_uid_permissions` returns `0`
exactly for a privileged uid, euid, gid or egid, or a log group among the supplementary
groups, and a negative errno otherwise; so `write_to_log` hands a `LOG_ID_SECURITY` record to
`LogdWrite` only when that check returned `0`, the security log is on, and the first `iovec`
has at least 4 bytes. -/
theorem checkLogUidPermissions_spec (c : Creds) :
    (checkLogUidPermissions c true = 0 ↔
      (Privileged c.uid ∨ Privileged c.euid ∨ Privileged c.gid ∨ Privileged c.egid) ∨
        (aidLog ∈ c.groups ∨ aidSecurityLogWriter ∈ c.groups)) ∧
    (checkLogUidPermissions c true ≠ 0 → checkLogUidPermissions c true < 0) ∧
    (∀ (env : WriteEnv) (vec : List Iovec) (timestamp : Option Timespec) (ts : Timespec),
      writeToLog env logIdSecurity vec timestamp = .forwarded ts →
        checkLogUidPermissions env.creds env.callocOk = 0 ∧ env.security = true ∧
          4 ≤ firstLen vec) := by
  refine ⟨?_, fun h => lt_of_le_of_ne (checkLogUidPermissions_le c true) h, ?_⟩
  · by_cases hp : Privileged c.uid ∨ Privileged c.euid ∨ Privileged c.gid ∨ Privileged c.egid
    · simp [checkLogUidPermissions, hp]
    · simp only [checkLogUidPermissions, if_neg hp, hp, false_or, ← scanGroups_length_pos_iff,
        ePerm, Bool.not_true, Bool.false_eq_true, if_false]
      split_ifs with hl hs
      · have h0 : c.groups.length = 0 := by omega
        simp [h0, scanGroups]
      · exact ⟨False.elim, fun h => by omega⟩
      · exact ⟨fun _ => by omega, fun _ => rfl⟩
  · intro env vec timestamp ts h
    have hle := checkLogUidPermissions_le env.creds env.callocOk
    simp only [writeToLog, logIdSecurity, logIdKernel] at h
    split_ifs at h
    cases h
    exact ⟨by omega, by simpa using ‹¬(!env.security) = true›, by omega⟩

/-! ## `filestream_logger` and the loggers that reach it -/

/-- `struct __android_log_message`. -/
structure LogMessage where
  bufferId : ℤ
  priority : ℤ
  tag : Option CStr
  file : Option CStr
  line : ℕ
  message : CStr
  deriving DecidableEq, Repr

/-- The index `filestream_logger` reads `log_characters` at: a priority above
`ANDROID_LOG_SILENT` becomes `ANDROID_LOG_FATAL`, any other is used as it is. -/
def priorityIndex (priority : ℤ) : ℤ :=
  if priority > androidLogSilent then androidLogFatal else priority

/-- `log_characters[priority]`; `none` for an index outside the array. -/
def priorityChar (priority : ℤ) : Option Char :=
  if 0 ≤ priorityIndex priority then logCharacters[(priorityIndex priority).toNat]? else none

/-- A stream `filestream_logger` writes to. -/
inductive Stream
  | stderr
  | file
  deriving DecidableEq, Repr

/-- What `filestream_logger` reads besides the message: the formatted local time,
`getpid()` and `GetThreadId()`. -/
structure StreamEnv where
  timestamp : List Char
  pid : ℤ
  tid : ℕ
  deriving DecidableEq, Repr

/-- The fields of the line `filestream_logger` prints, in order: time, pid, tid, priority
letter, tag, `file:line` when the message has a file, and the message. -/
structure FileLine where
  stream : Stream
  timestamp : List Char
  pid : ℤ
  tid : ℕ
  priorityChar : Option Char
  tag : List Char
  fileLine : Option (List Char × ℕ)
  message : List Char
  deriving DecidableEq, Repr

/-- `filestream_logger(log_message, stream)`. -/
def filestreamLogger (env : StreamEnv) (m : LogMessage) (stream : Stream) : FileLine :=
  ⟨stream, env.timestamp, env.pid, env.tid, priorityChar m.priority,
    (m.tag.map CStr.chars).getD " nullptr".toList, m.file.map fun f => (f.chars, m.line),
    m.message.chars⟩

/-- Where `logger_function` points. -/
inductive Logger
  /-- `__android_log_logd_logger`, the default on Android. -/
  | logd
  /-- `__android_log_stderr_logger`. -/
  | stderr
  deriving DecidableEq, Repr

/-- What the loggers read of the process: `LOG_ID_DEFAULT` (declared in `android/log.h`,
not under `src/`), `ro.log.file_logger.path`, the static `stream` of
`log_to_file_if_overridden` once it is set, whether `fopen` of the path succeeds, the text
of `strerror(errno)` then, `__FILE__`, and the default tag. -/
structure LoggerEnv where
  logIdDefault : ℤ
  fileLoggerPath : Option CStr
  stream : Option Stream
  fopenOk : Bool
  strerror : CStr
  fileName : CStr
  defaultTag : CStr
  streamEnv : StreamEnv

/-- Where a message goes. -/
inductive Delivery
  /-- `__android_log_write_log_message` returned early: not a text buffer. -/
  | ignored
  /-- Lines printed by `filestream_logger`. -/
  | lines (ls : List FileLine)
  /-- `write_to_log(buffer_id, vec, 3, timestamp)`, `vec` pointing at the first byte of
  `priority`, at the tag and at the message, each string with its NUL. -/
  | logd (bufferId priority : ℤ) (tag message : CStr)
  deriving DecidableEq, Repr

/-- The warning `log_to_file_if_overridden` prints to `stderr` when `fopen` fails. -/
def fopenWarning (env : LoggerEnv) (path : CStr) : LogMessage :=
  ⟨env.logIdDefault, androidLogWarn, some (.lit "liblog"), some env.fileName, 324,
    ((CStr.lit "Cannot open ").append path).append
      (((CStr.lit " for logging: (").append env.strerror).append (.lit "). Falling back to stderr"))⟩

/-- `log_to_file_if_overridden`: `none` without `ro.log.file_logger.path`, else the lines
it prints. The first call opens the stream, falling back to `stderr` with a warning. -/
def logToFileIfOverridden (env : LoggerEnv) (m : LogMessage) : Option (List FileLine) :=
  env.fileLoggerPath.map fun path =>
    match env.stream with
    | some s => [filestreamLogger env.streamEnv m s]
    | none =>
      if env.fopenOk then [filestreamLogger env.streamEnv m .file]
      else [filestreamLogger env.streamEnv (fopenWarning env path) .stderr,
        filestreamLogger env.streamEnv m .stderr]

/-- `__android_log_write_log_message(log_message)` with `logger_function = logger`. -/
def writeLogMessage (logger : Logger) (env : LoggerEnv) (m : LogMessage) : Delivery :=
  if m.bufferId ≠ env.logIdDefault ∧ m.bufferId ≠ logIdMain ∧ m.bufferId ≠ logIdSystem ∧
      m.bufferId ≠ logIdRadio ∧ m.bufferId ≠ logIdCrash then .ignored
  else
    let tag := m.tag.getD env.defaultTag
    let m := { m with tag := some tag }
    match logger with
    | .stderr => .lines [filestreamLogger env.streamEnv m .stderr]
    | .logd =>
      match logToFileIfOverridden env m with
      | some ls => .lines ls
      | none =>
        .logd (if m.bufferId = env.logIdDefault then logIdMain else m.bufferId) m.priority tag
          m.message

/-- A message of priority `-1` on the `stderr` logger: `filestream_logger` reads
`log_characters[-1]`, before the array. -/
theorem filestreamLogger_negative_priority (env : LoggerEnv) (message : CStr) :
    priorityIndex (-1) = -1 ∧
      writeLogMessage .stderr env ⟨logIdMain, -1, some (.lit "tag"), none, 0, message⟩ =
        .lines [filestreamLogger env.streamEnv
          ⟨logIdMain, -1, some (.lit "tag"), none, 0, message⟩ .stderr] ∧
      priorityChar (-1) = none := by
  refine ⟨by decide, ?_, by decide⟩
  simp [writeLogMessage]

/-- `LOG_BUF_SIZE`. -/
def logBufSize : ℕ := 1024

/-- `vsnprintf(buf, LOG_BUF_SIZE, fmt, ap)` for a format that expands to `formatted`: at most
`LOG_BUF_SIZE - 1` characters of it. -/
def vsnprintfBuf (formatted : CStr) : CStr := formatted.take (logBufSize - 1)

/-- A text writer after its `__android_log_is_loggable(prio, tag, ANDROID_LOG_VERBOSE)` test
(`loggable`): `-EPERM`, or `1` and the delivery of a message for `logId` without a file. -/
def textWrite (logger : Logger) (env : LoggerEnv) (loggable : Bool) (logId prio : ℤ)
    (tag : Option CStr) (msg : CStr) : ℤ × Delivery :=
  if !loggable then (-ePerm, .ignored)
  else (1, writeLogMessage logger env ⟨logId, prio, tag, none, 0, msg⟩)

section TextWriters

variable (logger : Logger) (env : LoggerEnv) (loggable : Bool)

/-- `__android_log_buf_write(log_id, prio, tag, msg)`. -/
def androidLogBufWrite (logId prio : ℤ) (tag : Option CStr) (msg : CStr) : ℤ × Delivery :=
  textWrite logger env loggable logId prio tag msg

/-- `__android_log_write(prio, tag, msg)`: `__android_log_buf_write(LOG_ID_MAIN, ...)`. -/
def androidLogWrite (prio : ℤ) (tag : Option CStr) (msg : CStr) : ℤ × Delivery :=
  androidLogBufWrite logger env loggable logIdMain prio tag msg

/-- `__android_log_print(prio, tag, fmt, ...)`. -/
def androidLogPrint (prio : ℤ) (tag : Option CStr) (formatted : CStr) : ℤ × Delivery :=
  textWrite logger env loggable logIdMain prio tag (vsnprintfBuf formatted)

/-- `__android_log_vprint(prio, tag, fmt, ap)`. -/
def androidLogVprint (prio : ℤ) (tag : Option CStr) (formatted : CStr) : ℤ × Delivery :=
  textWrite logger env loggable logIdMain prio tag (vsnprintfBuf formatted)

/-- `__android_log_buf_print(log_id, prio, tag, fmt, ...)`. -/
def androidLogBufPrint (logId prio : ℤ) (tag : Option CStr) (formatted : CStr) :
    ℤ × Delivery :=
  textWrite logger env loggable logId prio tag (vsnprintfBuf formatted)

end TextWriters

/-- A text writer returns `-EPERM` exactly when the message is not loggable, and `1`
otherwise, whatever the logger does with it. -/
theorem textWrite_fst (logger : Logger) (env : LoggerEnv) (loggable : Bool) (logId prio : ℤ)
    (tag : Option CStr) (msg : CStr) :
    (textWrite logger env loggable logId prio tag msg).1 = if loggable then 1 else -ePerm := by
  cases loggable <;> rfl

/-- What a formatting writer hands on has at most `LOG_BUF_SIZE - 1` characters. -/
theorem vsnprintfBuf_length (formatted : CStr) :
    (vsnprintfBuf formatted).chars.length = min formatted.chars.length (logBufSize - 1) := by
  simp [vsnprintfBuf, CStr.take, min_comm]

/-! ## `__android_log_assert` -/

/-- What `__android_log_assert` does before the `abort()` it ends with: the bytes it writes
to fd 2, what `__android_log_write(ANDROID_LOG_FATAL, tag, buf)` returns and delivers, and
the message `__android_log_call_aborter` gets. -/
structure AssertRun where
  stderr : List Char
  logged : ℤ × Delivery
  abortMessage : CStr

/-- `buf` of `__android_log_assert`: the formatted message, else `"Assertion failed: %s"` of
`cond`, else `"Unspecified assertion failed"`. -/
def assertBuf (cond formatted : Option CStr) : CStr :=
  match formatted, cond with
  | some f, _ => vsnprintfBuf f
  | none, some c => vsnprintfBuf ((CStr.lit "Assertion failed: ").append c)
  | none, none => CStr.lit "Unspecified assertion failed"

/-- `__android_log_assert(cond, tag, fmt, ...)`, with `formatted` what `fmt` expands to and
`none` for a null `fmt` or `cond`. -/
def androidLogAssert (logger : Logger) (env : LoggerEnv) (loggable : Bool)
    (cond tag formatted : Option CStr) : AssertRun :=
  ⟨(assertBuf cond formatted).chars ++ ['\n'],
    androidLogWrite logger env loggable androidLogFatal tag (assertBuf cond formatted),
    assertBuf cond formatted⟩

end SystemLogging.Liblog
