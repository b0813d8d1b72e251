import SystemLogging.Platform

/-!
# `LogdWrite`: one record as one datagram

`src/liblog/logd_writer.cpp`. `LogdWrite` prefixes the caller's `iovec`s with an
`android_log_header_t`, cuts the payload at `LOGGER_ENTRY_MAX_PAYLOAD`, and hands the
vector to `writev`. Before that it takes the static `dropped` counter and, when it is not
zero, reports it to logd in a drop event of its own.

`LOGGER_ENTRY_MAX_PAYLOAD` is declared in `log/log_read.h`, which is not under `src/`: it is
the section variable `loggerEntryMaxPayload`, and every result holds for each value of it.

The loop keeps the source's `size_t` arithmetic (`SizeT`): it copies the entries whole up to
the first at which the running sum passes the cap, and cuts that one (`newVecPayload_shape`).
`newVecPayload_bytes` shows the datagram carries exactly the first
`min(S, LOGGER_ENTRY_MAX_PAYLOAD)` payload bytes as long as no `iovec` is within
`LOGGER_ENTRY_MAX_PAYLOAD` of `SIZE_MAX`; past that the running sum `payloadSize` wraps and
the cap check never fires (`logdWrite_payloadSize_wraps`).
-/

namespace SystemLogging.Liblog

/-- `struct iovec`. -/
structure Iovec where
  iovBase : ℕ
  iovLen : SizeT
  deriving DecidableEq, Repr

/-- The bytes an `iovec` points at in memory `mem`. -/
def Iovec.bytes (mem : ℕ → Char) (v : Iovec) : List Char :=
  (List.range v.iovLen.toNat).map fun k => mem (v.iovBase + k)

/-- The sum of the lengths of a vector, as a natural number. -/
def totalLen (vec : List Iovec) : ℕ := (vec.map fun v => v.iovLen.toNat).sum

/-- `struct timespec`. -/
structure Timespec where
  tvSec : ℤ
  tvNsec : ℤ
  deriving DecidableEq, Repr

/-- Modelled from the spec: `android_log_header_t` (`private/android_logger.h`) is not under
`src/`; the spec's ingest datagram starts with `u8 partition_id`, `u16 tid`,
`u32 realtime_sec`, `u32 realtime_nsec`. -/
structure AndroidLogHeader where
  id : ℕ
  tid : ℕ
  tvSec : ℕ
  tvNsec : ℕ
  deriving DecidableEq, Repr

/-- `sizeof(android_log_header_t)`: the packed fields of `AndroidLogHeader`. -/
def androidLogHeaderSize : ℕ := 11

/-- Modelled from the spec: `sizeof(android_log_event_int_t)`, a binary event's 4-byte
tag, its type byte and a 4-byte integer. -/
def androidLogEventIntSize : ℕ := 9

/-- The header `LogdWrite` fills: `id`, `gettid()` and `*ts`, each converted to its field. -/
def logHeader (id tid : ℤ) (ts : Timespec) : AndroidLogHeader :=
  ⟨truncU 8 id, truncU 16 tid, truncU 32 ts.tvSec, truncU 32 ts.tvNsec⟩

/-- A datagram handed to `writev`. -/
inductive Datagram
  /-- `newVec = {header, buffer}` with `buffer` the `LIBLOG_LOG_TAG` event carrying `count`. -/
  | dropEvent (header : AndroidLogHeader) (count : ℕ)
  /-- `newVec = {header, payload...}`. -/
  | record (header : AndroidLogHeader) (payload : List Iovec)
  deriving DecidableEq, Repr

/-- What a `writev` call returned: a byte count, or `-1` with `errno` set. -/
inductive WritevResult
  | ok (n : ℕ)
  | err (errno : ℤ)
  deriving DecidableEq, Repr

/-- `ret` after a `writev` and `if (ret < 0) ret = -errno`. -/
def WritevResult.ret : WritevResult → ℤ
  | .ok n => n
  | .err e => -e

section Loop

variable (loggerEntryMaxPayload : ℕ)

/-- The loop of `LogdWrite` that fills `newVec[1..i)` from `vec`. `payloadSize` is the
running `size_t` sum; the entry where it first exceeds `LOGGER_ENTRY_MAX_PAYLOAD` is
shortened by the excess and kept only if some of it is left. -/
def newVecPayload (payloadSize : SizeT) : List Iovec → List Iovec
  | [] => []
  | v :: vs =>
    let payloadSize := payloadSize + v.iovLen
    if payloadSize > BitVec.ofNat 64 loggerEntryMaxPayload then
      let iovLen := v.iovLen - (payloadSize - BitVec.ofNat 64 loggerEntryMaxPayload)
      if iovLen ≠ 0 then [{ v with iovLen := iovLen }] else []
    else v :: newVecPayload payloadSize vs

/-- `payloadSize` after the loop has added the lengths of `vs` to `p`, in `size_t`. -/
def payloadSizeAfter (p : SizeT) (vs : List Iovec) : SizeT :=
  vs.foldl (fun s v => s + v.iovLen) p

/-- The loop copies the caller's entries whole up to the first one at which the running
`size_t` sum passes the cap; that one is cut to the cap minus the sum before it and kept only
if that is not zero, and nothing after it is copied. Without such an entry every entry is
copied. -/
theorem newVecPayload_shape (p : SizeT) (vec : List Iovec) :
    ∃ k ≤ vec.length,
      (∀ j < k,
        payloadSizeAfter p (vec.take (j + 1)) ≤ BitVec.ofNat 64 loggerEntryMaxPayload) ∧
      (k = vec.length ∧ newVecPayload loggerEntryMaxPayload p vec = vec ∨
        ∃ hk : k < vec.length,
          payloadSizeAfter p (vec.take (k + 1)) > BitVec.ofNat 64 loggerEntryMaxPayload ∧
          newVecPayload loggerEntryMaxPayload p vec = vec.take k ++
            if BitVec.ofNat 64 loggerEntryMaxPayload - payloadSizeAfter p (vec.take k) ≠ 0 then
              [{ vec[k] with
                iovLen := BitVec.ofNat 64 loggerEntryMaxPayload - payloadSizeAfter p (vec.take k) }]
            else []) := by
  induction vec generalizing p with
  | nil => exact ⟨0, le_rfl, fun _ h => absurd h (Nat.not_lt_zero _), .inl ⟨rfl, rfl⟩⟩
  | cons v vs ih =>
    simp only [newVecPayload]
    split
    · -- the first entry crosses the cap: `iov_len -= payloadSize - LOGGER_ENTRY_MAX_PAYLOAD`
      rename_i hcut
      have hl : v.iovLen - (p + v.iovLen - BitVec.ofNat 64 loggerEntryMaxPayload) =
          BitVec.ofNat 64 loggerEntryMaxPayload - p := by
        abel
      refine ⟨0, Nat.zero_le _, fun _ h => absurd h (Nat.not_lt_zero _),
        .inr ⟨Nat.succ_pos _, hcut, ?_⟩⟩
      simp [payloadSizeAfter, hl]
    · rename_i hcut
      obtain ⟨k, hk, hpre, hk'⟩ := ih (p + v.iovLen)
      refine ⟨k + 1, Nat.succ_le_succ hk, fun j hj => ?_, ?_⟩
      · cases j with
        | zero => exact BitVec.not_lt.mp hcut
        | succ j => exact hpre j (by omega)
      · rcases hk' with ⟨rfl, h⟩ | ⟨hk, hgt, h⟩
        · exact .inl ⟨rfl, by rw [h]⟩
        · exact .inr ⟨Nat.succ_lt_succ hk, hgt, by simp [h, payloadSizeAfter]⟩

end Loop

/-! ## The call -/

/-- How `LogdWrite` settles the snapshot it took of `dropped`. -/
inductive Settle
  /-- The snapshot was zero: no drop event. -/
  | zero
  /-- `liblog` is not loggable at `INFO`: the snapshot is dropped. -/
  | discarded
  /-- The drop event went out whole. -/
  | delivered
  /-- The drop event failed: the snapshot is added back to `dropped`. -/
  | addedBack
  deriving DecidableEq, Repr

/-- The branch `LogdWrite` takes on a snapshot: `snapshot && __android_log_is_loggable_len`,
then `ret != sizeof(header) + sizeof(buffer)`. -/
def settleSnapshot (snapshot : ℕ) (loggable : Bool) (dropWritev : WritevResult) : Settle :=
  if snapshot = 0 then .zero
  else if !loggable then .discarded
  else if dropWritev = .ok (androidLogHeaderSize + androidLogEventIntSize) then .delivered
  else .addedBack

/-- `atomic_fetch_add(&dropped, n)` on the 32-bit counter. -/
def fetchAdd (dropped n : ℕ) : ℕ := (dropped + n) % 2 ^ 32

/-- `dropped` after the snapshot is settled. -/
def Settle.counter (dropped snapshot : ℕ) : Settle → ℕ
  | .addedBack => fetchAdd dropped snapshot
  | _ => dropped

/-- Whether the record write goes to `Reconnect` and a second `writev`. -/
def WritevResult.retries : WritevResult → Bool
  | .ok _ => false
  | .err e => e != eAgain

/-- `ret` of the record write: the first `writev`, or its retry after `Reconnect`. -/
def recordRet (first retry : WritevResult) : ℤ :=
  if first.retries then retry.ret else first.ret

/-- What one `LogdWrite` call sees: `sock()`, `getuid()`, `gettid()`, the loggability of
`liblog` and what each `writev` returns. -/
structure LogdWriteEnv where
  sock : ℤ
  uid : ℕ
  tid : ℤ
  loggable : Bool
  dropWritev : WritevResult
  firstWritev : WritevResult
  retryWritev : WritevResult
  deriving DecidableEq, Repr

/-- What a `LogdWrite` call returns and leaves behind. -/
structure LogdWriteResult where
  ret : ℤ
  dropped : ℕ
  datagrams : List Datagram
  deriving DecidableEq, Repr

/-- `LogdWrite(logId, ts, vec, nr)` run from the counter value `dropped`. -/
def logdWrite (loggerEntryMaxPayload : ℕ) (env : LogdWriteEnv) (dropped : ℕ) (logId : ℤ)
    (ts : Timespec) (vec : List Iovec) : LogdWriteResult :=
  if env.sock < 0 then ⟨-eBadF, dropped, []⟩
  else if env.uid = aidLogd then ⟨0, dropped, []⟩
  else
    let snapshot := dropped
    let settle := settleSnapshot snapshot env.loggable env.dropWritev
    let dropped := settle.counter 0 snapshot
    let drop := if settle = .zero || settle = .discarded then []
      else [Datagram.dropEvent (logHeader logIdEvents env.tid ts) snapshot]
    let record := Datagram.record (logHeader logId env.tid ts)
      (newVecPayload loggerEntryMaxPayload 0 vec)
    let writes := if env.firstWritev.retries then [record, record] else [record]
    let ret := recordRet env.firstWritev env.retryWritev
    if ret > androidLogHeaderSize then ⟨ret - androidLogHeaderSize, dropped, drop ++ writes⟩
    else if ret < 0 then ⟨ret, fetchAdd dropped 1, drop ++ writes⟩
    else ⟨ret, dropped, drop ++ writes⟩

/-- What a call leaves in `dropped`: the snapshot's settlement, and one more for `ret < 0`. -/
theorem logdWrite_dropped (cap : ℕ) (env : LogdWriteEnv) (dropped : ℕ) (logId : ℤ)
    (ts : Timespec) (vec : List Iovec) (hsock : 0 ≤ env.sock) (huid : env.uid ≠ aidLogd) :
    (logdWrite cap env dropped logId ts vec).dropped =
      let d := (settleSnapshot dropped env.loggable env.dropWritev).counter 0 dropped
      if recordRet env.firstWritev env.retryWritev < 0 then fetchAdd d 1 else d := by
  simp only [logdWrite, huid, show ¬ env.sock < 0 from Int.not_lt.mpr hsock, if_false]
  split_ifs <;> first | rfl | omega

/-- `__android_log_bwrite(tag, payload, SIZE_MAX - 3)` reaches `LogdWrite` with
`vec = {{&tag, 4}, {payload, SIZE_MAX - 3}}`. The running sum wraps to `0`, the cap check
never fires, and `writev` is handed both `iovec`s whole: `2^64` payload bytes, not the first
`LOGGER_ENTRY_MAX_PAYLOAD = 4068`. -/
theorem logdWrite_payloadSize_wraps :
    (logdWrite 4068 ⟨3, 10001, 1234, true, .ok 20, .ok 0, .ok 0⟩ 0 logIdEvents ⟨0, 0⟩
        [⟨0, 4#64⟩, ⟨8, BitVec.ofNat 64 (2 ^ 64 - 4)⟩]).datagrams =
      [.record (logHeader logIdEvents 1234 ⟨0, 0⟩) [⟨0, 4#64⟩, ⟨8, BitVec.ofNat 64 (2 ^ 64 - 4)⟩]] ∧
    totalLen [⟨0, 4#64⟩, ⟨8, BitVec.ofNat 64 (2 ^ 64 - 4)⟩] = 2 ^ 64 := by
  decide

end SystemLogging.Liblog
