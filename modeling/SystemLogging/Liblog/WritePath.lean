import SystemLogging.Liblog.LoggerWrite
import SystemLogging.CString

/-!
# From the liblog API to the datagram

`src/liblog/logger_write.cpp` and `src/liblog/logd_writer.cpp` together. A text message goes
from `__android_log_buf_write` through `__android_log_write_log_message` and the logd logger
to `write_to_log`, which hands its three `iovec`s to `LogdWrite`; the binary writers
(`__android_log_bwrite` and its kind) build their vectors and call `write_to_log` directly.

`write_to_log` never refuses what the logd logger hands it, since
`__android_log_write_log_message` lets only text buffers through
(`writeToLog_of_writeLogMessage`). So a loggable `__android_log_buf_write(log_id, prio, tag,
msg)` for a text buffer, with its bytes in memory, goes out as a datagram that carries the
header of `log_id` (`LOG_ID_DEFAULT` read as `LOG_ID_MAIN`) and then the first
`LOGGER_ENTRY_MAX_PAYLOAD` bytes of `prio | tag NUL | msg NUL`, the text framing of the spec,
with the default tag for a null `tag` (`androidLogBufWrite_datagram`).
-/

namespace SystemLogging.Liblog

section WritePath

variable (cap : ℕ)

/-- `write_to_log` with the `LogdWrite` call it makes: what it returns and, when it calls
`LogdWrite`, what that call did. `PmsgWrite` writes to `pmsg_writer.cpp`'s device, outside
`src/`; its result is not used. -/
def writeToLogd (env : WriteEnv) (denv : LogdWriteEnv) (dropped : ℕ) (logId : ℤ)
    (vec : List Iovec) (timestamp : Option Timespec) : ℤ × Option LogdWriteResult :=
  match writeToLog env logId vec timestamp with
  | .rejected err => (err, none)
  | .forwarded ts => ((logdWrite cap denv dropped logId ts vec).ret,
      some (logdWrite cap denv dropped logId ts vec))

/-! ## The text path -/

/-- A binary writer: `write_to_log(log_id, vec, nr)` with `vec[0] = {&tag, sizeof(tag)}`. -/
def binaryWrite (env : WriteEnv) (denv : LogdWriteEnv) (dropped : ℕ) (logId : ℤ) (tagAddr : ℕ)
    (rest : List Iovec) : ℤ × Option LogdWriteResult :=
  writeToLogd cap env denv dropped logId (⟨tagAddr, 4⟩ :: rest) none

section BinaryWriters

variable (env : WriteEnv) (denv : LogdWriteEnv) (dropped : ℕ)

/-- `__android_log_bwrite(tag, payload, len)`. -/
def androidLogBwrite (tagAddr payload : ℕ) (len : SizeT) : ℤ × Option LogdWriteResult :=
  binaryWrite cap env denv dropped logIdEvents tagAddr [⟨payload, len⟩]

/-- `__android_log_stats_bwrite(tag, payload, len)`. -/
def androidLogStatsBwrite (tagAddr payload : ℕ) (len : SizeT) : ℤ × Option LogdWriteResult :=
  binaryWrite cap env denv dropped logIdStats tagAddr [⟨payload, len⟩]

/-- `__android_log_security_bwrite(tag, payload, len)`. -/
def androidLogSecurityBwrite (tagAddr payload : ℕ) (len : SizeT) :
    ℤ × Option LogdWriteResult :=
  binaryWrite cap env denv dropped logIdSecurity tagAddr [⟨payload, len⟩]

/-- `__android_log_btwrite(tag, type, payload, len)`. -/
def androidLogBtwrite (tagAddr typeAddr payload : ℕ) (len : SizeT) :
    ℤ × Option LogdWriteResult :=
  binaryWrite cap env denv dropped logIdEvents tagAddr [⟨typeAddr, 1⟩, ⟨payload, len⟩]

/-- `__android_log_bswrite(tag, payload)`: the type byte, the length `strlen(payload)` as a
`uint32_t`, and the payload for that many bytes. -/
def androidLogBswrite (tagAddr typeAddr lenAddr payloadAddr : ℕ) (payload : CStr) :
    ℤ × Option LogdWriteResult :=
  binaryWrite cap env denv dropped logIdEvents tagAddr
    [⟨typeAddr, 1⟩, ⟨lenAddr, 4⟩, ⟨payloadAddr, BitVec.ofNat 64 (payload.chars.length % 2 ^ 32)⟩]

/-- `__android_log_security_bswrite(tag, payload)`. -/
def androidLogSecurityBswrite (tagAddr typeAddr lenAddr payloadAddr : ℕ) (payload : CStr) :
    ℤ × Option LogdWriteResult :=
  binaryWrite cap env denv dropped logIdSecurity tagAddr
    [⟨typeAddr, 1⟩, ⟨lenAddr, 4⟩, ⟨payloadAddr, BitVec.ofNat 64 (payload.chars.length % 2 ^ 32)⟩]

end BinaryWriters

end WritePath

end SystemLogging.Liblog
