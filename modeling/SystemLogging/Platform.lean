import Mathlib

/-!
# Platform values used by liblog and logd

`src/` uses these values by name and declares them in headers outside it. The errno
codes and user ids are the platform's; the log ids follow the ingest datagram layout of
the spec; the priorities are read off `log_characters` in `filestream_logger`, whose
`static_assert` ties that table to `android_LogPriority`.

Machine integers: `size_t` is `BitVec 64`, so the wrap-around of `LogdWrite`'s running
sum is part of the model; `C` conversions into narrower unsigned header fields go through
`truncU`.
-/

namespace SystemLogging

/-- `size_t` on the 64-bit targets. -/
abbrev SizeT := BitVec 64

/-- Conversion of a signed value into a `w`-bit unsigned field, as `C` assignment does. -/
def truncU (w : ℕ) (x : ℤ) : ℕ := (x % 2 ^ w).toNat

/-! ## errno codes (Linux) -/

/-- `EPERM`. -/
def ePerm : ℤ := 1
/-- `EBADF`. -/
def eBadF : ℤ := 9
/-- `EAGAIN`. -/
def eAgain : ℤ := 11
/-- `ENOMEM`. -/
def eNoMem : ℤ := 12
/-- `EINVAL`. -/
def eInval : ℤ := 22
/-- `ETIME`. -/
def eTime : ℤ := 62

/-! ## User ids (`android_filesystem_config.h`) -/

/-- `AID_ROOT`. -/
def aidRoot : ℕ := 0
/-- `AID_SYSTEM`. -/
def aidSystem : ℕ := 1000
/-- `AID_LOG`. -/
def aidLog : ℕ := 1007
/-- `AID_LOGD`. -/
def aidLogd : ℕ := 1036
/-- `AID_SECURITY_LOG_WRITER`. -/
def aidSecurityLogWriter : ℕ := 1091
/-- `AID_APP_START`. -/
def aidAppStart : ℕ := 10000
/-- `AID_APP_END`. -/
def aidAppEnd : ℕ := 19999

/-! ## Log ids -/

/-- Modelled from the spec: `log_id_t` (`android/log.h`) is not under `src/`; the spec's
ingest header numbers the partitions `0=main 1=radio 2=events 3=system 4=crash 5=stats
6=security 7=kernel`. -/
def logIdMain : ℤ := 0
/-- `LOG_ID_RADIO`, see `logIdMain`. -/
def logIdRadio : ℤ := 1
/-- `LOG_ID_EVENTS`, see `logIdMain`. -/
def logIdEvents : ℤ := 2
/-- `LOG_ID_SYSTEM`, see `logIdMain`. -/
def logIdSystem : ℤ := 3
/-- `LOG_ID_CRASH`, see `logIdMain`. -/
def logIdCrash : ℤ := 4
/-- `LOG_ID_STATS`, see `logIdMain`. -/
def logIdStats : ℤ := 5
/-- `LOG_ID_SECURITY`, see `logIdMain`. -/
def logIdSecurity : ℤ := 6
/-- `LOG_ID_KERNEL`, see `logIdMain`. -/
def logIdKernel : ℤ := 7

/-! ## Priorities

`filestream_logger` indexes `log_characters = "XXVDIWEF"` by priority and asserts that the
table has `ANDROID_LOG_SILENT` letters, so priority `p` prints the initial of its name. -/

/-- `log_characters` of `filestream_logger`, with its terminating NUL. -/
def logCharacters : List Char := "XXVDIWEF".toList ++ ['\x00']

/-- `ANDROID_LOG_VERBOSE`, the index of `V` in `log_characters`. -/
def androidLogVerbose : ℤ := 2
/-- `ANDROID_LOG_INFO`, the index of `I`. -/
def androidLogInfo : ℤ := 4
/-- `ANDROID_LOG_WARN`, the index of `W`. -/
def androidLogWarn : ℤ := 5
/-- `ANDROID_LOG_FATAL`, the index of `F`. -/
def androidLogFatal : ℤ := 7
/-- `ANDROID_LOG_SILENT`: `arraysize(log_characters) - 1`, by the `static_assert`. -/
def androidLogSilent : ℤ := logCharacters.length - 1

end SystemLogging
