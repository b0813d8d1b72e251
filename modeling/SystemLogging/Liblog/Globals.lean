import SystemLogging.Liblog.LoggerWrite

/-!
# liblog's process-wide state

`src/liblog/logger_write.cpp`. A text write reads more than its arguments: the default tag
(`GetDefaultTag()`, which `__android_log_set_default_tag` overwrites), the logger
(`logger_function`, which `__android_log_set_logger` overwrites), and, once
`ro.log.file_logger.path` is set, the function-static `stream` of
`log_to_file_if_overridden`, which the first call that reaches it initialises with `fopen`.
The minimum priority and the aborter are process-wide too, each with its setter.

`Globals` is that state and `globalsStep` one call of the public functions that read or
write it; a write is `writeLogMessage` (`LoggerWrite`) in the environment the state gives it.
`globalsRun` runs a list of calls up to the first that ends the process.

## Shape of the proofs

Each result is a fact about one step, carried over a whole run by induction on the calls:

* once the stream is set no call changes it, and only a call from a state without one can run
  its initialiser (`globalsStep_stream`, `globalsStep_fopen`). So `fopen` runs at most once
  in a run, and every other call prints at most one line: the `Cannot open ...` warning can
  only come with the call that ran `fopen` (`globalsRun_fopen_at_most_once`);
* the default tag after a call is `defaultTagAfter`, the first `LOGGER_ENTRY_MAX_PAYLOAD`
  characters of the last tag set (`globalsStep_defaultTag`), and a message without a tag is
  delivered with it (`writeLogMessage_tag`). So in a run, such a message carries the tag of
  the last `__android_log_set_default_tag` before it, cut, or the program name
  (`globalsRun_untagged_message`).
-/

namespace SystemLogging.Liblog

/-- `__android_aborter_function`: `__android_log_default_aborter`, or a function the program
installed, named by `id`. -/
inductive Aborter
  | default
  | custom (id : ℕ)
  deriving DecidableEq, Repr

/-- What `logger_write.cpp` keeps for the whole process: `*GetDefaultTag()`,
`minimum_log_priority`, `logger_function`, `aborter_function`, and the static `stream` of
`log_to_file_if_overridden` once its initialiser has run. -/
structure Globals where
  defaultTag : CStr
  minimumPriority : ℤ
  logger : Logger
  aborter : Aborter
  stream : Option Stream
  deriving DecidableEq, Repr

/-- The state before the first call: `getprogname()` as the default tag,
`ANDROID_LOG_DEFAULT` (declared in `android/log.h`, outside `src/`), the logd logger and the
default aborter of an Android build, and no stream. -/
def Globals.init (progname : CStr) (androidLogDefault : ℤ) : Globals :=
  ⟨progname, androidLogDefault, .logd, .default, none⟩

/-- What the loggers read that no call changes: `LOG_ID_DEFAULT`, the value of
`ro.log.file_logger.path` that `get_file_logger_path` reads once, whether `fopen` of it
succeeds and the `strerror` text when it fails, and `__FILE__`. -/
structure Process where
  logIdDefault : ℤ
  fileLoggerPath : Option CStr
  fopenOk : Bool
  strerror : CStr
  fileName : CStr

/-- The environment of a write in state `g`, at the time, pid and tid of `streamEnv`. -/
def Globals.loggerEnv (p : Process) (g : Globals) (streamEnv : StreamEnv) : LoggerEnv :=
  ⟨p.logIdDefault, p.fileLoggerPath, g.stream, p.fopenOk, p.strerror, p.fileName, g.defaultTag,
    streamEnv⟩

/-- A call of a public function of `logger_write.cpp` that reads or writes the state. -/
inductive Call
  /-- `__android_log_set_default_tag(tag)`. -/
  | setDefaultTag (tag : CStr)
  /-- `__android_log_set_minimum_priority(priority)`. -/
  | setMinimumPriority (priority : ℤ)
  /-- `__android_log_get_minimum_priority()`. -/
  | getMinimumPriority
  /-- `__android_log_set_logger(logger)`. -/
  | setLogger (logger : Logger)
  /-- `__android_log_set_aborter(aborter)`. -/
  | setAborter (aborter : Aborter)
  /-- `__android_log_call_aborter(abort_message)`. -/
  | callAborter (abortMessage : CStr)
  /-- `__android_log_write_log_message(log_message)`, at the time, pid and tid of
  `streamEnv`. -/
  | writeLogMessage (m : LogMessage) (streamEnv : StreamEnv)
  deriving DecidableEq, Repr

/-- What a call returns, or does that is seen from outside. -/
inductive Reply
  /-- A `void` function returned. -/
  | done
  /-- What a minimum-priority call returns. -/
  | priority (p : ℤ)
  /-- Where the message went, and whether this call ran the initialiser of the static
  `stream`, which calls `fopen`. -/
  | delivered (d : Delivery) (fopen : Bool)
  /-- The installed aborter was called with the message. -/
  | aborterCalled (id : ℕ) (abortMessage : CStr)
  /-- `__android_log_default_aborter`: `android_set_abort_message`, then `abort()`. -/
  | abort (abortMessage : CStr)
  deriving DecidableEq, Repr

/-- Whether the call ran `fopen` for the file logger. -/
def Reply.fopen : Reply → Bool
  | .delivered _ o => o
  | _ => false

/-- Whether the process ended in the call. -/
def Reply.ends : Reply → Bool
  | .abort _ => true
  | _ => false

/-- The lines printed for a message. -/
def Delivery.printed : Delivery → List FileLine
  | .lines ls => ls
  | _ => []

/-- The lines the call printed. -/
def Reply.lines : Reply → List FileLine
  | .delivered d _ => d.printed
  | _ => []

/-- The tag a message went out with: that of its record, or of the last line printed. -/
def Delivery.tag : Delivery → Option (List Char)
  | .ignored => none
  | .lines ls => ls.getLast?.map FileLine.tag
  | .logd _ _ tag _ => some tag.chars

/-- The static `stream` after a call reached `log_to_file_if_overridden`: without a path the
function returns first, and the first call with one initialises it with
`fopen(path, "ae")`, falling back to `stderr`. -/
def streamAfter (env : LoggerEnv) : Option Stream :=
  match env.fileLoggerPath, env.stream with
  | some _, none => some (if env.fopenOk then .file else .stderr)
  | _, s => s

section Run

variable (loggerEntryMaxPayload : ℕ) (p : Process)

/-- One call. A write reaches `log_to_file_if_overridden` when the logger is the logd one and
the buffer passed `__android_log_write_log_message`'s check. -/
def globalsStep (g : Globals) : Call → Globals × Reply
  | .setDefaultTag tag =>
    -- `GetDefaultTag().assign(tag, 0, LOGGER_ENTRY_MAX_PAYLOAD)`
    ({ g with defaultTag := tag.take loggerEntryMaxPayload }, .done)
  | .setMinimumPriority priority =>
    -- `minimum_log_priority.exchange(priority, std::memory_order_relaxed)`
    ({ g with minimumPriority := priority }, .priority g.minimumPriority)
  | .getMinimumPriority => (g, .priority g.minimumPriority)
  | .setLogger logger => ({ g with logger := logger }, .done)
  | .setAborter aborter => ({ g with aborter := aborter }, .done)
  | .callAborter abortMessage =>
    (g, match g.aborter with
      | .default => .abort abortMessage
      | .custom id => .aborterCalled id abortMessage)
  | .writeLogMessage m streamEnv =>
    if g.logger = .logd ∧ writeLogMessage g.logger (g.loggerEnv p streamEnv) m ≠ .ignored then
      ({ g with stream := streamAfter (g.loggerEnv p streamEnv) },
        .delivered (writeLogMessage g.logger (g.loggerEnv p streamEnv) m)
          (g.stream.isNone && p.fileLoggerPath.isSome))
    else (g, .delivered (writeLogMessage g.logger (g.loggerEnv p streamEnv) m) false)

/-- A run of calls from `g`: the state after it and the reply of each call, up to and
including the first call that ends the process. -/
def globalsRun (g : Globals) : List Call → Globals × List Reply
  | [] => (g, [])
  | c :: cs =>
    if (globalsStep loggerEntryMaxPayload p g c).2.ends then
      ((globalsStep loggerEntryMaxPayload p g c).1, [(globalsStep loggerEntryMaxPayload p g c).2])
    else
      ((globalsRun (globalsStep loggerEntryMaxPayload p g c).1 cs).1,
        (globalsStep loggerEntryMaxPayload p g c).2 ::
          (globalsRun (globalsStep loggerEntryMaxPayload p g c).1 cs).2)

theorem globalsRun_cons_of_not_ends {g : Globals} {c : Call}
    (h : (globalsStep loggerEntryMaxPayload p g c).2.ends = false) (cs : List Call) :
    globalsRun loggerEntryMaxPayload p g (c :: cs) =
      ((globalsRun loggerEntryMaxPayload p (globalsStep loggerEntryMaxPayload p g c).1 cs).1,
        (globalsStep loggerEntryMaxPayload p g c).2 ::
          (globalsRun loggerEntryMaxPayload p (globalsStep loggerEntryMaxPayload p g c).1 cs).2) := by
  rw [globalsRun, if_neg (by simp [h])]

/-- The first reply of a run is the reply of its first call. -/
theorem globalsRun_head? (g : Globals) (c : Call) (cs : List Call) :
    (globalsRun loggerEntryMaxPayload p g (c :: cs)).2.head? =
      some (globalsStep loggerEntryMaxPayload p g c).2 := by
  unfold globalsRun
  split_ifs <;> rfl

/-- In a run whose calls all return, the first one did. -/
theorem globalsStep_ends_of_globalsRun {g : Globals} {c : Call} {cs : List Call}
    (h : ∀ r ∈ (globalsRun loggerEntryMaxPayload p g (c :: cs)).2, r.ends = false) :
    (globalsStep loggerEntryMaxPayload p g c).2.ends = false :=
  h _ (List.mem_of_mem_head? (globalsRun_head? loggerEntryMaxPayload p g c cs))

/-- Each reply of a run is the reply of one of its calls, from the state the run had reached. -/
theorem mem_globalsRun {g : Globals} {cs : List Call} {r : Reply}
    (h : r ∈ (globalsRun loggerEntryMaxPayload p g cs).2) :
    ∃ g' c, r = (globalsStep loggerEntryMaxPayload p g' c).2 := by
  induction cs generalizing g with
  | nil => cases h
  | cons c cs ih =>
    unfold globalsRun at h
    split_ifs at h
    · exact ⟨g, c, List.mem_singleton.mp h⟩
    · rcases List.mem_cons.mp h with rfl | h
      · exact ⟨g, c, rfl⟩
      · exact ih h

/-- A run over `pre ++ post` whose calls of `pre` all return is the run over `pre`, then
the run over `post` from where it ended. -/
theorem globalsRun_append {g : Globals} {pre : List Call}
    (hpre : ∀ r ∈ (globalsRun loggerEntryMaxPayload p g pre).2, r.ends = false)
    (post : List Call) :
    globalsRun loggerEntryMaxPayload p g (pre ++ post) =
      ((globalsRun loggerEntryMaxPayload p (globalsRun loggerEntryMaxPayload p g pre).1 post).1,
        (globalsRun loggerEntryMaxPayload p g pre).2 ++
          (globalsRun loggerEntryMaxPayload p (globalsRun loggerEntryMaxPayload p g pre).1 post).2) := by
  induction pre generalizing g with
  | nil => rfl
  | cons c pre ih =>
    have hc := globalsStep_ends_of_globalsRun loggerEntryMaxPayload p hpre
    rw [globalsRun_cons_of_not_ends loggerEntryMaxPayload p hc] at hpre ⊢
    rw [List.cons_append, globalsRun_cons_of_not_ends loggerEntryMaxPayload p hc,
      ih fun r hr => hpre r (List.mem_cons_of_mem _ hr)]
    rfl

/-- A run whose calls all return has one reply per call. -/
theorem globalsRun_length {g : Globals} {cs : List Call}
    (h : ∀ r ∈ (globalsRun loggerEntryMaxPayload p g cs).2, r.ends = false) :
    (globalsRun loggerEntryMaxPayload p g cs).2.length = cs.length := by
  induction cs generalizing g with
  | nil => rfl
  | cons c cs ih =>
    have hc := globalsStep_ends_of_globalsRun loggerEntryMaxPayload p h
    rw [globalsRun_cons_of_not_ends loggerEntryMaxPayload p hc] at h ⊢
    rw [List.length_cons, ih fun r hr => h r (List.mem_cons_of_mem _ hr), List.length_cons]

/-- A write delivers what `writeLogMessage` does in the state's environment. -/
theorem globalsStep_writeLogMessage {g : Globals} {m : LogMessage} {streamEnv : StreamEnv}
    {d : Delivery} {o : Bool}
    (h : (globalsStep loggerEntryMaxPayload p g (.writeLogMessage m streamEnv)).2 =
      .delivered d o) :
    d = writeLogMessage g.logger (g.loggerEnv p streamEnv) m := by
  simp only [globalsStep] at h
  split_ifs at h <;> exact (Reply.delivered.inj h).1.symm

/-! ## The file logger's stream -/

theorem streamAfter_of_some {env : LoggerEnv} {s : Stream} (h : env.stream = some s) :
    streamAfter env = some s := by
  unfold streamAfter
  split <;> simp_all

/-- The calls other than a write leave the stream alone, and print nothing. -/
theorem globalsStep_of_ne_write {g : Globals} {c : Call}
    (hc : ∀ m streamEnv, c ≠ .writeLogMessage m streamEnv) :
    (globalsStep loggerEntryMaxPayload p g c).1.stream = g.stream ∧
      (globalsStep loggerEntryMaxPayload p g c).2.fopen = false ∧
      (globalsStep loggerEntryMaxPayload p g c).2.lines = [] := by
  cases c
  case writeLogMessage m streamEnv => exact absurd rfl (hc m streamEnv)
  case callAborter => cases h : g.aborter <;> simp [globalsStep, h, Reply.fopen, Reply.lines]
  all_goals exact ⟨rfl, rfl, rfl⟩

/-- Once the stream is set, no call changes it. -/
theorem globalsStep_stream {g : Globals} {s : Stream} (h : g.stream = some s) (c : Call) :
    (globalsStep loggerEntryMaxPayload p g c).1.stream = some s := by
  cases c
  case writeLogMessage m streamEnv =>
    simp only [globalsStep]
    split_ifs
    · exact streamAfter_of_some h
    · exact h
  all_goals exact (globalsStep_of_ne_write loggerEntryMaxPayload p (by simp)).1.trans h

/-- Only a call from a state without a stream runs its initialiser, and it leaves one. -/
theorem globalsStep_fopen {g : Globals} {c : Call}
    (h : (globalsStep loggerEntryMaxPayload p g c).2.fopen = true) :
    g.stream = none ∧ (globalsStep loggerEntryMaxPayload p g c).1.stream.isSome := by
  cases c
  case writeLogMessage m streamEnv =>
    simp only [globalsStep] at h ⊢
    split_ifs at h ⊢
    · obtain ⟨hs, hp⟩ := Bool.and_eq_true_iff.mp h
      obtain ⟨path, hpath⟩ := Option.isSome_iff_exists.mp hp
      have hs := Option.isNone_iff_eq_none.mp hs
      exact ⟨hs, by simp [streamAfter, Globals.loggerEnv, hpath, hs]⟩
    · cases h
  all_goals
    rw [(globalsStep_of_ne_write loggerEntryMaxPayload p (by simp)).2.1] at h
    cases h

/-- `writeLogMessage` prints at most one line, unless the logd logger meets a path and no
stream yet: then `stderr`'s fallback may add its warning. -/
theorem writeLogMessage_lines (logger : Logger) (env : LoggerEnv) (m : LogMessage)
    (h : ¬ (logger = .logd ∧ env.stream = none ∧ env.fileLoggerPath.isSome)) :
    (writeLogMessage logger env m).printed.length ≤ 1 := by
  unfold writeLogMessage
  split_ifs
  · simp [Delivery.printed]
  · cases logger
    · unfold logToFileIfOverridden
      cases hpath : env.fileLoggerPath
      · simp [Delivery.printed]
      · cases hs : env.stream
        · simp [hpath, hs] at h
        · simp [Delivery.printed]
    · simp [Delivery.printed]

/-- A call that does not run `fopen` prints at most one line. -/
theorem globalsStep_lines {g : Globals} {c : Call}
    (h : (globalsStep loggerEntryMaxPayload p g c).2.fopen = false) :
    (globalsStep loggerEntryMaxPayload p g c).2.lines.length ≤ 1 := by
  cases c
  case writeLogMessage m streamEnv =>
    simp only [globalsStep] at h ⊢
    split_ifs at h ⊢ with hl
    · refine writeLogMessage_lines _ _ _ fun ⟨_, hs, hp⟩ => ?_
      change g.stream = none at hs
      change p.fileLoggerPath.isSome = true at hp
      simp [Reply.fopen, hs, hp] at h
    · by_cases hd : writeLogMessage g.logger (g.loggerEnv p streamEnv) m = .ignored
      · simp [Reply.lines, hd, Delivery.printed]
      · exact writeLogMessage_lines _ _ _ fun ⟨hlog, _⟩ => hl ⟨hlog, hd⟩
  all_goals exact (congrArg List.length
    (globalsStep_of_ne_write loggerEntryMaxPayload p (by simp)).2.2).trans_le (Nat.zero_le _)

/-- The runs from a state with a stream never run `fopen`. -/
theorem globalsRun_fopen_of_isSome {g : Globals} (h : g.stream.isSome) (cs : List Call) :
    (globalsRun loggerEntryMaxPayload p g cs).2.countP Reply.fopen = 0 := by
  induction cs generalizing g with
  | nil => rfl
  | cons c cs ih =>
    obtain ⟨s, hs⟩ := Option.isSome_iff_exists.mp h
    have hc : (globalsStep loggerEntryMaxPayload p g c).2.fopen = false := by
      by_contra hc
      simp [(globalsStep_fopen loggerEntryMaxPayload p (Bool.not_eq_false _ ▸ hc)).1] at hs
    unfold globalsRun
    split_ifs
    · simp [hc]
    · dsimp only
      simp only [List.countP_cons, hc, Bool.false_eq_true, if_false, Nat.add_zero]
      exact ih (by simp [globalsStep_stream loggerEntryMaxPayload p hs])

/-- `fopen` of `ro.log.file_logger.path` runs at most once in a run, and every other call
prints at most one line: the `Cannot open ... Falling back to stderr` warning only comes with
the call that ran `fopen`. -/
theorem globalsRun_fopen_at_most_once (g : Globals) (cs : List Call) :
    (globalsRun loggerEntryMaxPayload p g cs).2.countP Reply.fopen ≤ 1 ∧
      ∀ r ∈ (globalsRun loggerEntryMaxPayload p g cs).2, r.fopen = false → r.lines.length ≤ 1 := by
  refine ⟨?_, fun r hr hf => ?_⟩
  · induction cs generalizing g with
    | nil => exact Nat.zero_le _
    | cons c cs ih =>
      unfold globalsRun
      split_ifs
      · exact (List.countP_le_length _).trans (by simp)
      · dsimp only
        by_cases hc : (globalsStep loggerEntryMaxPayload p g c).2.fopen = true
        · rw [List.countP_cons_of_pos _ _ hc, globalsRun_fopen_of_isSome loggerEntryMaxPayload p
            (globalsStep_fopen loggerEntryMaxPayload p hc).2]
        · rw [List.countP_cons_of_neg _ _ hc]
          exact ih _
  · obtain ⟨g', c, rfl⟩ := mem_globalsRun loggerEntryMaxPayload p hr
    exact globalsStep_lines loggerEntryMaxPayload p hf

/-! ## The default tag -/

/-- The default tag after a call: `__android_log_set_default_tag(tag)` keeps the first
`LOGGER_ENTRY_MAX_PAYLOAD` characters of `tag`; no other call changes it. -/
def defaultTagAfter (tag : CStr) : Call → CStr
  | .setDefaultTag t => t.take loggerEntryMaxPayload
  | _ => tag

theorem globalsStep_defaultTag (g : Globals) (c : Call) :
    (globalsStep loggerEntryMaxPayload p g c).1.defaultTag =
      defaultTagAfter loggerEntryMaxPayload g.defaultTag c := by
  cases c
  case writeLogMessage m streamEnv =>
    simp only [globalsStep]
    split_ifs <;> rfl
  all_goals rfl

theorem globalsRun_defaultTag {g : Globals} {cs : List Call}
    (h : ∀ r ∈ (globalsRun loggerEntryMaxPayload p g cs).2, r.ends = false) :
    (globalsRun loggerEntryMaxPayload p g cs).1.defaultTag =
      cs.foldl (defaultTagAfter loggerEntryMaxPayload) g.defaultTag := by
  induction cs generalizing g with
  | nil => rfl
  | cons c cs ih =>
    have hc := globalsStep_ends_of_globalsRun loggerEntryMaxPayload p h
    rw [globalsRun_cons_of_not_ends loggerEntryMaxPayload p hc] at h ⊢
    rw [ih fun r hr => h r (List.mem_cons_of_mem _ hr), List.foldl_cons,
      globalsStep_defaultTag]

end Run

/-- A message without a tag that is not dropped goes out with the default tag, to logd or in
the line that prints it. -/
theorem writeLogMessage_tag (logger : Logger) (env : LoggerEnv) {m : LogMessage}
    (hm : m.tag = none) (hd : writeLogMessage logger env m ≠ .ignored) :
    (writeLogMessage logger env m).tag = some env.defaultTag.chars := by
  unfold writeLogMessage at hd ⊢
  split_ifs at hd ⊢
  · exact absurd rfl hd
  cases logger
  · unfold logToFileIfOverridden
    cases env.fileLoggerPath
    · simp [Delivery.tag, hm]
    · cases env.stream
      · cases env.fopenOk <;> simp [Delivery.tag, filestreamLogger, hm]
      · simp [Delivery.tag, filestreamLogger, hm]
  · simp [Delivery.tag, filestreamLogger, hm]

/-- In any run, a message written without a tag that is not dropped goes out with the tag of
the last `__android_log_set_default_tag` before it, cut to `LOGGER_ENTRY_MAX_PAYLOAD`
characters, or with the program name when there was none; whatever logger, priority or
aborter the run set. -/
theorem globalsRun_untagged_message (loggerEntryMaxPayload : ℕ) (p : Process)
    (progname : CStr) (androidLogDefault : ℤ) (pre post : List Call) {m : LogMessage}
    (streamEnv : StreamEnv) (hm : m.tag = none)
    (hpre : ∀ r ∈ (globalsRun loggerEntryMaxPayload p (Globals.init progname androidLogDefault)
      pre).2, r.ends = false)
    {d : Delivery} {o : Bool}
    (hd : (globalsRun loggerEntryMaxPayload p (Globals.init progname androidLogDefault)
      (pre ++ .writeLogMessage m streamEnv :: post)).2[pre.length]? = some (.delivered d o))
    (hign : d ≠ .ignored) :
    d.tag = some (pre.foldl (defaultTagAfter loggerEntryMaxPayload) progname).chars := by
  rw [globalsRun_append loggerEntryMaxPayload p hpre, List.getElem?_append_right
    (globalsRun_length loggerEntryMaxPayload p hpre).le, globalsRun_length loggerEntryMaxPayload p
    hpre, Nat.sub_self, ← List.head?_eq_getElem?, globalsRun_head?, Option.some_inj] at hd
  rw [globalsStep_writeLogMessage loggerEntryMaxPayload p hd] at hign ⊢
  rw [writeLogMessage_tag _ _ hm hign]
  simp only [Globals.loggerEnv]
  rw [globalsRun_defaultTag loggerEntryMaxPayload p hpre]
  rfl

/-- `__android_log_set_default_tag("mytag")`, then `ALOGI("hi")` without a tag. -/
theorem globalsRun_untagged_message_set_tag :
    (Delivery.logd logIdMain androidLogInfo (.lit "mytag") (.lit "hi")).tag =
      some ([Call.setDefaultTag (.lit "mytag")].foldl (defaultTagAfter 4068) (.lit "app")).chars :=
  @globalsRun_untagged_message 4068 ⟨2147483647, none, true, .lit "", .lit "logger_write.cpp"⟩
    (.lit "app") 1 [.setDefaultTag (.lit "mytag")] [] ⟨logIdMain, androidLogInfo, none, none, 0,
      .lit "hi"⟩ ⟨[], 1, 2⟩ rfl (by decide) _ false (by decide) (by decide)

end SystemLogging.Liblog
