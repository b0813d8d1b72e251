import Mathlib

/-!
# `logpersist.cat`, `.start` and `.stop`

`src/unnamed/part_000`, the shell script behind the three commands. It parses its options,
checks them, and drives the `logcatd` service through system properties: `.start` sets
`persist.logd.logpersistd` to `logcatd`, `.stop` sets `logd.logpersistd` to `stop` or
`clear`, and `.cat` only reads the log files.

Shell words are lists of characters. A run is what can be seen from outside: the lines it
prints, the properties it sets, the waits on the service, and its exit status, none for a run
that spins forever in a `while [ "clear" = ... ]` loop. What the script learns from other
programs (`getprop` after it waits, `logcat -b ... -g`, `test`'s integers, `pgrep`, `am`)
comes from `ShellEnv`; a wait there ends only once the service has left `clear`.

The main results: the checks accept exactly the parsed options with `256` and `all` unset
whose size is unset or in `(0, 2048]` and whose buffer is unset or known to `logcat`
(`checkOpts_eq_ok_iff`); `.start` exits only at its conflict check (`startBranch_exit`), and a
run of it that ends sets the property that starts the service (`start_sets_service`); `.cat`
sets no property (`cat_no_setprop`); `.stop` leaves the parameter properties empty
(`stop_setprops`). The exit status of `.start` never comes from `pgrep`, whatever its comment
says (`start_exit_status`).
-/

namespace SystemLogging.Logpersist

/-- A shell word. -/
abbrev Word := List Char

/-- System properties as `getprop` reads them: `""` for one that is not set. -/
abbrev Props := Word → Word

/-- `setprop name value`. -/
def setprop (props : Props) (name value : Word) : Props := Function.update props name value

/-! ## The script's names -/

/-- `property`. -/
def property : Word := "persist.logd.logpersistd".toList
/-- `${property#persist.}`. -/
def runtimeProperty : Word := "logd.logpersistd".toList
/-- `log_tag_property`. -/
def logTagProperty : Word := "persist.log.tag".toList
/-- `service`. -/
def service : Word := "logcatd".toList
/-- `size_default`. -/
def sizeDefault : Word := "256".toList
/-- `buffer_default`. -/
def bufferDefault : Word := "all".toList
/-- `${default_size}` and `${default_buffer}`: the script never assigns these (it assigns
`size_default` and `buffer_default`), so they expand to `""`. -/
def unassigned : Word := []

/-- `${p}.suffix` for a property `p`. -/
def dotted (p suffix : Word) : Word := p ++ '.' :: suffix

/-- `${progname%.*}`: the name without its last `.` and what follows. -/
def stripExt (w : Word) : Word :=
  if '.' ∈ w then (w.reverse.drop (w.reverse.indexOf '.' + 1)).reverse else w

/-- `$*` as `echo` prints it: the words with single spaces between them. -/
def unwords (ws : List Word) : Word := [' '].intercalate ws

/-! ## What a run shows -/

/-- One thing a run does that is seen from outside. -/
inductive Effect
  /-- `echo` to standard output. -/
  | out (line : Word)
  /-- `echo ... >&2`. -/
  | err (line : Word)
  /-- `setprop name value`. -/
  | setprop (name value : Word)
  /-- `while [ "clear" = "`getprop logd.logpersistd`" ]; do continue; done`, entered. -/
  | waitClear
  /-- The `su logd ls | ... | su logd xargs cat` pipeline of `.cat`. -/
  | catLogs
  /-- `sleep 1`. -/
  | sleep
  /-- `pgrep -u logd logcat`, which prints the pids it finds; `found` is whether it finds
  any, its exit status. -/
  | pgrep (found : Bool)
  /-- `am force-stop com.android.settings`. -/
  | forceStopSettings
  deriving DecidableEq, Repr

/-- What the script learns from other programs. -/
structure ShellEnv where
  /-- The integer `test` reads from a word for `-lt` and `-ge`; `none` when it cannot. -/
  testInt : Word → Option ℤ
  /-- Whether `logcat -b <buffer> -g` succeeds. -/
  logcatAccepts : Word → Bool
  /-- The properties when a `while [ "clear" = "`getprop logd.logpersistd`" ]` loop entered
  with `props` ends; `none` when `logd.logpersistd` stays `clear` and the loop spins forever. -/
  afterWait : Props → Option Props
  /-- The loop ends only once `logd.logpersistd` is no longer `clear`. -/
  afterWait_ends : ∀ props props', afterWait props = some props' →
    props' runtimeProperty ≠ "clear".toList
  /-- The properties after `sleep 1`. -/
  afterSleep : Props → Props
  /-- Whether `pgrep -u logd logcat` finds the service. -/
  pgrepFound : Bool
  /-- Whether `command -v am` finds `am`. -/
  amFound : Bool
  /-- The exit status of `am force-stop com.android.settings`. -/
  amStatus : ℕ
  /-- The status the shell exits with when `shift` has nothing to shift. -/
  shiftErrorStatus : ℕ

/-- A run: its effects in order, its exit status (`none` for a run that never ends, in a
`while` loop that spins forever), and the properties at its end. -/
structure Run where
  effects : List Effect
  status : Option ℕ
  props : Props

/-- How a branch of the `case` ends. -/
inductive Ending
  /-- `exit code` inside the branch. -/
  | exit (code : ℕ)
  /-- On to the last `if`. -/
  | next
  /-- In a `while` loop that never ends. -/
  | hang
  deriving DecidableEq, Repr

/-- The properties a list of effects sets, applied in order. -/
def applySetprops (props : Props) : List Effect → Props
  | [] => props
  | .setprop n v :: es => applySetprops (setprop props n v) es
  | _ :: es => applySetprops props es

/-! ## Options -/

/-- `size`, `buffer` and `clear` as the option loop leaves them. -/
structure Opts where
  size : Word
  buffer : Word
  clear : Bool
  deriving DecidableEq, Repr

/-- How the option loop ends. -/
inductive Parsed
  /-- All options read. -/
  | ok (o : Opts)
  /-- `-h` or `--help`: the usage, `exit 0`. -/
  | help
  /-- Any other word: the usage, `ERROR: bad argument` with the words left, `exit 1`. -/
  | bad (rest : List Word)
  /-- `-n`, `--size`, `--rotate-count`, `-b` or `--buffer` as the last word: the second
  `shift` has nothing to shift, an error of a special built-in, which ends the shell. -/
  | shiftPastEnd
  deriving DecidableEq, Repr

/-- `while [ ${#} -gt 0 ]; do case ${1} in ... esac; shift; done`. -/
def parseArgs (o : Opts) : List Word → Parsed
  | [] => .ok o
  | a :: rest =>
    if a = "-c".toList ∨ a = "--clear".toList then parseArgs { o with clear := true } rest
    else if "--size=".toList.isPrefixOf a then parseArgs { o with size := a.drop 7 } rest
    else if "--rotate-count=".toList.isPrefixOf a then
      parseArgs { o with size := a.drop 15 } rest
    else if a = "-n".toList ∨ a = "--size".toList ∨ a = "--rotate-count".toList then
      match rest with
      | [] => .shiftPastEnd
      | b :: rest => parseArgs { o with size := b } rest
    else if "--buffer=".toList.isPrefixOf a then parseArgs { o with buffer := a.drop 9 } rest
    else if a = "-b".toList ∨ a = "--buffer".toList then
      match rest with
      | [] => .shiftPastEnd
      | b :: rest => parseArgs { o with buffer := b } rest
    else if a = "-h".toList ∨ a = "--help".toList then .help
    else .bad (a :: rest)

/-- The usage `-h` prints, for `${progname%.*}` = `name`; the second line's indent is the
name with each printable character turned into a space. -/
def usage (name : Word) : List Effect :=
  [.out (name ++ ".cat             - dump current ".toList ++ service ++ " logs".toList),
    .out (name ++ ".start [--size=<size_in_kb>] [--buffer=<buffers>] [--clear]".toList),
    .out (name.map (fun c => if ' ' ≤ c ∧ c ≤ '~' then ' ' else c) ++
      "                 - start ".toList ++ service ++ " service".toList),
    .out (name ++ ".stop [--clear]  - stop ".toList ++ service ++ " service".toList)]

/-- The size check: `[ 0 -lt "${size}" ] && [ 2048 -ge "${size}" ]`. -/
def sizeValid (env : ShellEnv) (size : Word) : Bool :=
  match env.testInt size with
  | some n => decide (0 < n ∧ n ≤ 2048)
  | none => false

/-- After the loop: the default size and buffer become unset, and what is left is checked.
`Except` carries the error line and `exit 1`. -/
def checkOpts (env : ShellEnv) (o : Opts) : Except Word Opts :=
  let size := if o.size = [] ∨ o.size = sizeDefault then [] else o.size
  if size ≠ [] ∧ !sizeValid env size then .error ("ERROR: Invalid --size ".toList ++ size)
  else
    let buffer := if o.buffer = [] ∨ o.buffer = bufferDefault then [] else o.buffer
    if buffer ≠ [] ∧ !env.logcatAccepts buffer then
      .error ("ERROR: Invalid --buffer ".toList ++ buffer)
    else .ok { o with size := size, buffer := buffer }

/-! ## The three commands -/

/-- `while [ "clear" = "`getprop logd.logpersistd`" ]; do continue; done`: the effects and
the properties when it ends, `none` when it never does. -/
def waitWhileClear (env : ShellEnv) (props : Props) : List Effect × Option Props :=
  if props runtimeProperty = "clear".toList then ([.waitClear], env.afterWait props)
  else ([], some props)

/-- `${a}` of the conflict message: the current value, or `${default_...}` when it is empty. -/
def orDefault (a : Word) : Word := if a = [] then unassigned else a

/-- The lines `.start` prints when asked to change the parameters of a running collection. -/
def conflictLines (name : Word) (o : Opts) (currentBuffer currentSize : Word) : List Effect :=
  [.err "ERROR: Changing existing collection parameters from".toList] ++
  (if o.buffer ≠ currentBuffer then
    [.err ("           --buffer ".toList ++ orDefault currentBuffer ++ " to ".toList ++
      orDefault o.buffer)] else []) ++
  (if o.size ≠ currentSize then
    [.err ("           --size ".toList ++ orDefault currentSize ++ " to ".toList ++
      orDefault o.size)] else []) ++
  [.err "       Are you sure you want to do this?".toList,
    .err "       Suggest add --clear to erase data and restart with new settings.".toList,
    .err ("       To blindly override and retain data, ".toList ++ name ++ ".stop first.".toList)]

/-- `setprop ${property}.p "${value}"`, and `setprop logd.logpersistd.p ""` after it when the
value is empty, if either the value or the current one is set. -/
def setParam (p value current : Word) : List Effect :=
  if value ++ current ≠ [] then
    .setprop (dotted property p) value ::
      (if value = [] then [.setprop (dotted runtimeProperty p) []] else [])
  else []

/-- The `*.start)` branch, with `logTag` the `log_tag` read before the `case`: its effects,
how it ends, and the properties after it. -/
def startBranch (env : ShellEnv) (name logTag : Word) (o : Opts) (props : Props) :
    List Effect × Ending × Props :=
  let currentBuffer := props (dotted runtimeProperty "buffer".toList)
  let currentSize := props (dotted runtimeProperty "size".toList)
  let first : Option (List Effect) :=
    if props runtimeProperty = service then
      if o.clear then some [.setprop runtimeProperty "clear".toList]
      else if o.buffer ++ '|' :: o.size ≠ currentBuffer ++ '|' :: currentSize then none
      else some []
    else if o.clear then some [.setprop runtimeProperty "clear".toList] else some []
  match first with
  | none => (conflictLines name o currentBuffer currentSize, .exit 1, props)
  | some e₁ =>
    let e₂ := setParam "buffer".toList o.buffer currentBuffer ++
      setParam "size".toList o.size currentSize
    let w := waitWhileClear env (applySetprops props (e₁ ++ e₂))
    match w.2 with
    | none => (e₁ ++ e₂ ++ w.1, .hang, applySetprops props (e₁ ++ e₂))
    | some props' =>
      -- `tag="${log_tag#Settings}"`
      let tag := if "Settings".toList.isPrefixOf logTag then logTag.drop 8 else logTag
      let e₃ : List Effect := if logTag ≠ tag then
          [.err "WARNING: enabling logd service".toList,
            .setprop logTagProperty (if ",".toList.isPrefixOf tag then tag.drop 1 else tag)]
        else []
      let e₄ := e₃ ++ [.setprop property service]
      let props := env.afterSleep (applySetprops props' e₄)
      (e₁ ++ e₂ ++ w.1 ++ e₄ ++ [.sleep, .out (props runtimeProperty), .pgrep env.pgrepFound],
        .next, props)

/-- `if [ -n "`getprop logd.logpersistd.p`" ]; then setprop persist.logd.logpersistd.p "";
setprop logd.logpersistd.p ""; fi`, for `buffer` and for `size` in `.stop`. -/
def clearParam (props : Props) (p : Word) : List Effect :=
  if props (dotted runtimeProperty p) ≠ [] then
    [.setprop (dotted property p) [], .setprop (dotted runtimeProperty p) []]
  else []

/-- The `*.stop)` branch: its effects, how it ends, and the properties after it. -/
def stopBranch (env : ShellEnv) (name : Word) (o : Opts) (props : Props) :
    List Effect × Ending × Props :=
  let e₁ : List Effect := if o.size ++ o.buffer ≠ [] then
      [.err ("WARNING: Can not use --size or --buffer with ".toList ++ name ++ ".stop".toList)]
    else []
  let e₂ : List Effect :=
    [.setprop runtimeProperty (if o.clear then "clear".toList else "stop".toList)]
  let props₂ := applySetprops props e₂
  let e₃ := clearParam props₂ "buffer".toList
  let props₃ := applySetprops props₂ e₃
  let e₄ := clearParam props₃ "size".toList
  let w := waitWhileClear env (applySetprops props₃ e₄)
  match w.2 with
  | none => (e₁ ++ e₂ ++ e₃ ++ e₄ ++ w.1, .hang, applySetprops props₃ e₄)
  | some props' => (e₁ ++ e₂ ++ e₃ ++ e₄ ++ w.1, .next, props')

/-- The `*.cat)` branch. -/
def catBranch (name : Word) (o : Opts) : List Effect :=
  (if o.size ++ o.buffer ≠ [] ∨ o.clear then
    [.err ("WARNING: Can not use --clear, --size or --buffer with ".toList ++ name ++
      ".cat".toList)] else []) ++ [.catLogs]

/-- The last `if`: when the tag or the collection property changed, kill Settings so that
it reads them again. Its status is the script's: that of the branch it runs, or `0` when it
runs none, whatever the command before it returned. -/
def settingsCheck (env : ShellEnv) (logTag logdLogpersistd : Word) (props : Props) :
    List Effect × ℕ :=
  if logTag ≠ props logTagProperty ∨ logdLogpersistd ≠ props property then
    if env.amFound then
      ([.err "WARNING: killing Settings application to pull in new values".toList,
        .forceStopSettings], env.amStatus)
    else
      ([.err ("WARNING: could not kill Settings application to pull in new values: " ++
        "am command not found").toList], 0)
  else ([], 0)

/-- The end of a run after `case ${progname}`: the branch's `exit`, a loop that never ends,
or the last `if`. -/
def finish (env : ShellEnv) (logTag logdLogpersistd : Word)
    (branch : List Effect × Ending × Props) : Run :=
  match branch.2.1 with
  | .exit code => ⟨branch.1, some code, branch.2.2⟩
  | .hang => ⟨branch.1, none, branch.2.2⟩
  | .next =>
    ⟨branch.1 ++ (settingsCheck env logTag logdLogpersistd branch.2.2).1,
      some (settingsCheck env logTag logdLogpersistd branch.2.2).2, branch.2.2⟩

/-- The script run as `progname` with `args`, from the properties `props`. -/
def logpersist (env : ShellEnv) (progname : Word) (args : List Word) (props : Props) : Run :=
  let name := stripExt progname
  if props (dotted runtimeProperty "enable".toList) ≠ "true".toList then
    ⟨[.out (progname ++ " - Disabled".toList)], some 1, props⟩
  else
    match parseArgs ⟨sizeDefault, bufferDefault, false⟩ args with
    | .shiftPastEnd => ⟨[], some env.shiftErrorStatus, props⟩
    | .help => ⟨usage name, some 0, props⟩
    | .bad rest =>
      ⟨usage name ++ [.err ("ERROR: bad argument ".toList ++ unwords rest)], some 1, props⟩
    | .ok o =>
      match checkOpts env o with
      | .error line => ⟨[.err line], some 1, props⟩
      | .ok o =>
        -- `log_tag` and `logd_logpersistd`, read before the `case`
        finish env (props logTagProperty) (props property)
          (if ".cat".toList.isSuffixOf progname then (catBranch name o, .next, props)
          else if ".start".toList.isSuffixOf progname then
            startBranch env name (props logTagProperty) o props
          else if ".stop".toList.isSuffixOf progname then stopBranch env name o props
          else ([.err ("ERROR: Unexpected command ".toList ++ progname ++ ' ' :: unwords args)],
            .exit 1, props))

/-- A device on which `test` reads `512` only, `logcat` knows the `main` buffer only, a wait
on `clear` never ends, and `pgrep` and `am` find what they look for. -/
def sampleEnv : ShellEnv where
  testInt w := if w = "512".toList then some 512 else none
  logcatAccepts b := b == "main".toList
  afterWait _ := none
  afterWait_ends _ _ h := Option.noConfusion h
  afterSleep := id
  pgrepFound := true
  amFound := true
  amStatus := 0
  shiftErrorStatus := 1

/-! ## What a run does -/

theorem cat_no_setprop (env : ShellEnv) (progname : Word) (args : List Word) (props : Props)
    (hcat : ".cat".toList.isSuffixOf progname) (n v : Word) :
    Effect.setprop n v ∉ (logpersist env progname args props).effects := by
  unfold logpersist
  split_ifs
  · simp
  · split
    · simp
    · simp [usage]
    · simp [usage]
    · split
      · simp
      · simp only [hcat, if_true, finish]
        simp [catBranch, settingsCheck]

/-- `logpersist.cat` with no properties set. -/
theorem cat_no_setprop_persist :
    Effect.setprop property service ∉
      (logpersist sampleEnv "logpersist.cat".toList [] fun _ => []).effects :=
  cat_no_setprop _ _ _ _ (by decide) _ _

/-- A name that ends in `b` does not end in `a` when neither word is a suffix of the other:
`*.cat`, `*.start` and `*.stop` exclude each other. -/
theorem isSuffixOf_false {a b p : Word} (hb : b.isSuffixOf p) (hab : ¬ a <:+ b)
    (hba : ¬ b <:+ a) : a.isSuffixOf p = false := by
  by_contra ha
  simp only [Bool.not_eq_false, List.isSuffixOf_iff_suffix] at ha hb
  exact (List.suffix_or_suffix_of_suffix ha hb).elim hab hba

theorem applySetprops_append (props : Props) (l₁ l₂ : List Effect) :
    applySetprops props (l₁ ++ l₂) = applySetprops (applySetprops props l₁) l₂ := by
  induction l₁ generalizing props with
  | nil => rfl
  | cons e l ih => cases e <;> exact ih _

theorem applySetprops_of_forall (props : Props) {l : List Effect}
    (h : ∀ n v, Effect.setprop n v ∉ l) : applySetprops props l = props := by
  induction l with
  | nil => rfl
  | cons e l ih =>
    simp only [List.mem_cons, not_or] at h
    cases e
    case setprop n v => exact absurd rfl (h n v).1
    all_goals exact ih fun n v => (h n v).2

theorem setprop_not_mem_settingsCheck (env : ShellEnv) (logTag lp : Word) (props : Props)
    (n v : Word) : Effect.setprop n v ∉ (settingsCheck env logTag lp props).1 := by
  unfold settingsCheck
  split_ifs <;> simp

theorem setprop_not_mem_waitWhileClear (env : ShellEnv) (props : Props) (n v : Word) :
    Effect.setprop n v ∉ (waitWhileClear env props).1 := by
  unfold waitWhileClear
  split_ifs <;> simp

/-- The block leaves `logd.logpersistd.p` empty. -/
theorem applySetprops_clearParam (props : Props) (p : Word) :
    applySetprops props (clearParam props p) (dotted runtimeProperty p) = [] := by
  unfold clearParam
  split_ifs with h
  · simp [applySetprops, setprop]
  · simpa using h

/-- The block sets no other property. -/
theorem applySetprops_clearParam_of_ne (props props' : Props) {p m : Word}
    (h₁ : m ≠ dotted property p) (h₂ : m ≠ dotted runtimeProperty p) :
    applySetprops props' (clearParam props p) m = props' m := by
  unfold clearParam
  split_ifs
  · simp [applySetprops, setprop, h₁, h₂]
  · rfl

theorem setprop_property_not_mem_clearParam (props : Props) (p v : Word) :
    Effect.setprop property v ∉ clearParam props p := by
  unfold clearParam
  split_ifs <;> simp [property, runtimeProperty, dotted]

/-- What `.stop` sets: `logd.logpersistd` to `clear` or `stop`, never
`persist.logd.logpersistd`, and `logd.logpersistd.buffer` and `.size` end up empty. -/
theorem stopBranch_setprops (env : ShellEnv) (name : Word) (o : Opts) (props : Props) :
    (∀ v, Effect.setprop property v ∉ (stopBranch env name o props).1) ∧
      Effect.setprop runtimeProperty (if o.clear then "clear".toList else "stop".toList) ∈
        (stopBranch env name o props).1 ∧
      applySetprops props (stopBranch env name o props).1
          (dotted runtimeProperty "buffer".toList) = [] ∧
      applySetprops props (stopBranch env name o props).1
          (dotted runtimeProperty "size".toList) = [] := by
  have hw := setprop_not_mem_waitWhileClear env
  have he₁ : ∀ line n v, Effect.setprop n v ∉
      (if o.size ++ o.buffer ≠ [] then [Effect.err line] else []) :=
    fun _ _ _ => by split_ifs <;> simp
  have hne : property ≠ runtimeProperty := by decide
  dsimp only [stopBranch]
  split <;>
  · simp only [applySetprops_append, applySetprops_of_forall _ (hw _),
      applySetprops_of_forall _ (he₁ _)]
    refine ⟨fun v => ?_, by simp, ?_, applySetprops_clearParam _ _⟩
    · simp only [List.mem_append, List.mem_singleton, Effect.setprop.injEq, hne, false_and, hw,
        he₁, setprop_property_not_mem_clearParam, or_self, not_false_eq_true]
    · rw [applySetprops_clearParam_of_ne _ _ (by decide) (by decide), applySetprops_clearParam]

/-- `.start` gets past its wait only after setting `persist.logd.logpersistd` to `logcatd`. -/
theorem setprop_service_mem_startBranch (env : ShellEnv) (name logTag : Word) (o : Opts)
    (props : Props) (h : (startBranch env name logTag o props).2.1 = .next) :
    Effect.setprop property service ∈ (startBranch env name logTag o props).1 := by
  revert h
  dsimp only [startBranch]
  split
  · simp
  · split <;> simp

/-- `.start` exits only at the conflict check: a running collection, no `--clear`, and other
parameters than the current ones. -/
theorem startBranch_exit (env : ShellEnv) (name logTag : Word) (o : Opts) (props : Props)
    {code : ℕ} (h : (startBranch env name logTag o props).2.1 = .exit code) :
    props runtimeProperty = service ∧ o.clear = false ∧
      o.buffer ++ '|' :: o.size ≠
        props (dotted runtimeProperty "buffer".toList) ++ '|' ::
          props (dotted runtimeProperty "size".toList) := by
  revert h
  dsimp only [startBranch]
  split
  · next hfirst =>
    intro _
    split_ifs at hfirst with hrun hclear hdiff
    exact ⟨hrun, Bool.eq_false_iff.mpr hclear, hdiff⟩
  · split <;> simp

section Commands

variable (env : ShellEnv) (progname : Word) (args : List Word) (props : Props) {o o' : Opts}

/-- After the `case`, the branch's effects and then, when it gets there, the last `if`. -/
theorem finish_effects (logTag logdLogpersistd : Word) (branch : List Effect × Ending × Props) :
    (finish env logTag logdLogpersistd branch).effects = branch.1 ++
      if branch.2.1 = .next then (settingsCheck env logTag logdLogpersistd branch.2.2).1
      else [] := by
  obtain ⟨effects, ending, props⟩ := branch
  cases ending <;> simp [finish]

/-- The status is the branch's `exit`, none for a loop that never ends, or the last `if`'s. -/
theorem finish_status (logTag logdLogpersistd : Word) (branch : List Effect × Ending × Props) :
    (finish env logTag logdLogpersistd branch).status =
      match branch.2.1 with
      | .exit code => some code
      | .hang => none
      | .next => some (settingsCheck env logTag logdLogpersistd branch.2.2).2 := by
  obtain ⟨effects, ending, props⟩ := branch
  cases ending <;> rfl

/-- The status depends only on how the branch ends and on the properties after it. -/
theorem finish_status_eq (logTag logdLogpersistd : Word)
    {branch branch' : List Effect × Ending × Props} (h : branch.2 = branch'.2) :
    (finish env logTag logdLogpersistd branch).status =
      (finish env logTag logdLogpersistd branch').status := by
  rw [finish_status, finish_status, h]

/-- An enabled `.start` run whose options pass is `startBranch`, with the `log_tag` read
before the `case`, and then the last `if`. -/
theorem logpersist_start (hstart : ".start".toList.isSuffixOf progname)
    (hen : props (dotted runtimeProperty "enable".toList) = "true".toList)
    (hp : parseArgs ⟨sizeDefault, bufferDefault, false⟩ args = .ok o)
    (hc : checkOpts env o = .ok o') :
    logpersist env progname args props =
      finish env (props logTagProperty) (props property)
        (startBranch env (stripExt progname) (props logTagProperty) o' props) := by
  have hcat := isSuffixOf_false (a := ".cat".toList) hstart (by decide) (by decide)
  simp only [logpersist, hen, hp, hc, hcat, hstart, ne_eq, not_true_eq_false, if_false,
    Bool.false_eq_true, if_true]

/-- A `.start` run that ends, and that does not stop at the conflict check (a running
collection, no `--clear`, other parameters than the current ones), sets
`persist.logd.logpersistd` to `logcatd`, which starts the service. -/
theorem start_sets_service (hstart : ".start".toList.isSuffixOf progname)
    (hen : props (dotted runtimeProperty "enable".toList) = "true".toList)
    (hp : parseArgs ⟨sizeDefault, bufferDefault, false⟩ args = .ok o)
    (hc : checkOpts env o = .ok o')
    (hok : ¬ (props runtimeProperty = service ∧ o'.clear = false ∧
      o'.buffer ++ '|' :: o'.size ≠
        props (dotted runtimeProperty "buffer".toList) ++ '|' ::
          props (dotted runtimeProperty "size".toList)))
    (hend : (logpersist env progname args props).status ≠ none) :
    Effect.setprop property service ∈ (logpersist env progname args props).effects := by
  rw [logpersist_start env progname args props hstart hen hp hc, finish_status] at hend
  rw [logpersist_start env progname args props hstart hen hp hc, finish_effects, List.mem_append]
  refine .inl (setprop_service_mem_startBranch _ _ _ _ _ ?_)
  cases hk : (startBranch env (stripExt progname) (props logTagProperty) o' props).2.1 with
  | exit code => exact absurd (startBranch_exit _ _ _ _ _ hk) hok
  | hang => simp [hk] at hend
  | next => rfl

/-- `logpersist.start --size=512` while the service is stopped. -/
theorem start_sets_service_stopped :
    (logpersist sampleEnv "logpersist.start".toList ["--size=512".toList]
        fun p => if p = "logd.logpersistd.enable".toList then "true".toList else []).status ≠
        none ∧
      Effect.setprop property service ∈
        (logpersist sampleEnv "logpersist.start".toList ["--size=512".toList]
          fun p => if p = "logd.logpersistd.enable".toList then "true".toList else []).effects :=
  ⟨by decide, @start_sets_service sampleEnv "logpersist.start".toList ["--size=512".toList]
    (fun p => if p = "logd.logpersistd.enable".toList then "true".toList else [])
    ⟨"512".toList, "all".toList, false⟩ ⟨"512".toList, [], false⟩
    (by decide) (by decide) (by decide) rfl (by decide) (by decide)⟩

/-- An enabled `.stop` run whose options pass is `stopBranch` and then the last `if`. -/
theorem logpersist_stop (hstop : ".stop".toList.isSuffixOf progname)
    (hen : props (dotted runtimeProperty "enable".toList) = "true".toList)
    (hp : parseArgs ⟨sizeDefault, bufferDefault, false⟩ args = .ok o)
    (hc : checkOpts env o = .ok o') :
    logpersist env progname args props =
      finish env (props logTagProperty) (props property)
        (stopBranch env (stripExt progname) o' props) := by
  have hcat := isSuffixOf_false (a := ".cat".toList) hstop (by decide) (by decide)
  have hstart := isSuffixOf_false (a := ".start".toList) hstop (by decide) (by decide)
  simp only [logpersist, hen, hp, hc, hcat, hstart, hstop, ne_eq, not_true_eq_false, if_false,
    Bool.false_eq_true, if_true]

/-- An enabled `.stop` run whose options pass sets `logd.logpersistd` to `clear` or `stop`,
never `persist.logd.logpersistd`, and leaves `logd.logpersistd.buffer` and `.size` empty. -/
theorem stop_setprops (hstop : ".stop".toList.isSuffixOf progname)
    (hen : props (dotted runtimeProperty "enable".toList) = "true".toList)
    (hp : parseArgs ⟨sizeDefault, bufferDefault, false⟩ args = .ok o)
    (hc : checkOpts env o = .ok o') :
    (∀ v, Effect.setprop property v ∉ (logpersist env progname args props).effects) ∧
      Effect.setprop runtimeProperty (if o'.clear then "clear".toList else "stop".toList) ∈
        (logpersist env progname args props).effects ∧
      applySetprops props (logpersist env progname args props).effects
          (dotted runtimeProperty "buffer".toList) = [] ∧
      applySetprops props (logpersist env progname args props).effects
          (dotted runtimeProperty "size".toList) = [] := by
  obtain ⟨hprop, hrun, hbuf, hsize⟩ := stopBranch_setprops env (stripExt progname) o' props
  have hs : ∀ n v, Effect.setprop n v ∉
      if (stopBranch env (stripExt progname) o' props).2.1 = .next then
        (settingsCheck env (props logTagProperty) (props property)
          (stopBranch env (stripExt progname) o' props).2.2).1
      else [] := fun n v => by
    split_ifs
    · exact setprop_not_mem_settingsCheck _ _ _ _ n v
    · simp
  rw [logpersist_stop env progname args props hstop hen hp hc, finish_effects]
  simp only [applySetprops_append, applySetprops_of_forall _ hs, List.mem_append,
    hbuf, hsize, hrun, true_or, hs, or_false, hprop, not_false_eq_true, implies_true, and_self]

/-- `logpersist.stop --clear` while the buffer property holds `main`. -/
theorem stop_setprops_clear :
    applySetprops (fun p => if p = "logd.logpersistd.enable".toList then "true".toList
          else if p = "logd.logpersistd.buffer".toList then "main".toList else [])
        (logpersist sampleEnv "logpersist.stop".toList ["--clear".toList]
          fun p => if p = "logd.logpersistd.enable".toList then "true".toList
            else if p = "logd.logpersistd.buffer".toList then "main".toList else []).effects
        (dotted runtimeProperty "buffer".toList) = [] :=
  (@stop_setprops sampleEnv "logpersist.stop".toList ["--clear".toList]
    (fun p => if p = "logd.logpersistd.enable".toList then "true".toList
      else if p = "logd.logpersistd.buffer".toList then "main".toList else [])
    ⟨"256".toList, "all".toList, true⟩ ⟨[], [], true⟩
    (by decide) (by decide) (by decide) rfl).2.2.1

/-- What `pgrep` finds shows in the effects of `.start`, in nothing else. -/
theorem startBranch_snd_pgrep (b : Bool) (name logTag : Word) (o : Opts) :
    (startBranch { env with pgrepFound := b } name logTag o props).2 =
      (startBranch env name logTag o props).2 := by
  have hw : waitWhileClear { env with pgrepFound := b } = waitWhileClear env := rfl
  dsimp only [startBranch]
  simp only [hw]
  split
  · rfl
  · split <;> rfl

/-- The exit status never depends on what `pgrep` finds: the `if` after the `case` sets it,
although `.start` runs `pgrep` to "generate an error return code if not found running". -/
theorem start_exit_status (b : Bool) :
    (logpersist { env with pgrepFound := b } progname args props).status =
      (logpersist env progname args props).status := by
  have hc : checkOpts { env with pgrepFound := b } = checkOpts env := rfl
  have hf : ∀ l p br, finish { env with pgrepFound := b } l p br = finish env l p br :=
    fun _ _ _ => rfl
  have hw : waitWhileClear { env with pgrepFound := b } = waitWhileClear env := rfl
  have hstop : ∀ n o p, stopBranch { env with pgrepFound := b } n o p = stopBranch env n o p := by
    intro n o p
    simp only [stopBranch, hw]
  unfold logpersist
  simp only [hc, hf, hstop]
  split
  · rfl
  · split
    · rfl
    · rfl
    · rfl
    · split
      · rfl
      · refine finish_status_eq env _ _ ?_
        split_ifs
        · rfl
        · exact startBranch_snd_pgrep env props b _ _ _
        · rfl
        · rfl

end Commands

end SystemLogging.Logpersist
