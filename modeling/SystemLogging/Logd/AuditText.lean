import SystemLogging.CString

/-!
# The text rewrites at the start of `LogAudit::logPrint`

`src/logd/LogAudit.cpp`. `logPrint` formats an audit message into a heap string and edits it
in place before anything is logged:

* every newline becomes a space;
* the first `" pid=<digits>"` is cut out of the text with `memmove`, and its digits become
  the pid and tid of the records, with `android::pidToUid` of it as their uid;
* the seconds of `" audit(<sec>.<frac>:"` are replaced by `0.0`, their value becoming the
  records' timestamp.

The digits are accumulated in a `pid_t` with `pid = pid * 10 + (*cp - '0')`, which `C`
leaves undefined once it passes `INT_MAX`; the model returns `none` there. `readPid_eq`
gives the loop's value as the decimal value of the digit run, and `pidStep_of_digits` the
whole step when it fits. A run whose value passes `INT_MAX` overflows
(`pidStep_overflow`, and `pidStep_pid_overflows` at one input).

The time step writes `0.0` over the first three characters of the timestamp and moves the
rest of the text, from the `:` on, up behind them. When `strptime` has read at least three
characters this replaces the timestamp and keeps every other character of the text, in an
allocation that may hold bytes left behind by the pid step (`timeStep_zeroes_timestamp`).
-/

namespace SystemLogging.Logd

/-! ## Newlines -/

/-- `while ((cp = strchr(str, '\n'))) *cp = ' ';`: each pass finds the next newline. -/
def replaceNewlines (s : List Char) : List Char := s.map fun c => if c = '\n' then ' ' else c

theorem nul_not_mem_replaceNewlines {s : List Char} (h : nul ∉ s) : nul ∉ replaceNewlines s := by
  simp only [replaceNewlines, List.mem_map, not_exists, not_and]
  intro c hc
  split <;> [decide; exact fun he => h (he ▸ hc)]

/-! ## The pid -/

/-- `INT_MAX`, the largest `pid_t`. -/
def pidMax : ℤ := 2 ^ 31 - 1

/-- `*cp - '0'`. -/
def digitValue (c : Char) : ℤ := (c.toNat : ℤ) - ('0'.toNat : ℤ)

/-- The decimal value of the digits `ds` read after the value `acc`. -/
def decimalValue (acc : ℤ) (ds : List Char) : ℤ := ds.foldl (fun n c => n * 10 + digitValue c) acc

/-- `while (isdigit(*cp)) { pid = (pid * 10) + (*cp - '0'); ++cp; }` from `pid`: the value
and the number of digits read; `none` when an update overflows `pid_t`. For `pid ≥ 0` the
update overflows exactly when its result passes `INT_MAX`. -/
def readPid (pid : ℤ) : List Char → Option (ℤ × ℕ)
  | [] => some (pid, 0)
  | c :: cs =>
    if c.isDigit then
      if pid * 10 + digitValue c ≤ pidMax then
        (readPid (pid * 10 + digitValue c) cs).map fun r => (r.1, r.2 + 1)
      else none
    else some (pid, 0)

theorem digitValue_nonneg {c : Char} (h : c.isDigit) : 0 ≤ digitValue c := by
  simp only [Char.isDigit, Bool.and_eq_true, decide_eq_true_eq] at h
  have : '0'.toNat ≤ c.toNat := h.1
  simp only [digitValue]
  omega

/-- Reading digits never lowers the value. -/
theorem le_decimalValue {acc : ℤ} (hacc : 0 ≤ acc) {ds : List Char} (h : ∀ c ∈ ds, c.isDigit) :
    acc ≤ decimalValue acc ds := by
  induction ds generalizing acc with
  | nil => exact le_rfl
  | cons c ds ih =>
    have hc := digitValue_nonneg (h c (List.mem_cons_self c ds))
    have := ih (show 0 ≤ acc * 10 + digitValue c by omega) fun d hd =>
      h d (List.mem_cons_of_mem c hd)
    simp only [decimalValue, List.foldl_cons] at this ⊢
    omega

/-- The loop reads the maximal digit run, and overflows exactly when its value passes
`INT_MAX`. -/
theorem readPid_eq {pid : ℤ} (h0 : 0 ≤ pid) (hmax : pid ≤ pidMax) (cs : List Char) :
    readPid pid cs =
      if decimalValue pid (cs.takeWhile Char.isDigit) ≤ pidMax then
        some (decimalValue pid (cs.takeWhile Char.isDigit), (cs.takeWhile Char.isDigit).length)
      else none := by
  induction cs generalizing pid with
  | nil => simp [readPid, decimalValue, hmax]
  | cons c cs ih =>
    by_cases hc : c.isDigit
    · have hd := digitValue_nonneg hc
      have hrun : ∀ d ∈ cs.takeWhile Char.isDigit, d.isDigit := fun d hd =>
        List.mem_takeWhile_imp hd
      simp only [readPid, hc, if_true, List.takeWhile_cons, List.length_cons]
      split
      · rw [ih (by omega) ‹_›]
        simp only [decimalValue, List.foldl_cons]
        split_ifs <;> rfl
      · have := le_decimalValue (show 0 ≤ pid * 10 + digitValue c by omega) hrun
        simp only [decimalValue, List.foldl_cons] at this ⊢
        rw [if_neg (by omega)]
    · simp [readPid, hc, decimalValue, hmax]

theorem takeWhile_isDigit_append_nul (r : List Char) :
    (r ++ [nul]).takeWhile Char.isDigit = r.takeWhile Char.isDigit := by
  induction r with
  | nil => rfl
  | cons c r ih => simp only [List.cons_append, List.takeWhile_cons, ih]

/-- `" pid="`. -/
def pidStr : List Char := " pid=".toList

/-- The pid, tid and uid of the records, and `str`'s allocation after the pid step. -/
structure PidStep where
  buf : List Char
  pid : ℤ
  tid : ℤ
  uid : ℕ
  deriving DecidableEq, Repr

/-- The pid step of `logPrint` on `str`'s allocation `buf`. It starts from `getpid()`,
`gettid()` and `AID_LOGD`; `pidToUid` is `android::pidToUid`. -/
def pidStep (getpid gettid : ℤ) (pidToUid : ℤ → ℕ) (buf : List Char) : Option PidStep :=
  match strstr (cstrOf buf).chars pidStr with
  | none => some ⟨buf, getpid, gettid, aidLogd⟩
  | some pidptr =>
    let cp := pidptr + pidStr.length
    -- `isdigit(pidptr[sizeof(pid_str) - 1])`
    if (buf.drop cp).head?.any Char.isDigit then
      (readPid 0 (buf.drop cp)).bind fun r =>
        let cp := cp + r.2
        (memmove buf pidptr cp (strlenAt buf cp + 1)).map fun buf =>
          ⟨buf, r.1, r.1, pidToUid r.1⟩
    else some ⟨buf, getpid, gettid, aidLogd⟩

theorem pidStr_length : pidStr.length = 5 := rfl

/-- `" pid="` at `i` lies inside the text. -/
theorem add_le_of_strstr_pidStr {s : List Char} {i : ℕ} (h : strstr s pidStr = some i) :
    i + 5 ≤ s.length := by
  have := (strstr_eq_some_iff.mp h).1.length_le
  rw [List.length_drop, pidStr_length] at this
  omega

/-- The maximal run of digits after the `" pid="` at `i`. -/
def pidDigits (s : List Char) (i : ℕ) : List Char := (s.drop (i + 5)).takeWhile Char.isDigit

section PidStep

variable (getpid gettid : ℤ) (pidToUid : ℤ → ℕ) (s : CStr)

/-- What the step reads after `" pid="`, from the string or from its NUL. -/
theorem buffer_head_pidStr {i : ℕ} (hs : strstr s.chars pidStr = some i) :
    (s.buffer.drop (i + 5)).head?.any Char.isDigit =
      (s.chars.drop (i + 5)).head?.any Char.isDigit := by
  rw [s.buffer_drop (add_le_of_strstr_pidStr hs)]
  cases s.chars.drop (i + 5) <;> rfl

/-- The loop over the digits after `" pid="` at `i`, on the allocation. -/
theorem readPid_buffer {i : ℕ} (hs : strstr s.chars pidStr = some i) :
    readPid 0 (s.buffer.drop (i + 5)) =
      if decimalValue 0 (pidDigits s.chars i) ≤ pidMax then
        some (decimalValue 0 (pidDigits s.chars i), (pidDigits s.chars i).length)
      else none := by
  rw [readPid_eq le_rfl (by decide), s.buffer_drop (add_le_of_strstr_pidStr hs),
    takeWhile_isDigit_append_nul, pidDigits]

/-- A digit after the first `" pid="`, with a value that fits: pid and tid become the value,
uid its owner, and exactly `" pid=<digits>"` leaves the text. -/
theorem pidStep_of_digits {i : ℕ} (hs : strstr s.chars pidStr = some i)
    (hd : (s.chars.drop (i + 5)).head?.any Char.isDigit)
    (hv : decimalValue 0 (pidDigits s.chars i) ≤ pidMax) :
    ∃ buf, pidStep getpid gettid pidToUid s.buffer =
        some ⟨buf, decimalValue 0 (pidDigits s.chars i), decimalValue 0 (pidDigits s.chars i),
          pidToUid (decimalValue 0 (pidDigits s.chars i))⟩ ∧
      (cstrOf buf).chars = s.chars.take i ++ s.chars.drop (i + 5 + (pidDigits s.chars i).length) := by
  have hrun : i + 5 + (pidDigits s.chars i).length ≤ s.chars.length := by
    have : (pidDigits s.chars i).length ≤ (s.chars.drop (i + 5)).length :=
      (List.takeWhile_prefix _).length_le
    have := add_le_of_strstr_pidStr hs
    rw [List.length_drop] at *
    omega
  obtain ⟨buf, hm, hc⟩ :=
    memmove_cut s ((Nat.le_add_right i 5).trans (Nat.le_add_right _ _)) hrun
  refine ⟨buf, ?_, hc⟩
  simp only [pidStep, cstrOf_buffer, hs, pidStr_length, buffer_head_pidStr s hs, hd, if_true,
    readPid_buffer s hs, if_pos hv, Option.some_bind, hm, Option.map_some']

/-- `pid=42` in a denial: read, and cut out of the text. -/
theorem pidStep_of_digits_app :
    ∃ buf, pidStep 100 100 (fun _ => 10001) (CStr.lit "avc: denied pid=42 comm").buffer =
        some ⟨buf, decimalValue 0 (pidDigits "avc: denied pid=42 comm".toList 11),
          decimalValue 0 (pidDigits "avc: denied pid=42 comm".toList 11), 10001⟩ ∧
      (cstrOf buf).chars = "avc: denied pid=42 comm".toList.take 11 ++
        "avc: denied pid=42 comm".toList.drop (11 + 5 +
          (pidDigits "avc: denied pid=42 comm".toList 11).length) :=
  pidStep_of_digits 100 100 (fun _ => 10001) (.lit "avc: denied pid=42 comm") (by decide)
    (by decide) (by decide)

/-- A digit run after the first `" pid="` whose value passes `INT_MAX` overflows `pid`. -/
theorem pidStep_overflow {i : ℕ} (hs : strstr s.chars pidStr = some i)
    (hv : pidMax < decimalValue 0 (pidDigits s.chars i)) :
    pidStep getpid gettid pidToUid s.buffer = none := by
  have hd : (s.chars.drop (i + 5)).head?.any Char.isDigit := by
    by_contra hd
    have hnil : pidDigits s.chars i = [] := by
      unfold pidDigits
      cases h : s.chars.drop (i + 5) with
      | nil => rfl
      | cons c cs => simp_all [List.takeWhile_cons]
    rw [hnil] at hv
    exact absurd hv (by decide)
  simp only [pidStep, cstrOf_buffer, hs, pidStr_length, buffer_head_pidStr s hs, hd, if_true,
    readPid_buffer s hs, if_neg (not_le.mpr hv), Option.none_bind]

end PidStep

/-- A digit run one past `INT_MAX` after `" pid="`. -/
theorem pidStep_pid_overflows (getpid gettid : ℤ) (pidToUid : ℤ → ℕ) :
    pidStep getpid gettid pidToUid (CStr.lit "avc: denied pid=2147483648 comm=\"sh\"").buffer =
      none :=
  pidStep_overflow getpid gettid pidToUid _ (i := 11) (by decide) (by decide)

/-! ## The timestamp -/

/-- `log_time`: seconds and nanoseconds. -/
structure LogTime where
  tvSec : ℕ
  tvNsec : ℕ
  deriving DecidableEq, Repr

/-- `" audit("`. -/
def auditStr : List Char := " audit(".toList

/-- The time step of `logPrint` on `str`'s allocation: the allocation after it and `now`.
`strptime` is `log_time::strptime(text, "%s.%q")` of liblog, outside `src/`: the time it read
and the number of characters it consumed, `none` for `nullptr`; `realtime` is
`log_time(CLOCK_REALTIME)`. `none` when a copy runs past the allocation. -/
def timeStep (strptime : List Char → Option (LogTime × ℕ)) (realtime : LogTime)
    (buf : List Char) : Option (List Char × LogTime) :=
  match strstr (cstrOf buf).chars auditStr with
  | none => some (buf, realtime)
  | some timeptr =>
    let t := timeptr + auditStr.length
    match strptime (cstrOf (buf.drop t)).chars with
    | none => some (buf, realtime)
    | some (now, n) =>
      if buf[t + n]? = some ':' then
        (storeAt buf t "0.0".toList).bind fun buf =>
          (memmove buf (t + 3) (t + n) (strlenAt buf (t + n) + 1)).map fun buf => (buf, now)
      else some (buf, realtime)

/-- When `" audit("` is followed by a timestamp that `strptime` reads in at least three
characters and then a `:`, the time step leaves the text with the timestamp replaced by `0.0`
and returns the time read. -/
theorem timeStep_zeroes_timestamp (strptime : List Char → Option (LogTime × ℕ))
    (realtime : LogTime) (t u : List Char) (ht : nul ∉ t) {i n : ℕ} {now : LogTime}
    (hi : strstr t auditStr = some i)
    (hp : strptime (t.drop (i + auditStr.length)) = some (now, n)) (hn : 3 ≤ n)
    (hc : t[i + auditStr.length + n]? = some ':') :
    ∃ buf, timeStep strptime realtime (t ++ nul :: u) = some (buf, now) ∧
      (cstrOf buf).chars =
        t.take (i + auditStr.length) ++ "0.0".toList ++ t.drop (i + auditStr.length + n) := by
  obtain ⟨hk, -⟩ := List.getElem?_eq_some_iff.mp hc
  have h3 : "0.0".toList.length = 3 := rfl
  have hnul : ∀ j, nul ∉ t.drop j := fun _ hm => ht (List.mem_of_mem_drop hm)
  have hstore : storeAt (t ++ nul :: u) (i + auditStr.length) "0.0".toList =
      some ((t.take (i + auditStr.length) ++ "0.0".toList ++ t.drop (i + auditStr.length + 3))
        ++ nul :: u) := by
    have := storeAt_append (t.take (i + auditStr.length)) "0.0".toList
      (t.drop (i + auditStr.length) ++ nul :: u)
      (by simp only [h3, List.length_append, List.length_drop, List.length_cons]; omega)
    rw [← List.append_assoc, List.take_append_drop, List.length_take,
      min_eq_left (by omega)] at this
    rw [this, List.drop_append_of_le_length (by rw [h3, List.length_drop]; omega), List.drop_drop]
    simp [Nat.add_comm]
  have ht' : nul ∉ t.take (i + auditStr.length) ++ "0.0".toList ++
      t.drop (i + auditStr.length + 3) := by
    simp only [List.mem_append, not_or]
    exact ⟨⟨fun hm => ht (List.mem_of_mem_take hm), by decide⟩, hnul _⟩
  obtain ⟨buf, hm, hb⟩ := @memmove_cut_append _ u ht' (i + auditStr.length + 3)
    (i + auditStr.length + n) (by omega)
    (by simp only [List.length_append, List.length_take, List.length_drop, h3]; omega)
  refine ⟨buf, ?_, hb.trans ?_⟩
  · simp only [timeStep, cstrOf_append_nul t u ht, hi,
      List.drop_append_of_le_length (by omega : i + auditStr.length ≤ t.length),
      cstrOf_append_nul _ u (hnul _), hp, List.getElem?_append_left hk, hc, if_true, hstore,
      Option.some_bind, hm, Option.map_some']
  · have hpre : (t.take (i + auditStr.length) ++ "0.0".toList).length =
        i + auditStr.length + 3 := by
      simp only [List.length_append, List.length_take, h3]; omega
    rw [List.take_left' hpre, List.drop_append_eq_append_drop, hpre,
      List.drop_eq_nil_of_le (by omega), List.nil_append, List.drop_drop,
      Nat.add_sub_cancel' (by omega : i + auditStr.length + 3 ≤ i + auditStr.length + n)]

/-- A kernel timestamp `1.5` read as three characters. -/
theorem timeStep_zeroes_timestamp_kernel :
    ∃ buf, timeStep (fun _ => some (⟨1, 500000000⟩, 3)) ⟨0, 0⟩
        ("type=1400 audit(1.5:7): avc".toList ++ [nul]) = some (buf, ⟨1, 500000000⟩) ∧
      (cstrOf buf).chars = "type=1400 audit(0.0:7): avc".toList :=
  (timeStep_zeroes_timestamp (fun _ => some (⟨1, 500000000⟩, 3)) ⟨0, 0⟩
    "type=1400 audit(1.5:7): avc".toList [] (by decide) (i := 9) (by decide) rfl (by decide)
    (by decide)).imp fun _ h => ⟨h.1, h.2.trans (by decide)⟩

end SystemLogging.Logd
