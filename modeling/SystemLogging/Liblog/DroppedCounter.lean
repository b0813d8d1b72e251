import SystemLogging.Liblog.LogdWriter
import SystemLogging.Interleaving

/-!
# The `dropped` counter under concurrent `LogdWrite` calls

`src/liblog/logd_writer.cpp`, lines 125-204. Every `LogdWrite` call touches the static
`atomic_int dropped` in up to three atomic operations: it takes the whole count with
`atomic_exchange`, adds it back if the drop event reporting it failed, and adds one if its
own record failed. Calls on different threads interleave between these operations.

The model runs any number of threads, each calling `LogdWrite` again and again, and lets
them interleave at the atomic operations (`Act`). Each thread's position is a `Pc`; the
state also carries three ghost totals that the program does not keep: the counts carried
by drop events that `writev` took whole, the snapshots thrown away because `liblog` was not
loggable, and the calls that ended with `ret < 0`. The ghost totals follow what the world
answered (the loggability of `liblog` and the drop event's `writev` result), not the branch
`LogdWrite` took on it, so the conservation law checks the code's add-back.

`dropped_accounting` is the conservation law: in every reachable state, modulo `2^32`,
`dropped` plus the snapshots threads hold plus the two ghost totals equals the number of
failed writes. `soloCall_dropped` ties the step machine back to the sequential `logdWrite`.
-/

namespace SystemLogging.Liblog.Dropped

/-- Where a thread is in `LogdWrite`, as far as `dropped` is concerned. -/
inductive Pc
  /-- Outside `LogdWrite`, or before its `atomic_exchange`. -/
  | idle
  /-- After `atomic_exchange`, holding the snapshot it took. -/
  | holding (snapshot : ℕ)
  /-- The snapshot is settled; the record's `writev` is next. -/
  | writing
  /-- `ret` is final; the increment of `dropped` for `ret < 0` is next. -/
  | returning (ret : ℤ)
  deriving DecidableEq, Repr

/-- The snapshot a thread holds and has not yet settled. -/
def Pc.held : Pc → ℕ
  | .holding s => s
  | _ => 0

/-- The shared counter, the threads, and the ghost totals. -/
structure St where
  dropped : ℕ
  threads : List Pc
  delivered : ℕ
  discarded : ℕ
  failures : ℕ
  deriving DecidableEq, Repr

/-- One atomic action of thread `i`, with what the world answered. -/
inductive Act
  /-- `snapshot = atomic_exchange(&dropped, 0)`. -/
  | exchange (i : ℕ)
  /-- The drop event, if any, and `atomic_fetch_add(&dropped, snapshot)` if it failed. -/
  | settle (i : ℕ) (loggable : Bool) (dropWritev : WritevResult)
  /-- The record's `writev`, its retry after `Reconnect`, and `ret = -errno`. -/
  | write (i : ℕ) (first retry : WritevResult)
  /-- `atomic_fetch_add(&dropped, 1)` if `ret < 0`, and return. -/
  | finish (i : ℕ)
  deriving DecidableEq, Repr

/-- The count a drop event carried to logd: the snapshot, when `liblog` was loggable at
`INFO` and `writev` took the whole event; nothing for a zero snapshot, which sends none. -/
def acceptedPart (snapshot : ℕ) (loggable : Bool) (dropWritev : WritevResult) : ℕ :=
  if loggable ∧ dropWritev = .ok (androidLogHeaderSize + androidLogEventIntSize) then snapshot
  else 0

/-- The snapshot thrown away because `liblog` was not loggable. -/
def notLoggablePart (snapshot : ℕ) (loggable : Bool) : ℕ := if loggable then 0 else snapshot

/-- One atomic step; `none` when thread `i` is not at that action. -/
def step (s : St) : Act → Option St
  | .exchange i =>
    if s.threads[i]? = some .idle then
      some { s with dropped := 0, threads := s.threads.set i (.holding s.dropped) }
    else none
  | .settle i loggable r =>
    match s.threads[i]? with
    | some (.holding snap) =>
      some { s with threads := s.threads.set i .writing,
                    dropped := (settleSnapshot snap loggable r).counter s.dropped snap,
                    delivered := s.delivered + acceptedPart snap loggable r,
                    discarded := s.discarded + notLoggablePart snap loggable }
    | _ => none
  | .write i first retry =>
    if s.threads[i]? = some .writing then
      some { s with threads := s.threads.set i (.returning (recordRet first retry)) }
    else none
  | .finish i =>
    match s.threads[i]? with
    | some (.returning ret) =>
      some { s with threads := s.threads.set i .idle,
                    dropped := if ret < 0 then fetchAdd s.dropped 1 else s.dropped,
                    failures := if ret < 0 then s.failures + 1 else s.failures }
    | _ => none

/-- `n` threads, none inside `LogdWrite`, and a zero counter. -/
def init (n : ℕ) : St := ⟨0, List.replicate n .idle, 0, 0, 0⟩

/-- The snapshots threads hold and have not settled. -/
def pending (s : St) : ℕ := (s.threads.map Pc.held).sum

/-! ## Conservation -/

/-- Settling a snapshot moves it, whole, to exactly one place: back into `dropped` exactly
when the drop event did not go out whole and `liblog` was loggable. -/
theorem settle_conserves (snap : ℕ) (loggable : Bool) (r : WritevResult) (d : ℕ) :
    ((settleSnapshot snap loggable r).counter d snap + acceptedPart snap loggable r +
      notLoggablePart snap loggable) % 2 ^ 32 = (d + snap) % 2 ^ 32 := by
  unfold settleSnapshot acceptedPart notLoggablePart
  split_ifs <;> simp_all [Settle.counter, fetchAdd]

/-- One step keeps the conservation law. -/
theorem step_conserves {s s' : St} {a : Act} (h : step s a = some s')
    (hs : (s.dropped + pending s + s.delivered + s.discarded) % 2 ^ 32 = s.failures % 2 ^ 32) :
    (s'.dropped + pending s' + s'.delivered + s'.discarded) % 2 ^ 32 = s'.failures % 2 ^ 32 := by
  cases a with
  | exchange i =>
    simp only [step] at h
    split_ifs at h with hi
    cases h
    have := sum_map_set Pc.held s.threads i (.holding s.dropped) .idle hi
    simp only [pending, Pc.held] at *
    omega
  | settle i loggable r =>
    simp only [step] at h
    split at h
    · rename_i snap hi
      cases h
      have hp := sum_map_set Pc.held s.threads i .writing (.holding snap) hi
      have hc := settle_conserves snap loggable r s.dropped
      simp only [pending, Pc.held] at *
      omega
    · cases h
  | write i first retry =>
    simp only [step] at h
    split_ifs at h with hi
    cases h
    have := sum_map_set Pc.held s.threads i (.returning (recordRet first retry)) .writing hi
    simp only [pending, Pc.held] at *
    omega
  | finish i =>
    simp only [step] at h
    split at h
    · rename_i ret hi
      cases h
      have := sum_map_set Pc.held s.threads i .idle (.returning ret) hi
      simp only [pending, Pc.held, fetchAdd] at *
      split_ifs <;> omega
    · cases h

/-- The conservation law of `dropped`, modulo `2^32`. -/
def Conserved (s : St) : Prop :=
  (s.dropped + pending s + s.delivered + s.discarded) % 2 ^ 32 = s.failures % 2 ^ 32

theorem conserved_of_reach {n : ℕ} {s : St} (h : Reach (init n) step s) : Conserved s :=
  h.inv (by simp [Conserved, init, pending, Pc.held, List.sum_replicate]) fun _ _ _ hs hst =>
    step_conserves hst hs

/-- In every interleaving of any number of `LogdWrite` calls, at every point: `dropped`,
plus the snapshots taken and not yet settled, plus the counts logd received in drop events,
plus the snapshots discarded as not loggable, equals modulo `2^32` the number of calls whose
record write ended with `ret < 0`. -/
theorem dropped_accounting {n : ℕ} {s : St} (h : Reach (init n) step s) :
    (s.dropped + pending s + s.delivered + s.discarded) % 2 ^ 32 = s.failures % 2 ^ 32 :=
  conserved_of_reach h

/-- Two threads: the first takes the counter, the second fails its write and counts it,
the first's drop event is lost and it adds the snapshot back. -/
theorem dropped_accounting_two_threads :
    Reach (init 2) step ⟨1, [.writing, .idle], 0, 0, 1⟩ ∧
      (1 + pending ⟨1, [.writing, .idle], 0, 0, 1⟩ + 0 + 0) % 2 ^ 32 = 1 % 2 ^ 32 := by
  have h : Reach (init 2) step ⟨1, [.writing, .idle], 0, 0, 1⟩ :=
    Reach.init.runSteps [.exchange 1, .settle 1 true (.ok 20), .write 1 (.err 11) (.ok 0),
      .finish 1, .exchange 0, .settle 0 true (.err 11)] (by decide)
  exact ⟨h, dropped_accounting h⟩

/-- When no thread is inside `LogdWrite`, every failed write is in `dropped`, or was
reported to logd, or was dropped as not loggable: none is lost and none counted twice. -/
theorem quiescent_accounting {n : ℕ} {s : St} (h : Reach (init n) step s) (hidle : ∀ p ∈ s.threads, p = .idle) :
    (s.dropped + s.delivered + s.discarded) % 2 ^ 32 = s.failures % 2 ^ 32 := by
  have hp : pending s = 0 :=
    List.sum_eq_zero fun x hx => by
      obtain ⟨p, hp, rfl⟩ := List.mem_map.mp hx
      simp [hidle p hp, Pc.held]
  have : Conserved s := conserved_of_reach h
  unfold Conserved at this
  omega

/-- One thread whose write failed and was counted. -/
theorem quiescent_accounting_one_thread :
    Reach (init 1) step ⟨1, [.idle], 0, 0, 1⟩ ∧ (1 + 0 + 0) % 2 ^ 32 = 1 % 2 ^ 32 := by
  have h : Reach (init 1) step ⟨1, [.idle], 0, 0, 1⟩ :=
    Reach.init.runSteps [.exchange 0, .settle 0 true (.ok 20), .write 0 (.err 11) (.ok 0),
      .finish 0] (by decide)
  exact ⟨h, quiescent_accounting h (by decide)⟩

/-! ## The sequential call -/

/-- One whole call of thread `i`, its four atomic actions with no other thread between. -/
def soloCall (s : St) (i : ℕ) (env : LogdWriteEnv) : Option St :=
  step s (.exchange i) >>= (step · (.settle i env.loggable env.dropWritev)) >>=
    (step · (.write i env.firstWritev env.retryWritev)) >>= (step · (.finish i))

/-- Run alone, the four atomic actions leave `dropped` where `logdWrite` does. -/
theorem soloCall_dropped (cap : ℕ) (s : St) (i : ℕ) (env : LogdWriteEnv) (logId : ℤ)
    (ts : Timespec) (vec : List Iovec) (hi : s.threads[i]? = some .idle)
    (hsock : 0 ≤ env.sock) (huid : env.uid ≠ aidLogd) :
    (soloCall s i env).map St.dropped = some (logdWrite cap env s.dropped logId ts vec).dropped := by
  have hlt : i < s.threads.length := (List.getElem?_eq_some_iff.mp hi).1
  rw [logdWrite_dropped cap env s.dropped logId ts vec hsock huid]
  simp only [soloCall, step, hi, if_true, Option.bind_eq_bind, Option.some_bind,
    List.getElem?_set_self hlt, List.length_set, List.set_set, Option.map_some']

end SystemLogging.Liblog.Dropped
