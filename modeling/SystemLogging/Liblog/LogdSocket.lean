import SystemLogging.Interleaving

/-!
# `LogdSocket`: one socket per object, under any interleaving

`src/liblog/logd_writer.cpp`, lines 41-117. `sock()` calls `GetSocket`, which opens a
datagram socket only while `sock_` is `kUninitialized` and installs it with
`compare_exchange_strong`; a thread that loses the race closes its own socket. `Close`
resets `sock_` and may only run while no other call is active.

The model interleaves the atomic operations of any number of threads (`Act`). The state
keeps the fds this object opened and has not closed (`opened`), and two ghost values: the
successful compare-exchanges since the last `Close` (`installs`), and the values `sock()`
returned since then (`returned`). `Inv` holds in every reachable state
(`logdSocket_invariant`): the installed fd and the fds threads still hold account for every
open fd exactly once, `sock_` is set at most once between `Close`s, and `sock()` only ever
returns `kUninitialized` or the installed fd.
-/

namespace SystemLogging.Liblog.Socket

/-- `LogdSocket::kUninitialized`. -/
def kUninitialized : ℤ := -1

/-- Where a thread is in `sock()`, `GetSocket` or `Reconnect`. -/
inductive Pc
  /-- In none of them. -/
  | idle
  /-- `GetSocket` entered: `sock_ != kUninitialized` is next. -/
  | check
  /-- `sock_` was `kUninitialized`: `socket()` is next. -/
  | create
  /-- Holding its own connected socket `fd`: `compare_exchange_strong` is next. -/
  | exchange (fd : ℕ)
  /-- Lost the race: `close(new_socket)` is next. -/
  | closeOwn (fd : ℕ)
  /-- `GetSocket` returned: `sock()` loads `sock_` next. -/
  | load
  deriving DecidableEq, Repr

/-- The socket a thread opened and has neither installed nor closed. -/
def Pc.heldFd : Pc → Option ℕ
  | .exchange fd => some fd
  | .closeOwn fd => some fd
  | _ => none

/-- One `LogdSocket`, its callers, and the ghost values. -/
structure St where
  sock : ℤ
  threads : List Pc
  opened : List ℕ
  installs : ℕ
  returned : List ℤ
  deriving DecidableEq, Repr

/-- One atomic action; `socket i r` carries what `socket()` returned (`none` on failure). -/
inductive Act
  | enter (i : ℕ)
  | check (i : ℕ)
  | socket (i : ℕ) (r : Option ℕ)
  | exchange (i : ℕ)
  | closeOwn (i : ℕ)
  | load (i : ℕ)
  | reconnect (i : ℕ)
  | close
  deriving DecidableEq, Repr

/-- Move thread `i` from `p` to `q`, if it is at `p`. -/
def St.move (s : St) (i : ℕ) (p q : Pc) : Option St :=
  if s.threads[i]? = some p then some { s with threads := s.threads.set i q } else none

/-- One atomic step. -/
def step (s : St) : Act → Option St
  | .enter i => s.move i .idle .check
  | .check i => s.move i .check (if s.sock ≠ kUninitialized then .load else .create)
  | .socket i none => s.move i .create .load
  | .socket i (some fd) =>
    -- the kernel never hands out an fd that is still open
    if fd ∈ s.opened then none
    else (s.move i .create (.exchange fd)).map fun s => { s with opened := fd :: s.opened }
  | .exchange i =>
    match s.threads[i]? with
    | some (.exchange fd) =>
      if s.sock = kUninitialized then
        some { s with sock := fd, installs := s.installs + 1, threads := s.threads.set i .load }
      else some { s with threads := s.threads.set i (.closeOwn fd) }
    | _ => none
  | .closeOwn i =>
    match s.threads[i]? with
    | some (.closeOwn fd) => some { s with opened := s.opened.erase fd, threads := s.threads.set i .load }
    | _ => none
  | .load i => (s.move i .load .idle).map fun s' => { s' with returned := s.sock :: s.returned }
  | .reconnect i => s.move i .idle .idle
  | .close =>
    if ∀ p ∈ s.threads, p = .idle then
      some { s with opened := if s.sock ≠ kUninitialized then s.opened.erase s.sock.toNat else s.opened,
                    sock := kUninitialized, installs := 0, returned := [] }
    else none

/-- `n` threads, none inside a call, and `sock_ = kUninitialized`. -/
def init (n : ℕ) : St := ⟨kUninitialized, List.replicate n .idle, [], 0, []⟩

/-! ## The invariant -/

/-- Whether a thread holds `fd` as its own new socket, as a count. -/
def Pc.holds (fd : ℕ) (p : Pc) : ℕ := if p.heldFd = some fd then 1 else 0

/-- How many threads hold `fd` as their own new socket. -/
def holders (threads : List Pc) (fd : ℕ) : ℕ := (threads.map (Pc.holds fd)).sum

/-- Whether `fd` is the installed socket `sock`, as a count. -/
def installed (sock : ℤ) (fd : ℕ) : ℕ := if sock = fd then 1 else 0

/-- What holds of every reachable state. -/
structure Inv (s : St) : Prop where
  sock_fd : s.sock = kUninitialized ∨ 0 ≤ s.sock
  installs_le : s.installs ≤ 1
  installs_zero : s.sock = kUninitialized ↔ s.installs = 0
  nodup : s.opened.Nodup
  count_opened : ∀ fd, s.opened.count fd = installed s.sock fd + holders s.threads fd
  returned_eq : ∀ v ∈ s.returned, 0 ≤ v → v = s.sock

theorem init_inv (n : ℕ) : Inv (init n) where
  sock_fd := .inl rfl
  installs_le := Nat.zero_le _
  installs_zero := by simp [init]
  nodup := List.nodup_nil
  count_opened fd := by
    simp [init, installed, holders, kUninitialized, Pc.holds, Pc.heldFd, List.sum_replicate]
  returned_eq := by simp [init]

theorem St.move_eq {s s' : St} {i : ℕ} {p q : Pc} (h : s.move i p q = some s') :
    s.threads[i]? = some p ∧ s' = { s with threads := s.threads.set i q } := by
  simp only [St.move] at h
  split_ifs at h with hi
  exact ⟨hi, (Option.some.inj h).symm⟩

/-- Moving a thread changes each fd's holders by what the two positions hold. -/
theorem holders_set {ts : List Pc} {i : ℕ} {p : Pc} (hi : ts[i]? = some p) (q : Pc) (fd : ℕ) :
    holders (ts.set i q) fd + p.holds fd = holders ts fd + q.holds fd :=
  sum_map_set (Pc.holds fd) ts i q p hi

/-- A move between positions that hold no socket keeps the invariant. -/
theorem Inv.move {s : St} {i : ℕ} {p q : Pc} (hs : Inv s) (hi : s.threads[i]? = some p)
    (hp : p.heldFd = none) (hq : q.heldFd = none) :
    Inv { s with threads := s.threads.set i q } where
  sock_fd := hs.sock_fd
  installs_le := hs.installs_le
  installs_zero := hs.installs_zero
  nodup := hs.nodup
  count_opened fd := by
    have := holders_set hi q fd
    simp only [Pc.holds, hp, hq, reduceCtorEq, if_false] at this
    rw [hs.count_opened fd]
    simp only [installed] at *
    omega
  returned_eq := hs.returned_eq

theorem count_erase_self (l : List ℕ) (a b : ℕ) :
    (l.erase a).count b = l.count b - if a = b then 1 else 0 := by
  simp [List.count_erase]

/-- Every step keeps the invariant. -/
theorem step_inv {s s' : St} {a : Act} (hs : Inv s) (h : step s a = some s') : Inv s' := by
  cases a with
  | enter i => obtain ⟨hi, rfl⟩ := St.move_eq (by simpa only [step] using h); exact hs.move hi rfl rfl
  | check i =>
    obtain ⟨hi, rfl⟩ := St.move_eq (by simpa only [step] using h)
    exact hs.move hi rfl (by split <;> rfl)
  | socket i r =>
    cases r with
    | none => obtain ⟨hi, rfl⟩ := St.move_eq (by simpa only [step] using h); exact hs.move hi rfl rfl
    | some fd =>
      simp only [step] at h
      split_ifs at h with hfd
      obtain ⟨s₁, hm, rfl⟩ := Option.map_eq_some'.mp h
      obtain ⟨hi, rfl⟩ := St.move_eq hm
      exact {
        sock_fd := hs.sock_fd
        installs_le := hs.installs_le
        installs_zero := hs.installs_zero
        nodup := List.nodup_cons.mpr ⟨hfd, hs.nodup⟩
        count_opened := fun fd' => by
          have := holders_set hi (.exchange fd) fd'
          have := hs.count_opened fd'
          simp only [Pc.holds, Pc.heldFd, installed, List.count_cons, beq_iff_eq,
            Option.some.injEq] at *
          split_ifs at * <;> omega
        returned_eq := hs.returned_eq }
  | exchange i =>
    simp only [step] at h
    split at h
    · rename_i fd hi
      split_ifs at h with hun
      · cases h
        have h0 := hs.installs_zero.mp hun
        exact {
          sock_fd := .inr (Int.natCast_nonneg fd)
          installs_le := by show s.installs + 1 ≤ 1; omega
          installs_zero := by show (fd : ℤ) = -1 ↔ s.installs + 1 = 0; omega
          nodup := hs.nodup
          count_opened := fun fd' => by
            have := holders_set hi .load fd'
            have := hs.count_opened fd'
            simp only [Pc.holds, Pc.heldFd, installed, hun, kUninitialized, Option.some.injEq,
              reduceCtorEq, if_false] at *
            split_ifs at * <;> omega
          returned_eq := fun v hv hv0 => by
            have := hs.returned_eq v hv hv0
            simp only [hun, kUninitialized] at this
            omega }
      · cases h
        refine { hs with count_opened := fun fd' => ?_ }
        have := holders_set hi (.closeOwn fd) fd'
        simp only [Pc.holds, Pc.heldFd] at this
        show s.opened.count fd' = installed s.sock fd' + holders (s.threads.set i _) fd'
        rw [hs.count_opened fd']
        omega
    · cases h
  | closeOwn i =>
    simp only [step] at h
    split at h
    · rename_i fd hi
      cases h
      exact {
        sock_fd := hs.sock_fd
        installs_le := hs.installs_le
        installs_zero := hs.installs_zero
        nodup := hs.nodup.erase fd
        count_opened := fun fd' => by
          have := holders_set hi .load fd'
          have := hs.count_opened fd'
          rw [count_erase_self]
          simp only [Pc.holds, Pc.heldFd, installed, Option.some.injEq, reduceCtorEq,
            if_false] at *
          split_ifs at * <;> omega
        returned_eq := hs.returned_eq }
    · cases h
  | load i =>
    simp only [step] at h
    obtain ⟨s₁, hm, rfl⟩ := Option.map_eq_some'.mp h
    obtain ⟨hi, rfl⟩ := St.move_eq hm
    exact { hs.move (q := .idle) hi rfl rfl with
      returned_eq := fun v hv hv0 => by
        rcases List.mem_cons.mp hv with rfl | hv
        · rfl
        · exact hs.returned_eq v hv hv0 }
  | reconnect i => obtain ⟨hi, rfl⟩ := St.move_eq (by simpa only [step] using h); exact hs.move hi rfl rfl
  | close =>
    simp only [step] at h
    by_cases hidle : ∀ p ∈ s.threads, p = .idle
    · rw [if_pos hidle] at h
      cases h
      have hnone : ∀ fd, holders s.threads fd = 0 := fun fd =>
        List.sum_eq_zero fun x hx => by
          obtain ⟨p, hp, rfl⟩ := List.mem_map.mp hx
          simp [hidle p hp, Pc.holds, Pc.heldFd]
      have hsock := hs.sock_fd
      refine ⟨.inl rfl, Nat.zero_le _, by simp, ?_, fun fd' => ?_, by simp⟩
      · show (if s.sock ≠ kUninitialized then s.opened.erase s.sock.toNat else s.opened).Nodup
        split_ifs
        · exact hs.nodup.erase _
        · exact hs.nodup
      · have := hs.count_opened fd'
        show (if s.sock ≠ kUninitialized then s.opened.erase s.sock.toNat else s.opened).count fd' = _
        simp only [hnone, installed, kUninitialized] at *
        split_ifs at * <;> first | omega | (rw [count_erase_self]; split_ifs at * <;> omega)
    · rw [if_neg hidle] at h
      cases h

/-- Once `sock_` holds an fd, no step but `Close` changes it. -/
theorem step_sock_stable {s s' : St} {a : Act} (h : step s a = some s') (ha : a ≠ .close)
    (hset : s.sock ≠ kUninitialized) : s'.sock = s.sock := by
  cases a with
  | socket i r =>
    cases r with
    | none => obtain ⟨-, rfl⟩ := St.move_eq (by simpa only [step] using h); rfl
    | some fd =>
      simp only [step] at h
      split_ifs at h
      obtain ⟨s₁, hm, rfl⟩ := Option.map_eq_some'.mp h
      obtain ⟨-, rfl⟩ := St.move_eq hm
      rfl
  | exchange i =>
    simp only [step] at h
    split at h
    · split_ifs at h with hun
      · exact absurd hun hset
      · cases h; rfl
    · cases h
  | closeOwn i =>
    simp only [step] at h
    split at h <;> cases h; rfl
  | load i =>
    simp only [step] at h
    obtain ⟨s₁, hm, rfl⟩ := Option.map_eq_some'.mp h
    obtain ⟨-, rfl⟩ := St.move_eq hm
    rfl
  | close => exact absurd rfl ha
  | _ => obtain ⟨-, rfl⟩ := St.move_eq (by simpa only [step] using h); rfl

/-- With no `GetSocket` holding a socket of its own, this object has at most one open
socket: the installed one. -/
theorem Inv.opened_length_le {s : St} (hs : Inv s) (hno : ∀ fd, holders s.threads fd = 0) :
    s.opened.length ≤ 1 := by
  have hmem : ∀ fd ∈ s.opened, s.sock = fd := fun fd hfd => by
    have h1 := List.count_pos_iff.mpr hfd
    rw [hs.count_opened fd, hno fd, installed] at h1
    split_ifs at h1 with h
    · exact h
    · omega
  match h : s.opened, hs.nodup with
  | [], _ => simp
  | [_], _ => simp
  | a :: b :: t, hnd =>
    have ha := hmem a (by simp [h])
    have hb := hmem b (by simp [h])
    have : a = b := by omega
    simp [this] at hnd

/-- Any interleaving of `sock()`, `GetSocket` and `Reconnect` calls on one `LogdSocket`,
with `Close` only while no other call is active, keeps `Inv`: between `Close`s `sock_` is
set at most once (`installs ≤ 1`) and is never overwritten; every open socket is the
installed one or the own new socket of exactly one thread still inside `GetSocket`, so
outside those calls at most one socket is open; and every value `sock()` returned that is
an fd is the installed one. -/
theorem logdSocket_safety {n : ℕ} {s : St} (h : Reach (init n) step s) :
    Inv s ∧
      (∀ a s', a ≠ .close → step s a = some s' → s.sock ≠ kUninitialized → s'.sock = s.sock) ∧
      ((∀ fd, holders s.threads fd = 0) → s.opened.length ≤ 1) := by
  have hs : Inv s := h.inv (init_inv n) fun _ _ _ hs hst => step_inv hs hst
  exact ⟨hs, fun _ _ ha hst hset => step_sock_stable hst ha hset, hs.opened_length_le⟩

/-- Two threads race in `GetSocket`: both see `kUninitialized` and open sockets 3 and 4;
the first installs 3, the second loses the compare-exchange and closes 4; both `sock()`
calls return 3. -/
theorem logdSocket_safety_race :
    Reach (init 2) step ⟨3, [.idle, .idle], [3], 1, [3, 3]⟩ ∧ Inv ⟨3, [.idle, .idle], [3], 1, [3, 3]⟩ ∧
      (∀ a s', a ≠ .close → step ⟨3, [.idle, .idle], [3], 1, [3, 3]⟩ a = some s' →
        (3 : ℤ) ≠ kUninitialized → s'.sock = 3) ∧
      ((∀ fd, holders [.idle, .idle] fd = 0) → [3].length ≤ 1) := by
  have h : Reach (init 2) step ⟨3, [.idle, .idle], [3], 1, [3, 3]⟩ :=
    Reach.init.runSteps [.enter 0, .enter 1, .check 0, .check 1, .socket 0 (some 3),
      .socket 1 (some 4), .exchange 0, .exchange 1, .closeOwn 1, .load 0, .load 1] (by decide)
  exact ⟨h, logdSocket_safety h⟩

end SystemLogging.Liblog.Socket
