import SystemLogging.Logd.Auditd

/-!
# `logd`'s `main`: the audit reader at startup

`src/logd/main.cpp`. `main` creates the audit reader from the `ro.logd.auditd*` properties
(`mainAudit`), hands it the kernel log through `readDmesg`, and only then starts its
listener, whose first netlink message sets `initialized` (`Auditd`).

`readDmesg` passes the non-empty tokens of the kernel buffer to `al->log` and `kl->log`
while `rc >= 0`. The loop is a run of the reader over the lines it passes
(`readDmesgLoop_auditRun`), and a negative `rc` ends it: every later line is dropped
(`readDmesgLoop_append_of_neg`). Without `LogKlog`, `rc` is what `al->log` returned, which is
negative exactly when `LogBuffer::Log` refused every record of the line, so the startup read
ends at the first such line (`readDmesg_stops_at_rejected`).

Since the reader is not yet initialized, every line of the startup runs with dmesg off,
whatever the descriptor (`readDmesg_dmesgOn`), and with dmesg off the static
`denial_metadata` leaks from one line into the next (`logPrintAfter_history_leaks`); once the
listener has read a netlink message, a reader with a dmesg descriptor no longer depends on
what the startup read (`mainAudit_history_independent`).

`logd --reinit` asks the running daemon to reinitialise: `main` returns what `issueReinit`
returns, and the shell sees status `0` exactly when every call succeeded and the reply read
was `success` (`mainReinit_exitStatus`); a reply that comes in two reads counts as a failure.

`LogKlog` is declared outside `src/`: the rc of `kl->log` is the parameter `kl`, and
`klogctl` with `android::log_strntok_r` are the tokens `readDmesg` is given.
-/

namespace SystemLogging.Logd

/-- The reader `main` creates: none without `ro.logd.auditd`; else on `fdDmesg`, or on `-1`
without `ro.logd.auditd.dmesg`, with what its constructor writes to the kernel log.
`getBoolProperty` is `android::base::GetBoolProperty`. -/
def mainAudit (getBoolProperty : List Char → Bool → Bool) (fdDmesg : ℤ) :
    Option (AuditState × Option (List Char)) :=
  if getBoolProperty "ro.logd.auditd".toList true then
    let dmesgFd := if getBoolProperty "ro.logd.auditd.dmesg".toList true then fdDmesg else -1
    some (LogAudit.create dmesgFd (getBoolProperty "ro.logd.auditd.main".toList true)
      (getBoolProperty "ro.logd.auditd.events".toList true))
  else none

section ReadDmesg

variable (cap : ℕ) (env : AuditEnv) (kl : Option (CStr → ℤ → ℤ))

/-- `if (al) rc = al->log(tok, sublen);`: the reader after it, `rc`, and what `log`
returned. -/
def alLog (al : Option AuditState) (rc : ℤ) (tok : CStr) (sublen : ℤ) :
    Option (Option AuditState × ℤ × List LogPrintResult) :=
  match al with
  | none => some (none, rc, [])
  | some s =>
    (logAuditLog cap s.self env s.denialMetadata tok sublen.toNat).map fun r =>
      (some ⟨s.self, r.denialMetadata⟩, r.rc, [r])

/-- `if (kl) rc = kl->log(tok, sublen);`. -/
def klLog (rc : ℤ) (tok : CStr) (sublen : ℤ) : ℤ :=
  match kl with
  | none => rc
  | some f => f tok sublen

/-- The `for` loop of `readDmesg` over the tokens and their `sublen`, from `rc`: it stops
when `rc < 0` and skips a token with `sublen <= 0` or `!*tok`. The reader and `rc` at its
end, and what `al->log` returned, in order. -/
def readDmesgLoop :
    Option AuditState → ℤ → List (CStr × ℤ) → Option (Option AuditState × ℤ × List LogPrintResult)
  | al, rc, [] => some (al, rc, [])
  | al, rc, (tok, sublen) :: rest =>
    if rc < 0 then some (al, rc, [])
    else if sublen ≤ 0 ∨ tok.chars = [] then readDmesgLoop al rc rest
    else
      (alLog cap env al rc tok sublen).bind fun a =>
        (readDmesgLoop a.1 (klLog kl a.2.1 tok sublen) rest).map fun b =>
          (b.1, b.2.1, a.2.2 ++ b.2.2)

/-- `readDmesg(al, kl)`, given what `klogctl(KLOG_READ_ALL, ...)` returned and the tokens
`log_strntok_r` cuts from the buffer; `none` for a `klogctl` that fails on the size. The
reader after it and what `al->log` returned. -/
def readDmesg (al : Option AuditState) (klogctl : Option (ℤ × List (CStr × ℤ))) :
    Option (Option AuditState × List LogPrintResult) :=
  if al.isNone ∧ kl.isNone then some (al, [])
  else
    match klogctl with
    | none => some (al, [])
    | some (rc, toks) =>
      if rc ≤ 0 then some (al, [])
      else (readDmesgLoop cap env kl al rc toks).map fun b => (b.1, b.2.2)

/-- A negative `rc` ends the loop before its next token. -/
theorem readDmesgLoop_of_neg {al : Option AuditState} {rc : ℤ} (h : rc < 0)
    (toks : List (CStr × ℤ)) : readDmesgLoop cap env kl al rc toks = some (al, rc, []) := by
  cases toks with
  | nil => rfl
  | cons t rest => simp [readDmesgLoop, h]

/-- The loop over `pre ++ post` is the loop over `pre`, then over `post` from where it
ended. -/
theorem readDmesgLoop_append (pre post : List (CStr × ℤ)) (al : Option AuditState) (rc : ℤ) :
    readDmesgLoop cap env kl al rc (pre ++ post) =
      (readDmesgLoop cap env kl al rc pre).bind fun a =>
        (readDmesgLoop cap env kl a.1 a.2.1 post).map fun b => (b.1, b.2.1, a.2.2 ++ b.2.2) := by
  induction pre generalizing al rc with
  | nil => simp [readDmesgLoop]
  | cons t rest ih =>
    obtain ⟨tok, sublen⟩ := t
    rw [List.cons_append, readDmesgLoop.eq_2, readDmesgLoop.eq_2]
    split_ifs with hrc hskip
    · simp [readDmesgLoop_of_neg cap env kl hrc]
    · exact ih al rc
    · rw [Option.bind_assoc]
      congr 1
      funext a
      rw [ih]
      cases readDmesgLoop cap env kl a.1 (klLog kl a.2.1 tok sublen) rest <;>
        simp [Option.map_map, Function.comp_def, List.append_assoc]

/-- Once the loop has ended with a negative `rc`, no later line is passed on. -/
theorem readDmesgLoop_append_of_neg {pre : List (CStr × ℤ)} {al al' : Option AuditState}
    {rc rc' : ℤ} {outs : List LogPrintResult}
    (h : readDmesgLoop cap env kl al rc pre = some (al', rc', outs)) (hneg : rc' < 0)
    (post : List (CStr × ℤ)) :
    readDmesgLoop cap env kl al rc (pre ++ post) = some (al', rc', outs) := by
  rw [readDmesgLoop_append, h]
  simp [readDmesgLoop_of_neg cap env kl hneg]

/-- The loop is a run of the reader over the lines it passes to `al->log`, a sublist of
the tokens. -/
theorem readDmesgLoop_auditRun {s t : AuditState} {rc rc' : ℤ} {toks : List (CStr × ℤ)}
    {outs : List LogPrintResult}
    (h : readDmesgLoop cap env kl (some s) rc toks = some (some t, rc', outs)) :
    ∃ lines : List (CStr × ℤ), List.Sublist lines toks ∧
      auditRun cap env s (lines.map fun l => .kernelLine l.1 l.2.toNat) = some (t, outs) := by
  induction toks generalizing s rc rc' outs with
  | nil => cases h; exact ⟨[], .slnil, rfl⟩
  | cons tk rest ih =>
    obtain ⟨tok, sublen⟩ := tk
    rw [readDmesgLoop.eq_2] at h
    split_ifs at h with hrc hskip
    · cases h; exact ⟨[], List.nil_sublist _, rfl⟩
    · obtain ⟨lines, hl, hr⟩ := ih h
      exact ⟨lines, hl.cons _, hr⟩
    · obtain ⟨a, ha, hrest⟩ := Option.bind_eq_some.mp h
      obtain ⟨r, hr, rfl⟩ := Option.map_eq_some'.mp ha
      obtain ⟨⟨t', rc'', outs'⟩, hloop, hq⟩ := Option.map_eq_some'.mp hrest
      cases hq
      obtain ⟨lines, hl, hrun⟩ := ih hloop
      refine ⟨(tok, sublen) :: lines, hl.cons₂ _, ?_⟩
      simp [auditRun, auditStep, hr, hrun]

/-- What `readDmesg` passes to the reader is a run over kernel lines. -/
theorem readDmesg_auditRun {s t : AuditState} {klogctl : Option (ℤ × List (CStr × ℤ))}
    {outs : List LogPrintResult} (h : readDmesg cap env kl (some s) klogctl = some (some t, outs)) :
    ∃ lines : List (CStr × ℤ),
      auditRun cap env s (lines.map fun l => .kernelLine l.1 l.2.toNat) = some (t, outs) := by
  unfold readDmesg at h
  split_ifs at h with hnone
  · cases h; exact ⟨[], rfl⟩
  · split at h
    · cases h; exact ⟨[], rfl⟩
    · split_ifs at h
      · cases h; exact ⟨[], rfl⟩
      · obtain ⟨⟨al', rc', outs'⟩, hl, hq⟩ := Option.map_eq_some'.mp h
        cases hq
        obtain ⟨lines, -, hr⟩ := readDmesgLoop_auditRun cap env kl hl
        exact ⟨lines, hr⟩

/-- A line without `" audit("` to a fresh reader, whose `kl->log` fails: the next line is
never read. -/
theorem readDmesgLoop_append_of_neg_klog :
    readDmesgLoop 4068 appEnv (some fun _ _ => -1)
        (some (LogAudit.create 3 true true).1) 1
        ([(.lit "init: started", 13)] ++ [(.lit "type=1400 audit(0.0:1): avc: denied pid=5", 41)]) =
      some (some (LogAudit.create 3 true true).1, -1, [⟨0, none, [], []⟩]) :=
  @readDmesgLoop_append_of_neg 4068 appEnv (some fun _ _ => -1)
    [(.lit "init: started", 13)] (some (LogAudit.create 3 true true).1)
    (some (LogAudit.create 3 true true).1) 1 (-1) [⟨0, none, [], []⟩] rfl (by decide)
    [(.lit "type=1400 audit(0.0:1): avc: denied pid=5", 41)]

/-- Without `LogKlog`, `rc` after a line is what `al->log` returned: the loop hands on the
lines up to the first whose records were all refused, and with `rc` still non-negative it has
handed on every non-empty line. -/
theorem readDmesgLoop_rejected (s : AuditState) (rc : ℤ) (hrc : 0 ≤ rc)
    (toks : List (CStr × ℤ)) :
    ∀ q ∈ readDmesgLoop cap env none (some s) rc toks,
      (∀ r ∈ q.2.2.dropLast, r.rejected env = false) ∧
      (q.2.1 < 0 ↔ ∃ r ∈ q.2.2.getLast?, r.rejected env = true) ∧
      (0 ≤ q.2.1 →
        q.2.2.length = (toks.filter fun t => decide (0 < t.2 ∧ t.1.chars ≠ [])).length) := by
  induction toks generalizing s rc with
  | nil => rintro q ⟨⟩; simp [hrc]
  | cons t rest ih =>
    obtain ⟨tok, sublen⟩ := t
    intro q hq
    rw [readDmesgLoop.eq_2, if_neg (by omega)] at hq
    split_ifs at hq with hskip
    · have hf : ¬ (0 < sublen ∧ tok.chars ≠ []) := fun ⟨h1, h2⟩ => hskip.elim (by omega) h2
      rw [List.filter_cons_of_neg (by simpa using hf)]
      exact ih s rc hrc q hq
    · obtain ⟨a, ha, hq⟩ := Option.bind_eq_some.mp hq
      obtain ⟨r, hr, rfl⟩ := Option.map_eq_some'.mp ha
      obtain ⟨q', hq', rfl⟩ := Option.map_eq_some'.mp hq
      have hrej := logAuditLog_rc_neg_iff cap s.self env s.denialMetadata tok sublen.toNat r hr
      rw [List.filter_cons_of_pos (by simpa using not_or.mp hskip)]
      dsimp only [klLog] at hq' ⊢
      by_cases hneg : r.rc < 0
      · -- the line's records were all refused: the loop ends after it
        rw [readDmesgLoop_of_neg cap env none hneg] at hq'
        cases hq'
        exact ⟨by simp, ⟨fun _ => ⟨r, rfl, hrej.mp hneg⟩, fun _ => hneg⟩,
          fun h => absurd h (not_le.mpr hneg)⟩
      · obtain ⟨h1, h2, h3⟩ := ih ⟨s.self, r.denialMetadata⟩ r.rc (by omega) q' hq'
        have hr0 : r.rejected env = false := by simpa [hrej] using hneg
        obtain ⟨al', rc', outs⟩ := q'
        dsimp only at h1 h2 h3 ⊢
        cases outs with
        | nil =>
          simp only [List.getLast?_nil, Option.mem_def, reduceCtorEq, false_and, exists_false,
            iff_false] at h2
          refine ⟨by simp, by simp [hr0, h2], fun h => ?_⟩
          rw [List.length_cons, ← h3 h]
          rfl
        | cons o os =>
          rw [List.singleton_append, List.dropLast_cons₂, List.getLast?_cons_cons]
          refine ⟨fun x hx => ?_, h2, fun h => by simp [h3 h]⟩
          rcases List.mem_cons.mp hx with rfl | hx
          · exact hr0
          · exact h1 x hx

/-- Without `LogKlog` (`ro.logd.kernel` off), `readDmesg` hands the audit reader the non-empty
kernel lines in order and stops after the first one for which every `LogBuffer::Log` call
failed; unless the last line it handed on was such a line, it handed on every one. -/
theorem readDmesg_stops_at_rejected (s : AuditState) {n : ℤ} (hn : 0 < n)
    (toks : List (CStr × ℤ)) :
    ∀ q ∈ readDmesg cap env none (some s) (some (n, toks)),
      (∀ r ∈ q.2.dropLast, r.rejected env = false) ∧
      ((q.2.getLast?.any fun r => r.rejected env) = false →
        q.2.length = (toks.filter fun t => decide (0 < t.2 ∧ t.1.chars ≠ [])).length) := by
  intro q hq
  simp only [readDmesg, Option.isNone_some, Bool.false_eq_true, false_and, if_false,
    if_neg (not_le.mpr hn)] at hq
  obtain ⟨⟨al', rc', outs⟩, hl, rfl⟩ := Option.map_eq_some'.mp hq
  obtain ⟨h1, h2, h3⟩ := readDmesgLoop_rejected cap env s n hn.le toks _ hl
  refine ⟨h1, fun hlast => h3 (not_lt.mp fun hneg => ?_)⟩
  obtain ⟨r, hr, hrej⟩ := h2.mp hneg
  simp [Option.mem_def.mp hr, hrej] at hlast

/-- A startup whose `LogBuffer::Log` refuses everything: the first audit line is the last
one read. -/
theorem readDmesg_stops_at_rejected_full :
    (0 : ℤ) < 1 ∧
    (readDmesg 4068 { appEnv with logRc := fun _ => -1 } none (some (LogAudit.create 3 true true).1)
        (some (1, [(.lit "type=1400 audit(0.0:1): avc: denied", 36),
          (.lit "type=1400 audit(0.0:2): avc: denied", 36)]))).isSome ∧
    ∀ q ∈ readDmesg 4068
        { appEnv with logRc := fun _ => -1 } none (some (LogAudit.create 3 true true).1)
        (some (1, [(.lit "type=1400 audit(0.0:1): avc: denied", 36),
          (.lit "type=1400 audit(0.0:2): avc: denied", 36)])),
      (∀ r ∈ q.2.dropLast, r.rejected { appEnv with logRc := fun _ => -1 } = false) ∧
      ((q.2.getLast?.any fun r => r.rejected { appEnv with logRc := fun _ => -1 }) = false →
        q.2.length = ([((.lit "type=1400 audit(0.0:1): avc: denied" : CStr), (36 : ℤ)),
          (.lit "type=1400 audit(0.0:2): avc: denied", 36)].filter
            fun t => decide (0 < t.2 ∧ t.1.chars ≠ [])).length) :=
  ⟨by decide, by decide, readDmesg_stops_at_rejected 4068
    { appEnv with logRc := fun _ => -1 } (LogAudit.create 3 true true).1 (by decide)
    [(.lit "type=1400 audit(0.0:1): avc: denied", 36), (.lit "type=1400 audit(0.0:2): avc: denied", 36)]⟩

end ReadDmesg

/-- The reader `main` creates has dmesg off and the static empty, whatever the properties
and the descriptor. -/
theorem mainAudit_dmesgOn {getBoolProperty : List Char → Bool → Bool} {fdDmesg : ℤ}
    {s : AuditState} {w : Option (List Char)} (h : mainAudit getBoolProperty fdDmesg = some (s, w)) :
    s.self.initialized = false ∧ s.self.dmesgOn = false ∧ s.denialMetadata = [] := by
  unfold mainAudit at h
  split_ifs at h <;> cases h <;> simp [LogAudit.create, LogAudit.dmesgOn]

/-- What `readDmesg` passes on runs with dmesg off, whatever the descriptor: the reader after
it is the one `main` created. -/
theorem readDmesg_dmesgOn (cap : ℕ) (env : AuditEnv) (kl : Option (CStr → ℤ → ℤ))
    {getBoolProperty : List Char → Bool → Bool} {fdDmesg : ℤ} {s t : AuditState}
    {w : Option (List Char)} {klogctl : Option (ℤ × List (CStr × ℤ))}
    (hm : mainAudit getBoolProperty fdDmesg = some (s, w))
    (h : (readDmesg cap env kl (some s) klogctl).bind (·.1) = some t) :
    t.self = s.self ∧ t.self.dmesgOn = false := by
  obtain ⟨⟨a, outs⟩, hr, rfl⟩ := Option.bind_eq_some.mp h
  obtain ⟨lines, hr⟩ := readDmesg_auditRun cap env kl hr
  exact auditRun_kernelLines_dmesgOn cap env (mainAudit_dmesgOn hm).1
    (List.any_eq_false.mpr fun _ hx => by
      obtain ⟨l, -, rfl⟩ := List.mem_map.mp hx; simp [AuditInput.isNetlink]) hr

/-- With `/dev/kmsg` open, a startup that reads a line for an app's pid. -/
theorem readDmesg_dmesgOn_kmsg :
    (⟨⟨3, true, true, false⟩, " app=com.x".toList⟩ : AuditState).self =
        (LogAudit.create 3 true true).1.self ∧
      (⟨⟨3, true, true, false⟩, " app=com.x".toList⟩ : AuditState).self.dmesgOn = false :=
  @readDmesg_dmesgOn 4068 appEnv none (fun _ d => d) 3 _ _ (some auditdMessage)
    (some (1, [(.lit "type=1400 audit(0.0:1): avc: denied pid=5 comm=\"sh\"", 51)])) rfl
    (by decide)

/-- At startup the static leaks even with a dmesg descriptor: with the default properties
and `/dev/kmsg` open, a kernel line that ends in metadata passes other records after a line
for an app's pid than on its own. -/
example :
    mainAudit (fun _ d => d) 3 = some (LogAudit.create 3 true true) ∧
      (readDmesg 4068 appEnv none (some (LogAudit.create 3 true true).1)
          (some (1, [(.lit "type=1400 audit(0.0:2): avc: denied comm=\"sh\" tclass=file bug=b/12345678",
            72)]))).map (fun r => r.2.map (·.calls)) ≠
        (readDmesg 4068 appEnv none (some (LogAudit.create 3 true true).1)
          (some (1, [(.lit "type=1400 audit(0.0:1): avc: denied pid=5 comm=\"sh\"", 51),
            (.lit "type=1400 audit(0.0:2): avc: denied comm=\"sh\" tclass=file bug=b/12345678",
              72)]))).map (fun r => (r.2.drop 1).map (·.calls)) :=
  ⟨rfl, by decide⟩

theorem mainAudit_fdDmesg {getBoolProperty : List Char → Bool → Bool} {fdDmesg : ℤ}
    {s : AuditState} {w : Option (List Char)} (h : mainAudit getBoolProperty fdDmesg = some (s, w))
    (hd : getBoolProperty "ro.logd.auditd.dmesg".toList true = true) : s.self.fdDmesg = fdDmesg := by
  unfold mainAudit at h
  split_ifs at h
  cases h
  simp [LogAudit.create, hd]

theorem any_isNetlink_netlinks {n : List (Option AuditReply)} (hn : n ≠ []) :
    (n.map AuditInput.netlink).any AuditInput.isNetlink = true := by
  obtain ⟨x, xs, rfl⟩ := List.exists_cons_of_ne_nil hn
  rfl

/-- With `ro.logd.auditd.dmesg` and `/dev/kmsg` open, once the listener has read a netlink
message the reader passes the same records whatever the kernel log held at startup and
whatever the messages were. -/
theorem mainAudit_history_independent (cap : ℕ) (env : AuditEnv) (kl : Option (CStr → ℤ → ℤ))
    {getBoolProperty : List Char → Bool → Bool} {fdDmesg : ℤ} {s : AuditState}
    {w : Option (List Char)} (hm : mainAudit getBoolProperty fdDmesg = some (s, w))
    (hd : getBoolProperty "ro.logd.auditd.dmesg".toList true = true) (hfd : 0 ≤ fdDmesg)
    {k₁ k₂ : Option (ℤ × List (CStr × ℤ))} {t₁ t₂ : AuditState}
    (hr₁ : (readDmesg cap env kl (some s) k₁).bind (·.1) = some t₁)
    (hr₂ : (readDmesg cap env kl (some s) k₂).bind (·.1) = some t₂)
    {n₁ n₂ : List (Option AuditReply)} (hn₁ : n₁ ≠ []) (hn₂ : n₂ ≠ []) {u₁ u₂ : AuditState}
    (hu₁ : (auditRun cap env t₁ (n₁.map .netlink)).map (·.1) = some u₁)
    (hu₂ : (auditRun cap env t₂ (n₂.map .netlink)).map (·.1) = some u₂) (is : List AuditInput) :
    (auditRun cap env u₁ is).map runCalls = (auditRun cap env u₂ is).map runCalls := by
  obtain ⟨⟨a₁, o₁⟩, hd₁, rfl⟩ := Option.bind_eq_some.mp hr₁
  obtain ⟨⟨a₂, o₂⟩, hd₂, rfl⟩ := Option.bind_eq_some.mp hr₂
  obtain ⟨⟨v₁, rs₁⟩, hv₁, rfl⟩ := Option.map_eq_some'.mp hu₁
  obtain ⟨⟨v₂, rs₂⟩, hv₂, rfl⟩ := Option.map_eq_some'.mp hu₂
  obtain ⟨l₁, hl₁⟩ := readDmesg_auditRun cap env kl hd₁
  obtain ⟨l₂, hl₂⟩ := readDmesg_auditRun cap env kl hd₂
  -- the whole history: the startup's kernel lines, then the listener's messages
  have e₁ : auditRun cap env s ((l₁.map fun l => .kernelLine l.1 l.2.toNat) ++ n₁.map .netlink) =
      some (v₁, o₁ ++ rs₁) := by simp [auditRun_append, hl₁, hv₁]
  have e₂ : auditRun cap env s ((l₂.map fun l => .kernelLine l.1 l.2.toNat) ++ n₂.map .netlink) =
      some (v₂, o₂ ++ rs₂) := by simp [auditRun_append, hl₂, hv₂]
  exact auditRun_history_independent cap env (by rw [mainAudit_fdDmesg hm hd]; exact hfd)
    (by simp [any_isNetlink_netlinks hn₁]) (by simp [any_isNetlink_netlinks hn₂]) e₁ e₂ is

/-- After a startup that read nothing and one that read a line for an app's pid, and one
failed `audit_get_reply` each, a line that ends in metadata passes the same records. -/
theorem mainAudit_history_independent_after_startups :
    (auditRun 4068 appEnv ⟨⟨3, true, true, true⟩, []⟩
        [.kernelLine (.lit "type=1400 audit(0.0:2): avc: denied comm=\"sh\" tclass=file bug=b/12345678")
          72]).map runCalls =
      (auditRun 4068 appEnv ⟨⟨3, true, true, true⟩, " app=com.x".toList⟩
        [.kernelLine (.lit "type=1400 audit(0.0:2): avc: denied comm=\"sh\" tclass=file bug=b/12345678")
          72]).map runCalls :=
  @mainAudit_history_independent 4068 appEnv none (fun _ d => d) 3 (LogAudit.create 3 true true).1
    (some auditdMessage) rfl rfl (by decide)
    none (some (1, [(.lit "type=1400 audit(0.0:1): avc: denied pid=5 comm=\"sh\"", 51)]))
    ⟨⟨3, true, true, false⟩, []⟩ ⟨⟨3, true, true, false⟩, " app=com.x".toList⟩ rfl (by decide)
    [none] [none] (by simp) (by simp) ⟨⟨3, true, true, true⟩, []⟩
    ⟨⟨3, true, true, true⟩, " app=com.x".toList⟩ rfl rfl _

/-! ## `logd --reinit` -/

/-- An `errno` value: Linux's are `1` to `133`, all below `256`. -/
structure Errno where
  val : ℕ
  pos : 0 < val
  lt : val < 256

/-- What `issueReinit` gets from the system: the `errno` of a call that fails, or what the
call returned. -/
structure ReinitEnv where
  /-- `socket_local_client("logd", ANDROID_SOCKET_NAMESPACE_RESERVED, SOCK_STREAM)`. -/
  socket : Except Errno Unit
  /-- `write(sock, reinitStr, sizeof(reinitStr))`. -/
  write : Except Errno Unit
  /-- `poll(&p, 1, 1000)`: its result and whether `revents` holds `POLLIN`. -/
  poll : Except Errno (ℕ × Bool)
  /-- `read(sock, buffer, sizeof(buffer))`: the bytes read, at most the 7 of `buffer`. -/
  read : Except Errno {bytes : List Char // bytes.length ≤ 7}

/-- `success`, the reply `issueReinit` waits for, with its NUL. -/
def success : List Char := "success".toList ++ [nul]

/-- `char buffer[sizeof(success) - 1] = {}` after `read` put `bytes` at its start. -/
def reinitBuffer (bytes : List Char) : List Char := bytes ++ List.replicate (7 - bytes.length) nul

/-- `issueReinit()`: `-errno` for a failed call, `-ETIME` when `poll` sees no reply, else
`strncmp(buffer, success, sizeof(success) - 1) != 0`. -/
def issueReinit (env : ReinitEnv) : ℤ :=
  match env.socket, env.write, env.poll, env.read with
  | .error e, _, _, _ => -e.val
  | .ok (), .error e, _, _ => -e.val
  | .ok (), .ok (), .error e, _ => -e.val
  | .ok (), .ok (), .ok (ret, pollin), read =>
    if ret = 0 ∨ !pollin then -eTime
    else
      match read with
      | .error e => -e.val
      | .ok bytes => if strncmp (reinitBuffer bytes.1) success 7 ≠ 0 then 1 else 0

/-- The start of `main`: with `--reinit` as its first argument `logd` only runs
`issueReinit` and returns its result; `none` when it goes on to start the daemon. -/
def mainReinit (argv : List (List Char)) (env : ReinitEnv) : Option ℤ :=
  match argv with
  | _ :: arg :: _ => if arg = "--reinit".toList then some (issueReinit env) else none
  | _ => none

/-- The status a shell sees for `main`'s return value `r`. -/
def exitStatus (r : ℤ) : ℕ := (r % 256).toNat

theorem reinitBuffer_eq_success_iff {bytes : List Char} (h : bytes.length ≤ 7) :
    reinitBuffer bytes = "success".toList ↔ bytes = "success".toList := by
  constructor
  · intro hb
    have hl : bytes.length = 7 := by
      by_contra hne
      have hmem : nul ∈ reinitBuffer bytes :=
        List.mem_append_right _ (List.mem_replicate.mpr ⟨by omega, rfl⟩)
      rw [hb] at hmem
      exact absurd hmem (by decide)
    simpa [reinitBuffer, hl] using hb
  · rintro rfl
    rfl

/-- `issueReinit` returns `0` exactly when every call succeeds, `poll` sees the reply, and
the bytes read are `success`. -/
theorem issueReinit_eq_zero_iff (env : ReinitEnv) :
    issueReinit env = 0 ↔ env.socket = .ok () ∧ env.write = .ok () ∧
      (∃ ret, 0 < ret ∧ env.poll = .ok (ret, true)) ∧
      ∃ bytes, env.read = .ok bytes ∧ bytes.1 = "success".toList := by
  have herr (e : Errno) : -(e.val : ℤ) ≠ 0 := by have := e.pos; omega
  have hcmp (bytes : {bytes : List Char // bytes.length ≤ 7}) :
      strncmp (reinitBuffer bytes.1) success 7 = 0 ↔ bytes.1 = "success".toList := by
    have hl : (reinitBuffer bytes.1).length = 7 := by
      rw [reinitBuffer, List.length_append, List.length_replicate]; omega
    rw [strncmp_eq_zero_iff hl (by decide : 7 ≤ success.length) (by decide : nul ∉ success.take 7)]
    exact reinitBuffer_eq_success_iff bytes.2
  obtain ⟨socket, write, poll, read⟩ := env
  cases socket with
  | error e => exact iff_of_false (herr e) fun h => nomatch h.1
  | ok =>
  cases write with
  | error e => exact iff_of_false (herr e) fun h => nomatch h.2.1
  | ok =>
  cases poll with
  | error e => exact iff_of_false (herr e) fun ⟨_, _, ⟨_, _, h⟩, _⟩ => nomatch h
  | ok p =>
  obtain ⟨ret, pollin⟩ := p
  by_cases hp : ret = 0 ∨ pollin = false
  · constructor
    · intro h
      simp [issueReinit, hp, eTime] at h
    · rintro ⟨-, -, ⟨r, hr, hq⟩, -⟩
      simp only [Except.ok.injEq, Prod.mk.injEq] at hq
      obtain ⟨rfl, rfl⟩ := hq
      simp only [Bool.true_eq_false, or_false] at hp
      omega
  · obtain ⟨hret, hpoll⟩ := not_or.mp hp
    simp only [Bool.not_eq_false] at hpoll
    cases read with
    | error e =>
      refine iff_of_false ?_ fun ⟨_, _, _, _, h, _⟩ => nomatch h
      simpa [issueReinit, hret, hpoll] using herr e
    | ok bytes =>
      simp only [issueReinit, hret, hpoll, Bool.not_true, Bool.false_eq_true, or_self, if_false,
        ite_not]
      split_ifs with h <;> simp [hcmp, Nat.pos_of_ne_zero hret] at h ⊢ <;> exact h

/-- `issueReinit` returns `0`, `1`, or minus an `errno`. -/
theorem issueReinit_cases (env : ReinitEnv) :
    issueReinit env = 0 ∨ issueReinit env = 1 ∨ ∃ e : Errno, issueReinit env = -e.val := by
  have etime : ∃ e : Errno, -eTime = -(e.val : ℤ) := ⟨⟨62, by decide, by decide⟩, rfl⟩
  unfold issueReinit
  split
  case h_1 | h_2 | h_3 => exact .inr (.inr ⟨_, rfl⟩)
  case h_4 =>
    split_ifs
    · exact .inr (.inr etime)
    · split
      · exact .inr (.inr ⟨_, rfl⟩)
      · split_ifs <;> simp

/-- `logd --reinit` exits with status `0` exactly when every call of `issueReinit`
succeeds, `poll` sees the reply, and the bytes read are `success`. -/
theorem mainReinit_exitStatus {argv : List (List Char)} {env : ReinitEnv} {r : ℤ}
    (h : mainReinit argv env = some r) :
    exitStatus r = 0 ↔ env.socket = .ok () ∧ env.write = .ok () ∧
      (∃ ret, 0 < ret ∧ env.poll = .ok (ret, true)) ∧
      ∃ bytes, env.read = .ok bytes ∧ bytes.1 = "success".toList := by
  rw [← issueReinit_eq_zero_iff]
  unfold mainReinit at h
  split at h
  · split_ifs at h
    cases h
    rcases issueReinit_cases env with h0 | h1 | ⟨e, he⟩
    · simp [h0, exitStatus]
    · simp [h1, exitStatus]
    · have := e.pos
      have := e.lt
      rw [he, exitStatus]
      constructor <;> intro <;> omega
  · cases h

/-- `logd --reinit` against a `logd` that answers `success`. -/
theorem mainReinit_exitStatus_success :
    exitStatus (issueReinit ⟨.ok (), .ok (), .ok (1, true), .ok ⟨"success".toList, by decide⟩⟩) =
      0 :=
  (@mainReinit_exitStatus ["logd".toList, "--reinit".toList]
    ⟨.ok (), .ok (), .ok (1, true), .ok ⟨"success".toList, by decide⟩⟩ _ rfl).mpr
    ⟨rfl, rfl, ⟨1, by decide, rfl⟩, ⟨_, rfl, rfl⟩⟩

end SystemLogging.Logd
