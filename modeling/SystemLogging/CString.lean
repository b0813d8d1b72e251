import SystemLogging.Platform

/-!
# `C` strings and byte buffers

logd rewrites audit text in place (`memmove`, `memcpy`) and assembles records in
uninitialised stack buffers (`strlcpy`, `strncpy`). The model keeps both levels:

* `CStr` is a string's characters before its terminating NUL; a value with a NUL inside
  cannot be built.
* A heap buffer is a `List Char` that holds the NUL too; `storeAt` and `memmove` act on it
  and return `none` on an access past its end, which `C` leaves undefined.
* A stack buffer is a `List (Option Char)`, `none` for a byte never written.

The libc searches `strstr` and `strchr` get one specification lemma each, so that the
callers never unfold them.
-/

namespace SystemLogging

/-- The terminating NUL. -/
def nul : Char := '\x00'

/-- A `C` string: the characters before its terminating NUL. -/
structure CStr where
  chars : List Char
  nul_not_mem : nul ∉ chars
  deriving DecidableEq, Repr

theorem CStr.ext_chars {a b : CStr} (h : a.chars = b.chars) : a = b := by
  cases a; cases b; cases h; rfl

/-- The empty string `""`. -/
def CStr.empty : CStr := ⟨[], List.not_mem_nil _⟩

/-- `a` followed by `b`, as `std::string` concatenation builds it. -/
def CStr.append (a b : CStr) : CStr :=
  ⟨a.chars ++ b.chars, by simpa using ⟨a.nul_not_mem, b.nul_not_mem⟩⟩

/-- `s + n`: the string from its `n`-th character on. -/
def CStr.drop (s : CStr) (n : ℕ) : CStr := ⟨s.chars.drop n, fun h => s.nul_not_mem (List.mem_of_mem_drop h)⟩

/-- The first `n` characters of `s`, as writing a NUL after them leaves it. -/
def CStr.take (s : CStr) (n : ℕ) : CStr := ⟨s.chars.take n, fun h => s.nul_not_mem (List.mem_of_mem_take h)⟩

/-- A string literal of the source; `decide` checks that it holds no NUL. -/
def CStr.lit (s : String) (h : nul ∉ s.toList := by decide) : CStr := ⟨s.toList, h⟩

theorem ite_ne_nul {c : Prop} [Decidable c] {a b : Char} (ha : a ≠ nul) (hb : b ≠ nul) :
    (if c then a else b) ≠ nul := by
  split <;> assumption

/-- The digits `printf` writes are never NUL. -/
theorem digitChar_ne_nul (d : ℕ) : Nat.digitChar d ≠ nul := by
  unfold Nat.digitChar
  repeat (refine ite_ne_nul (by decide) ?_)
  decide

theorem nul_not_mem_toDigitsCore (b : ℕ) :
    ∀ fuel n ds, nul ∉ ds → nul ∉ Nat.toDigitsCore b fuel n ds
  | 0, _, _, h => h
  | fuel + 1, n, ds, h => by
    have hc : nul ∉ Nat.digitChar (n % b) :: ds := fun hm =>
      (List.mem_cons.mp hm).elim (fun e => digitChar_ne_nul _ e.symm) h
    dsimp only [Nat.toDigitsCore]
    split_ifs
    · exact hc
    · exact nul_not_mem_toDigitsCore b fuel _ _ hc

/-- `"%d"` of a non-negative value. -/
def CStr.decimal (n : ℕ) : CStr :=
  ⟨Nat.toDigits 10 n, nul_not_mem_toDigitsCore 10 _ _ _ (List.not_mem_nil _)⟩

/-! ## Searches -/

/-- `strstr`: the offset of the first occurrence of `pat` in `s`. -/
def strstr : List Char → List Char → Option ℕ
  | [], pat => if pat = [] then some 0 else none
  | c :: cs, pat => if pat.isPrefixOf (c :: cs) then some 0 else (strstr cs pat).map (· + 1)

/-- `i` is where `pat` first occurs in `s`. -/
def FirstOccurrence (s pat : List Char) (i : ℕ) : Prop :=
  pat <+: s.drop i ∧ i ≤ s.length ∧ ∀ j < i, ¬ pat <+: s.drop j

theorem strstr_eq_some_iff {s pat : List Char} {i : ℕ} :
    strstr s pat = some i ↔ FirstOccurrence s pat i := by
  induction s generalizing i with
  | nil =>
    by_cases hp : pat = [] <;> cases i <;> simp [strstr, FirstOccurrence, hp]
  | cons c cs ih =>
    by_cases hp : pat <+: c :: cs
    · have hb : pat.isPrefixOf (c :: cs) = true := List.isPrefixOf_iff_prefix.mpr hp
      cases i with
      | zero => simp [strstr, hb, FirstOccurrence, hp]
      | succ i => simp only [strstr, hb, if_true, FirstOccurrence]; exact ⟨by simp, fun h => absurd hp (h.2.2 0 (by omega))⟩
    · have hb : pat.isPrefixOf (c :: cs) = false := by
        simpa [← List.isPrefixOf_iff_prefix] using hp
      cases i with
      | zero => simp [strstr, hb, FirstOccurrence, hp]
      | succ i =>
        simp only [strstr, hb, Bool.false_eq_true, if_false, Option.map_eq_some', ih,
          FirstOccurrence, List.drop_succ_cons, List.length_cons, Nat.add_le_add_iff_right,
          Nat.add_right_cancel_iff]
        constructor
        · rintro ⟨i, ⟨h1, h2, h3⟩, rfl⟩
          refine ⟨h1, h2, fun j hj => ?_⟩
          cases j with
          | zero => exact hp
          | succ j => exact h3 j (by omega)
        · rintro ⟨h1, h2, h3⟩
          exact ⟨i, ⟨h1, h2, fun j hj => h3 (j + 1) (by omega)⟩, rfl⟩

theorem strstr_eq_none_iff {s pat : List Char} :
    strstr s pat = none ↔ ∀ j ≤ s.length, ¬ pat <+: s.drop j := by
  induction s with
  | nil => by_cases hp : pat = [] <;> simp [strstr, hp, List.prefix_nil]
  | cons c cs ih =>
    by_cases hp : pat <+: c :: cs
    · simp [strstr, List.isPrefixOf_iff_prefix.mpr hp]
      exact ⟨0, by omega, hp⟩
    · have hb : pat.isPrefixOf (c :: cs) = false := by
        simpa [← List.isPrefixOf_iff_prefix] using hp
      simp only [strstr, hb, Bool.false_eq_true, if_false, Option.map_eq_none', ih,
        List.length_cons]
      constructor
      · intro h j hj
        cases j with
        | zero => exact hp
        | succ j => exact h j (by omega)
      · intro h j hj
        exact h (j + 1) (by omega)

/-- An occurrence splits the string around the pattern. -/
theorem FirstOccurrence.eq_append {s pat : List Char} {i : ℕ} (h : FirstOccurrence s pat i) :
    s = s.take i ++ pat ++ s.drop (i + pat.length) := by
  obtain ⟨⟨t, ht⟩, -, -⟩ := h
  have hd : s.drop (i + pat.length) = t := by
    rw [← List.drop_drop, ← ht, List.drop_left]
  rw [hd, List.append_assoc, ht, List.take_append_drop]

/-- `strchr`: the offset of the first `c` in `s`. -/
def strchr : List Char → Char → Option ℕ
  | [], _ => none
  | d :: ds, c => if d = c then some 0 else (strchr ds c).map (· + 1)

/-- `strncmp(a, b, n)` on buffers: the difference of the first bytes that differ, `0` at a
common NUL or after `n` bytes. The last case is reached only past the end of a buffer. -/
def strncmp : List Char → List Char → ℕ → ℤ
  | x :: as, y :: bs, n + 1 =>
    if x ≠ y then (x.toNat : ℤ) - y.toNat else if x = nul then 0 else strncmp as bs n
  | _, _, _ => 0

/-- On an `n`-byte buffer `a` and a buffer `b` with no NUL in its first `n` bytes,
`strncmp` is `0` exactly when `a` is those bytes. -/
theorem strncmp_eq_zero_iff {n : ℕ} {a b : List Char} (ha : a.length = n) (hb : n ≤ b.length)
    (hnul : nul ∉ b.take n) : strncmp a b n = 0 ↔ a = b.take n := by
  induction n generalizing a b with
  | zero => simp_all [strncmp]
  | succ n ih =>
    obtain ⟨x, as, rfl⟩ := List.exists_cons_of_length_eq_add_one ha
    obtain ⟨y, bs, rfl⟩ :=
      List.exists_cons_of_ne_nil (show b ≠ [] from List.ne_nil_of_length_pos (by omega))
    simp only [List.take_succ_cons, List.mem_cons, not_or] at hnul ⊢
    by_cases hxy : x = y
    · subst hxy
      simp only [strncmp, ne_eq, not_true_eq_false, if_false, Ne.symm hnul.1, List.cons.injEq,
        true_and]
      exact ih (Nat.succ.inj ha) (by simpa using hb) hnul.2
    · have hn : (x.toNat : ℤ) - y.toNat ≠ 0 := fun h =>
        hxy (by simpa using congrArg Char.ofNat (Int.ofNat.inj (sub_eq_zero.mp h)))
      simp [strncmp, hxy, hn]

/-- `strnlen(s, n)`. -/
def strnlen (s : CStr) (n : ℕ) : ℕ := min s.chars.length n

/-! ## Heap buffers

A heap string as `vasprintf` allocates it: its characters and the NUL. -/

/-- The bytes of `s`'s allocation. -/
def CStr.buffer (s : CStr) : List Char := s.chars ++ [nul]

/-- Store `src` at offset `off`; `none` when the store runs past the buffer. -/
def storeAt {α : Type} (buf : List α) (off : ℕ) (src : List α) : Option (List α) :=
  if off + src.length ≤ buf.length then some (buf.take off ++ src ++ buf.drop (off + src.length))
  else none

/-- `memmove(buf + dst, buf + src, n)`. -/
def memmove (buf : List Char) (dst src n : ℕ) : Option (List Char) :=
  if src + n ≤ buf.length then storeAt buf dst ((buf.drop src).take n) else none

/-- `strlen(buf + off)`. -/
def strlenAt (buf : List Char) (off : ℕ) : ℕ := ((buf.drop off).takeWhile (· != nul)).length

/-- The string a buffer holds: its bytes up to the first NUL. -/
def cstrOf (buf : List Char) : CStr :=
  ⟨buf.takeWhile (· != nul), fun h => by simpa using List.mem_takeWhile_imp h⟩

theorem bne_nul_of_not_mem {t : List Char} (ht : nul ∉ t) : ∀ a ∈ t, (a != nul) = true :=
  fun _ ha => bne_iff_ne.mpr fun he => ht (he ▸ ha)

theorem storeAt_append {α : Type} (pre src rest : List α) (h : src.length ≤ rest.length) :
    storeAt (pre ++ rest) pre.length src = some (pre ++ src ++ rest.drop src.length) := by
  simp [storeAt, h, List.drop_append_eq_append_drop]

theorem strlenAt_append_nul (pre t : List Char) (u : List Char) (ht : nul ∉ t) :
    strlenAt (pre ++ t ++ nul :: u) pre.length = t.length := by
  have hw : (t ++ nul :: u).takeWhile (· != nul) = t := by
    rw [List.takeWhile_append_of_pos (bne_nul_of_not_mem ht)]
    simp [nul]
  simp [strlenAt, List.append_assoc, hw]

theorem cstrOf_append_nul (t u : List Char) (ht : nul ∉ t) : (cstrOf (t ++ nul :: u)).chars = t := by
  simp only [cstrOf]
  rw [List.takeWhile_append_of_pos (bne_nul_of_not_mem ht)]
  simp [nul]

theorem cstrOf_buffer (s : CStr) : cstrOf s.buffer = s :=
  CStr.ext_chars (cstrOf_append_nul s.chars [] s.nul_not_mem)

theorem CStr.buffer_drop (s : CStr) {n : ℕ} (h : n ≤ s.chars.length) :
    s.buffer.drop n = s.chars.drop n ++ [nul] := by
  simp [CStr.buffer, List.drop_append_of_le_length h]

theorem strlenAt_buffer (s : CStr) {off : ℕ} (h : off ≤ s.chars.length) :
    strlenAt s.buffer off = s.chars.length - off := by
  have := strlenAt_append_nul (s.chars.take off) (s.chars.drop off) []
    fun hm => s.nul_not_mem (List.mem_of_mem_drop hm)
  rw [List.take_append_drop, List.length_take, min_eq_left h] at this
  simpa [CStr.buffer] using this

/-- `memmove(str + dst, str + src, strlen(str + src) + 1)` inside a string's allocation cuts
the characters `[dst, src)` out of the string. -/
theorem memmove_cut (s : CStr) {dst src : ℕ} (h1 : dst ≤ src) (h2 : src ≤ s.chars.length) :
    ∃ buf, memmove s.buffer dst src (strlenAt s.buffer src + 1) = some buf ∧
      (cstrOf buf).chars = s.chars.take dst ++ s.chars.drop src := by
  have hn : nul ∉ s.chars.take dst ++ s.chars.drop src := fun hm => s.nul_not_mem (by
    rcases List.mem_append.mp hm with hm | hm
    exacts [List.mem_of_mem_take hm, List.mem_of_mem_drop hm])
  have hmove : (s.buffer.drop src).take (s.chars.length - src + 1) = s.chars.drop src ++ [nul] := by
    simp [CStr.buffer, List.drop_append_of_le_length h2, List.take_append_eq_append_take]
  have hlen : s.buffer.length = s.chars.length + 1 := by simp [CStr.buffer]
  refine ⟨_, by
    rw [memmove, strlenAt_buffer s h2, if_pos (by omega), hmove, storeAt, if_pos (by simp; omega)],
    ?_⟩
  have htake : s.buffer.take dst = s.chars.take dst := by
    simp [CStr.buffer, List.take_append_eq_append_take, Nat.sub_eq_zero_of_le (h1.trans h2)]
  rw [htake, show ∀ a b r : List Char, a ++ (b ++ [nul]) ++ r = a ++ b ++ nul :: r by simp]
  exact cstrOf_append_nul _ _ hn

/-- The same cut in an allocation that holds more bytes after the string's NUL, as `str` does
once an earlier `memmove` has shortened it. -/
theorem memmove_cut_append (t u : List Char) (ht : nul ∉ t) {dst src : ℕ} (h1 : dst ≤ src)
    (h2 : src ≤ t.length) :
    ∃ buf, memmove (t ++ nul :: u) dst src (strlenAt (t ++ nul :: u) src + 1) = some buf ∧
      (cstrOf buf).chars = t.take dst ++ t.drop src := by
  have hlen : strlenAt (t ++ nul :: u) src = t.length - src := by
    have := strlenAt_append_nul (t.take src) (t.drop src) u fun hm => ht (List.mem_of_mem_drop hm)
    rwa [List.take_append_drop, List.length_take, min_eq_left h2, List.length_drop] at this
  have hmove : ((t ++ nul :: u).drop src).take (t.length - src + 1) = t.drop src ++ [nul] := by
    simp [List.drop_append_of_le_length h2, List.take_append_eq_append_take]
  refine ⟨_, by
    rw [memmove, hlen, if_pos (by simp; omega), hmove, storeAt, if_pos (by simp; omega)], ?_⟩
  rw [List.take_append_of_le_length (h1.trans h2),
    show ∀ a b r : List Char, a ++ (b ++ [nul]) ++ r = a ++ b ++ nul :: r by simp]
  exact cstrOf_append_nul _ _ fun hm => ht (by
    rcases List.mem_append.mp hm with hm | hm
    exacts [List.mem_of_mem_take hm, List.mem_of_mem_drop hm])

/-! ## Stack buffers -/

/-- An uninitialised `char buf[n]`. -/
def uninit (n : ℕ) : List (Option Char) := List.replicate n none

/-- Store the bytes `src` at offset `off` of a stack buffer. -/
def writeAt (buf : List (Option Char)) (off : ℕ) (src : List Char) : Option (List (Option Char)) :=
  storeAt buf off (src.map some)

/-- The bytes `strlcpy(dst, src, size)` writes: at most `size - 1` characters and a NUL. -/
def strlcpyBytes (src : CStr) (size : ℕ) : List Char :=
  if size = 0 then [] else src.chars.take (size - 1) ++ [nul]

/-- The bytes `strncpy(dst, src, n)` writes: `src` up to its first NUL, padded with NULs
to exactly `n` bytes. -/
def strncpyBytes (src : List Char) (n : ℕ) : List Char :=
  (src.takeWhile (· != nul) ++ List.replicate n nul).take n

end SystemLogging
