import SystemLogging.CString

/-!
# `bug_map` and the bug metadata of a denial

`src/logd/LogAudit.cpp`. `populateDenialMap` reads three `bug_map` files once, in the order
`system_ext`, `vendor`, `system`. Each well-formed line `scontext tcontext tclass bug` goes
into `denial_to_bug` through `try_emplace`, which never overwrites an entry, so the first
line that names a key wins. `auditParse` looks up the key `denialParse` extracts from a
denial and appends the app name of the uid.

`auditParse_bugMetadata` says that the `bug=` part of `auditParse` is what the first line
tagging the denial's key says, over the files in order and then their lines. The proof has
one lemma per level of the nested loop: `try_emplace` (`mapFind_tryEmplace`), one line
(`mapFind_loadLine`), the lines of a file (`mapFind_foldl_loadLine`), one file
(`mapFind_loadFile`) and the files (`mapFind_populateDenialMap`).
-/

namespace SystemLogging.Logd

/-! ## libbase string helpers

`android::base::Split` and `Tokenize` are libbase functions, outside `src/`; they are
modelled by their documented behaviour. -/

/-- `android::base::Split(s, delimiter)`: the pieces between delimiters, empty ones kept. -/
def split (s : List Char) (delimiter : Char) : List (List Char) := s.splitOn delimiter

/-- `android::base::Tokenize(s, delimiter)`: the non-empty pieces between delimiters. -/
def tokenize (s : List Char) (delimiter : Char) : List (List Char) :=
  (s.splitOn delimiter).filter fun t => !t.isEmpty

/-! ## `populateDenialMap` -/

/-- A `(scontext, tcontext, tclass)` key of `denial_to_bug`. -/
abbrev DenialKey := List Char × List Char × List Char

/-- `denial_to_bug`, a `std::map` from keys to bug numbers, as a list of entries. -/
abbrev DenialMap := List (DenialKey × List Char)

/-- `std::map::find`: the bug number stored at `k`. -/
def mapFind : DenialMap → DenialKey → Option (List Char)
  | [], _ => none
  | (k', v) :: m, k => if k = k' then some v else mapFind m k

/-- What `try_emplace` returns: the map after the call, `success`, and the value at the key. -/
structure Emplaced where
  map : DenialMap
  success : Bool
  value : List Char

/-- `std::map::try_emplace(k, v)`: inserts `v` only when `k` is absent. -/
def tryEmplace (m : DenialMap) (k : DenialKey) (v : List Char) : Emplaced :=
  match mapFind m k with
  | some value => ⟨m, false, value⟩
  | none => ⟨(k, v) :: m, true, v⟩

/-- The severity of a line `LOG` writes. -/
inductive Severity
  | info
  | warning
  | error
  deriving DecidableEq, Repr

/-- A line `populateDenialMap` writes to logd's own log. -/
structure LogLine where
  severity : Severity
  text : List Char
  deriving DecidableEq, Repr

/-- The state of the nested loop: the map, the current file's `errors`, and the log. -/
structure LoadState where
  denialToBug : DenialMap
  errors : ℕ
  log : List LogLine

/-- One iteration of the loop over the lines of `file`. -/
def loadLine (file : List Char) (st : LoadState) (line : List Char) : LoadState :=
  let fields := tokenize line ' '
  -- `fields.empty() || StartsWith(fields.front(), '#')`
  if fields.isEmpty || (fields.headD []).head? == some '#' then st
  else match fields with
    | [scontext, tcontext, tclass, bugNum] =>
      let r := tryEmplace st.denialToBug (scontext, tcontext, tclass) bugNum
      let st := { st with denialToBug := r.map }
      if r.success then st
      else { st with log := st.log ++ [⟨.warning, "Ignored bug_map definition in ".toList ++
        file ++ ": \x27".toList ++ line ++ ("\x27, (scontext, tcontext, tclass) denial " ++
        "combination is already tagged with bug metadata \x27").toList ++ r.value ++
        "\x27".toList⟩] }
    | _ => { st with errors := st.errors + 1, log := st.log ++ [⟨.error,
        "Ignored ill-formed bug_map definition in ".toList ++ file ++ ": \x27".toList ++ line ++
        "\x27".toList⟩] }

/-- The three files, in the order the loop reads them. -/
def bugMapFiles : List (List Char) :=
  ["/system_ext/etc/selinux/bug_map".toList,
    "/vendor/etc/selinux/selinux_denial_metadata".toList,
    "/system/etc/selinux/bug_map".toList]

/-- One iteration of the loop over files. `readFile` is `ReadFileToString`, `none` when it
fails. -/
def loadFile (readFile : List Char → Option (List Char)) (st : LoadState) (file : List Char) :
    LoadState :=
  match readFile file with
  | none => st
  | some contents =>
    let st := (split contents '\n').foldl (loadLine file) { st with errors := 0 }
    { st with log := st.log ++ [if st.errors ≠ 0 then
        ⟨.error, "Loaded bug_map file with ".toList ++ (toString st.errors).toList ++
          " errors: ".toList ++ file⟩
      else ⟨.info, "Loaded bug_map file: ".toList ++ file⟩] }

/-- `populateDenialMap()`: the map it returns, with what it logged. -/
def populateDenialMap (readFile : List Char → Option (List Char)) : LoadState :=
  bugMapFiles.foldl (loadFile readFile) ⟨[], 0, []⟩

/-! ## `denialParse` and `auditParse` -/

/-- `LogAudit::denialParse(denial, terminator, search_term)`: the text after the first
`search_term` up to the next `terminator`, empty when `search_term` does not occur. -/
def denialParse (denial : List Char) (terminator : Char) (searchTerm : List Char) : List Char :=
  match strstr denial searchTerm with
  | none => []
  | some startIndex =>
    let rest := denial.drop (startIndex + searchTerm.length)
    match strchr rest terminator with
    | some n => rest.take n
    -- `npos - start_index` reaches past the end of the string
    | none => rest

/-- The key `auditParse` looks up: the `object_r` contexts, else the `r` ones, and the class. -/
def denialKey (string : List Char) : DenialKey :=
  let scontext := denialParse string ':' "scontext=u:object_r:".toList
  let tcontext := denialParse string ':' "tcontext=u:object_r:".toList
  let tclass := denialParse string ' ' "tclass=".toList
  let scontext := if scontext.isEmpty then denialParse string ':' "scontext=u:r:".toList
    else scontext
  let tcontext := if tcontext.isEmpty then denialParse string ':' "tcontext=u:r:".toList
    else tcontext
  (scontext, tcontext, tclass)

/-- The `" bug="` part of `auditParse`. -/
def bugMetadata (denialToBug : DenialMap) (string : List Char) : List Char :=
  match mapFind denialToBug (denialKey string) with
  | some bug => " bug=".toList ++ bug
  | none => []

/-- The `" app="` part of `auditParse`. `uidToName` is `android::uidToName`, `none` for
`nullptr`. -/
def appMetadata (uidToName : ℕ → Option CStr) (uid : ℕ) : List Char :=
  if aidAppStart ≤ uid ∧ uid ≤ aidAppEnd then
    match uidToName uid with
    | some uidname => " app=".toList ++ uidname.chars
    | none => []
  else []

/-- `LogAudit::auditParse(string, uid)`. The static `denial_to_bug` is `populateDenialMap`
of the files as they were at the first call. -/
def auditParse (readFile : List Char → Option (List Char)) (uidToName : ℕ → Option CStr)
    (string : List Char) (uid : ℕ) : List Char :=
  bugMetadata (populateDenialMap readFile).denialToBug string ++ appMetadata uidToName uid

/-! ## The bug number of a key, as the files state it -/

/-- What a `bug_map` line says about `key`: its fourth token, when the line has exactly four
space-separated tokens, the first does not start with `#`, and the first three are `key`. -/
def tagValue (key : DenialKey) (line : List Char) : Option (List Char) :=
  match tokenize line ' ' with
  | [scontext, tcontext, tclass, bug] =>
    if scontext.head? ≠ some '#' ∧ (scontext, tcontext, tclass) = key then some bug else none
  | _ => none

/-- The lines of the three files, in file order and then line order; a file that cannot be
read has none. -/
def bugMapLines (readFile : List Char → Option (List Char)) : List (List Char) :=
  bugMapFiles.flatMap fun file => ((readFile file).map (split · '\n')).getD []

/-- The bug number of `key`: what the first line that tags it says. -/
def firstMatch (key : DenialKey) (lines : List (List Char)) : Option (List Char) :=
  (lines.filterMap (tagValue key)).head?

theorem firstMatch_cons (key : DenialKey) (line : List Char) (lines : List (List Char)) :
    firstMatch key (line :: lines) = (tagValue key line).or (firstMatch key lines) := by
  cases h : tagValue key line <;> simp only [firstMatch, List.filterMap_cons, h] <;> rfl

theorem firstMatch_append (key : DenialKey) (l₁ l₂ : List (List Char)) :
    firstMatch key (l₁ ++ l₂) = (firstMatch key l₁).or (firstMatch key l₂) := by
  simp [firstMatch, List.filterMap_append, List.head?_append]

/-! ## The nested loop keeps the first line of each key -/

@[simp]
theorem mapFind_cons (k k' : DenialKey) (v : List Char) (m : DenialMap) :
    mapFind ((k', v) :: m) k = if k = k' then some v else mapFind m k := rfl

/-- `try_emplace` adds `k` only where the map had nothing. -/
theorem mapFind_tryEmplace (m : DenialMap) (k k' : DenialKey) (v : List Char) :
    mapFind (tryEmplace m k v).map k' = (mapFind m k').or (if k = k' then some v else none) := by
  unfold tryEmplace
  by_cases hk : k = k'
  · subst hk
    cases h : mapFind m k <;> simp [h]
  · cases mapFind m k <;> simp [hk, Ne.symm hk]

theorem mapFind_loadLine (file : List Char) (st : LoadState) (line : List Char)
    (key : DenialKey) :
    mapFind (loadLine file st line).denialToBug key =
      (mapFind st.denialToBug key).or (tagValue key line) := by
  unfold loadLine tagValue
  rcases tokenize line ' ' with _ | ⟨a, _ | ⟨b, _ | ⟨c, _ | ⟨d, _ | ⟨e, rest⟩⟩⟩⟩⟩ <;>
    simp only [List.isEmpty_cons, List.isEmpty_nil, List.headD_cons, Bool.true_or,
      Bool.false_or, if_true, Option.or_none]
  all_goals
    by_cases hh : a.head? = some '#'
    · simp [hh]
  · simp [hh]
  · simp [hh]
  · simp [hh]
  · simp only [hh, beq_iff_eq, if_false, ne_eq, not_false_eq_true, true_and, Bool.false_eq_true]
    split <;> exact mapFind_tryEmplace st.denialToBug (a, b, c) key d
  · simp [hh]

theorem mapFind_foldl_loadLine (file : List Char) (key : DenialKey) (lines : List (List Char))
    (st : LoadState) :
    mapFind (lines.foldl (loadLine file) st).denialToBug key =
      (mapFind st.denialToBug key).or (firstMatch key lines) := by
  induction lines generalizing st with
  | nil => simp [firstMatch]
  | cons line lines ih =>
    rw [List.foldl_cons, ih, mapFind_loadLine, firstMatch_cons, Option.or_assoc]

theorem mapFind_loadFile (readFile : List Char → Option (List Char)) (st : LoadState)
    (file : List Char) (key : DenialKey) :
    mapFind (loadFile readFile st file).denialToBug key =
      (mapFind st.denialToBug key).or
        (firstMatch key (((readFile file).map (split · '\n')).getD [])) := by
  unfold loadFile
  cases readFile file with
  | none => simp [firstMatch]
  | some contents => exact mapFind_foldl_loadLine file key _ _

/-- The map `populateDenialMap` builds holds, for every key, what the first line tagging it
says. -/
theorem mapFind_populateDenialMap (readFile : List Char → Option (List Char))
    (key : DenialKey) :
    mapFind (populateDenialMap readFile).denialToBug key =
      firstMatch key (bugMapLines readFile) := by
  have run : ∀ (files : List (List Char)) (st : LoadState),
      mapFind (files.foldl (loadFile readFile) st).denialToBug key =
        (mapFind st.denialToBug key).or (firstMatch key
          (files.flatMap fun file => ((readFile file).map (split · '\n')).getD [])) := by
    intro files
    induction files with
    | nil => simp [firstMatch]
    | cons file files ih =>
      intro st
      rw [List.foldl_cons, ih, mapFind_loadFile, List.flatMap_cons, firstMatch_append,
        Option.or_assoc]
  simpa using run bugMapFiles ⟨[], 0, []⟩

theorem auditParse_bugMetadata (readFile : List Char → Option (List Char))
    (uidToName : ℕ → Option CStr) (s : List Char) (uid : ℕ) :
    auditParse readFile uidToName s uid =
      (match firstMatch (denialKey s) (bugMapLines readFile) with
        | some v => " bug=".toList ++ v
        | none => []) ++ appMetadata uidToName uid := by
  rw [auditParse, bugMetadata, mapFind_populateDenialMap]

/-! ## What `populateDenialMap` logs for a file

`errors` is declared inside the loop over files, so each file's summary line counts that
file's ill-formed lines only, which are exactly the `ERROR` lines the loop wrote for it
(`loadFile_summary`). -/

/-- A line the loop counts in `errors`: neither blank nor a comment, and not four tokens. -/
def illFormed (line : List Char) : Bool :=
  !((tokenize line ' ').isEmpty || ((tokenize line ' ').headD []).head? == some '#') &&
    (tokenize line ' ').length != 4

/-- A line of severity `ERROR`. -/
def LogLine.isError (l : LogLine) : Bool := l.severity == .error

/-- One line adds one `ERROR` line and one error when it is ill-formed, and no `ERROR` line
otherwise. -/
theorem loadLine_log (file : List Char) (st : LoadState) (line : List Char) :
    ∃ extra, (loadLine file st line).log = st.log ++ extra ∧
      extra.countP LogLine.isError = (if illFormed line then 1 else 0) ∧
      (loadLine file st line).errors = st.errors + if illFormed line then 1 else 0 := by
  unfold loadLine illFormed
  generalize tokenize line ' ' = fields
  by_cases hs : (fields.isEmpty || (fields.headD []).head? == some '#') = true
  · simp only [hs, if_true, Bool.not_true, Bool.false_and]
    exact ⟨[], by simp⟩
  rw [if_neg hs]
  simp only [Bool.not_eq_true] at hs
  simp only [hs, Bool.not_false, Bool.true_and]
  rcases fields with _ | ⟨a, _ | ⟨b, _ | ⟨c, _ | ⟨d, _ | ⟨e, rest⟩⟩⟩⟩⟩
  · exact absurd hs (by decide)
  -- one to three tokens: ill-formed
  iterate 3 exact ⟨_, rfl, rfl, rfl⟩
  -- four tokens: `try_emplace`, and a warning when the key was already there
  · dsimp only
    split
    · exact ⟨[], by simp, rfl, rfl⟩
    · exact ⟨_, rfl, rfl, rfl⟩
  -- five or more: ill-formed
  · have hlen : ((a :: b :: c :: d :: e :: rest).length != 4) = true := bne_iff_ne.mpr (by simp)
    exact ⟨_, rfl, by rw [if_pos hlen]; rfl, by rw [if_pos hlen]⟩

/-- The loop over a file's lines: the `ERROR` lines it adds and the errors it counts are its
ill-formed lines. -/
theorem foldl_loadLine_log (file : List Char) (lines : List (List Char)) (st : LoadState) :
    ∃ extra, (lines.foldl (loadLine file) st).log = st.log ++ extra ∧
      extra.countP LogLine.isError = lines.countP illFormed ∧
      (lines.foldl (loadLine file) st).errors = st.errors + lines.countP illFormed := by
  induction lines generalizing st with
  | nil => exact ⟨[], by simp⟩
  | cons line lines ih =>
    obtain ⟨e₁, hl₁, hc₁, he₁⟩ := loadLine_log file st line
    obtain ⟨e₂, hl₂, hc₂, he₂⟩ := ih (loadLine file st line)
    refine ⟨e₁ ++ e₂, by rw [List.foldl_cons, hl₂, hl₁, List.append_assoc], ?_, ?_⟩
    · rw [List.countP_append, hc₁, hc₂, List.countP_cons]
      omega
    · rw [List.foldl_cons, he₂, he₁, List.countP_cons]
      omega

/-- For a file it reads, `populateDenialMap` writes the lines' messages, then one summary line
whose count is that of the file's ill-formed lines, whatever the files before it held; and
that count is the number of `ERROR` lines it wrote for the file. -/
theorem loadFile_summary (readFile : List Char → Option (List Char)) (st : LoadState)
    {file contents : List Char} (h : readFile file = some contents) :
    ∃ extra, (loadFile readFile st file).log = st.log ++ extra ++
        [if (split contents '\n').countP illFormed ≠ 0 then
          ⟨.error, "Loaded bug_map file with ".toList ++
            (toString ((split contents '\n').countP illFormed)).toList ++ " errors: ".toList ++ file⟩
        else ⟨.info, "Loaded bug_map file: ".toList ++ file⟩] ∧
      extra.countP LogLine.isError = (split contents '\n').countP illFormed := by
  obtain ⟨extra, hl, hc, he⟩ := foldl_loadLine_log file (split contents '\n') { st with errors := 0 }
  refine ⟨extra, ?_, hc⟩
  simp only [loadFile, h, hl, he, Nat.zero_add]

/-- A file with a well-formed line, an ill-formed one and a comment. -/
theorem loadFile_summary_one_error :
    ∃ extra, (loadFile (fun _ => some "u:r:a u:r:b file 123\nbad\n# note".toList) ⟨[], 0, []⟩
        "/system/etc/selinux/bug_map".toList).log = [] ++ extra ++
        [if (split "u:r:a u:r:b file 123\nbad\n# note".toList '\n').countP illFormed ≠ 0 then
          ⟨.error, "Loaded bug_map file with ".toList ++
            (toString ((split "u:r:a u:r:b file 123\nbad\n# note".toList '\n').countP
              illFormed)).toList ++ " errors: ".toList ++ "/system/etc/selinux/bug_map".toList⟩
        else ⟨.info, "Loaded bug_map file: ".toList ++ "/system/etc/selinux/bug_map".toList⟩] ∧
      extra.countP LogLine.isError =
        (split "u:r:a u:r:b file 123\nbad\n# note".toList '\n').countP illFormed :=
  loadFile_summary (fun _ => some "u:r:a u:r:b file 123\nbad\n# note".toList) ⟨[], 0, []⟩ rfl

end SystemLogging.Logd
