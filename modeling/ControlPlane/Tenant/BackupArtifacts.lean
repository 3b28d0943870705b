import ControlPlane.Tenant.BackupService

/-!
# Which path the manifest names

A path that ends in `.sql.gz` and any path on a line with the word `database` score the same hundred, and the site's name
stands in most of the lines that the bench writes.  What decides then is the smaller part of the score, and the order.
-/

namespace ControlPlane

open Patterns Patterns.Matcher

section Candidates
variable (python : PythonText)

/-- The candidates of an output whose sizes can all be read. -/
def outputCandidates (stdout : String) : List BackupCandidate :=
  (splitlines stdout).flatMap fun line =>
    (backupPathRegex.findAll line).map fun path =>
      ⟨line, path, ((parseSizeBytes python line).toOption).getD none⟩

/-- The sizes on the lines of an output are numbers that Python can read. -/
def SizesReadable (stdout : String) : Prop := ∀ line ∈ splitlines stdout, (parseSizeBytes python line).isOk = true

/-- A path that is not a dump, on a line with the word `database`. -/
def BackupCandidate.rival (candidate : BackupCandidate) : Bool :=
  !isDatabaseDump candidate.path && mentions python "database" candidate.line

/-- The smaller part of the score. -/
def BackupCandidate.bonus (candidate : BackupCandidate) : Nat :=
  (if mentions python "backup" candidate.line then 20 else 0) +
    (if candidate.path.head? = some '/' then 5 else 0) +
    (if candidate.size.isSome then 3 else 0)

/-- One of the dumps has a higher bonus than each rival, or the same bonus and an earlier place. -/
def DumpPreferred (candidates : List BackupCandidate) : Prop :=
  ∃ dump ∈ candidates, isDatabaseDump dump.path = true ∧ ∀ other ∈ candidates, other.rival python = true →
    other.bonus python < dump.bonus python ∨
      other.bonus python = dump.bonus python ∧ candidates.idxOf dump < candidates.idxOf other

instance (candidates : List BackupCandidate) : Decidable (DumpPreferred python candidates) :=
  inferInstanceAs (Decidable (∃ dump ∈ candidates, _))

instance (stdout : String) : Decidable (SizesReadable python stdout) :=
  inferInstanceAs (Decidable (∀ line ∈ splitlines stdout, _))

end Candidates

section Selection
variable {python : PythonText} {stdout : String}

/-! ### The candidates -/

theorem mapM_lineCandidates_of_readable {lines : List (List Char)}
    (h : ∀ line ∈ lines, (parseSizeBytes python line).isOk = true) :
    lines.mapM (lineCandidates python) = .ok (lines.map fun line => (backupPathRegex.findAll line).map fun path =>
      ⟨line, path, ((parseSizeBytes python line).toOption).getD none⟩) := by
  induction lines with
  | nil => rfl
  | cons line lines ih =>
    rw [List.mapM_cons, ih fun other hother => h other (List.mem_cons_of_mem line hother)]
    have hline := h line List.mem_cons_self
    unfold lineCandidates
    cases hsize : parseSizeBytes python line with
    | error e =>
      rw [hsize] at hline
      cases hline
    | ok size =>
      rw [List.map_cons, hsize]
      rfl

theorem mapM_lineCandidates_error {lines : List (List Char)} {line : List Char} (hmem : line ∈ lines)
    (h : (parseSizeBytes python line).isOk = false) : ∃ e, lines.mapM (lineCandidates python) = .error e := by
  induction lines with
  | nil => cases hmem
  | cons first lines ih =>
    rw [List.mapM_cons]
    unfold lineCandidates at ih ⊢
    cases hsize : parseSizeBytes python first with
    | error e => exact ⟨e, rfl⟩
    | ok size =>
      rcases List.mem_cons.1 hmem with rfl | hlater
      · rw [hsize] at h
        cases h
      · obtain ⟨e, he⟩ := ih hlater
        exact ⟨e, by rw [he]; rfl⟩

theorem backupCandidates_of_readable (h : SizesReadable python stdout) :
    backupCandidates python stdout = .ok (outputCandidates python stdout) := by
  unfold backupCandidates outputCandidates
  rw [mapM_lineCandidates_of_readable h, List.flatMap_def]
  rfl

theorem readable_of_candidates {candidates : List BackupCandidate}
    (h : backupCandidates python stdout = .ok candidates) : SizesReadable python stdout := by
  intro line hline
  by_contra hunreadable
  obtain ⟨e, he⟩ := mapM_lineCandidates_error hline (Bool.not_eq_true _ ▸ hunreadable)
  unfold backupCandidates at h
  rw [he] at h
  cases h

/-! ### The score -/

theorem candidateScore_eq (candidate : BackupCandidate) :
    candidateScore python candidate =
      (if isDatabaseDump candidate.path ∨ mentions python "database" candidate.line then 100 else 0) +
        candidate.bonus python := by
  unfold candidateScore BackupCandidate.bonus
  omega

theorem bonus_le (candidate : BackupCandidate) : candidate.bonus python ≤ 28 := by
  unfold BackupCandidate.bonus
  split <;> split <;> split <;> decide

theorem score_of_dump {candidate : BackupCandidate} (h : isDatabaseDump candidate.path = true) :
    candidateScore python candidate = 100 + candidate.bonus python := by
  rw [candidateScore_eq, if_pos (Or.inl h)]

theorem score_of_rival {candidate : BackupCandidate} (h : candidate.rival python = true) :
    candidateScore python candidate = 100 + candidate.bonus python := by
  unfold BackupCandidate.rival at h
  rw [candidateScore_eq, if_pos (Or.inr (Bool.and_eq_true_iff.1 h).2)]

theorem score_of_other {candidate : BackupCandidate} (hdump : isDatabaseDump candidate.path = false)
    (hrival : candidate.rival python = false) : candidateScore python candidate ≤ 28 := by
  unfold BackupCandidate.rival at hrival
  rw [hdump, Bool.not_false, Bool.true_and] at hrival
  rw [candidateScore_eq, hdump, hrival, if_neg (by simp), Nat.zero_add]
  exact bonus_le candidate

/-- The best candidate is a dump exactly when one of the dumps is preferred to each rival. -/
theorem argmax_dump_iff {candidates : List BackupCandidate} :
    (∃ best, candidates.argmax (candidateScore python) = some best ∧ isDatabaseDump best.path = true) ↔
      DumpPreferred python candidates := by
  constructor
  · rintro ⟨best, hbest, hdump⟩
    obtain ⟨hmem, hmost, hfirst⟩ := List.argmax_eq_some_iff.1 hbest
    refine ⟨best, hmem, hdump, fun other hother hrival => ?_⟩
    have hle := hmost other hother
    rw [score_of_rival hrival, score_of_dump hdump] at hle
    rcases (Nat.le_of_add_le_add_left hle).lt_or_eq with hless | hsame
    · exact Or.inl hless
    · refine Or.inr ⟨hsame, ?_⟩
      have hearlier := hfirst other hother (by rw [score_of_rival hrival, score_of_dump hdump, hsame])
      refine hearlier.lt_of_ne fun heq => ?_
      -- two candidates with one place are one candidate, but a rival is no dump
      have hone : best = other := (List.idxOf_inj hmem).1 heq
      subst hone
      unfold BackupCandidate.rival at hrival
      rw [hdump] at hrival
      cases hrival
  · rintro ⟨dump, hmem, hdump, hpreferred⟩
    obtain ⟨best, hbest⟩ : ∃ best, candidates.argmax (candidateScore python) = some best := by
      cases hnone : candidates.argmax (candidateScore python) with
      | none =>
        rw [List.argmax_eq_none] at hnone
        subst hnone
        cases hmem
      | some best => exact ⟨best, rfl⟩
    refine ⟨best, hbest, ?_⟩
    obtain ⟨hbestMem, hmost, hfirst⟩ := List.argmax_eq_some_iff.1 hbest
    have hle := hmost dump hmem
    rw [score_of_dump hdump] at hle
    by_contra hnot
    rw [Bool.not_eq_true] at hnot
    by_cases hrival : best.rival python = true
    · rw [score_of_rival hrival] at hle
      rcases hpreferred best hbestMem hrival with hless | ⟨hsame, hlater⟩
      · omega
      · have hearlier := hfirst dump hmem (by rw [score_of_rival hrival, score_of_dump hdump, hsame])
        omega
    · rw [Bool.not_eq_true] at hrival
      have hsmall := score_of_other hnot hrival
      omega

/-- The manifest points at a database dump exactly when the sizes can be read and one of the dumps is preferred to every
other path on a line with the word `database`. -/
theorem dump_selected_iff (python : PythonText) (stdout : String) :
    (∃ selected, selectCandidate python stdout = .ok (some selected) ∧ isDatabaseDump selected.path = true) ↔
      SizesReadable python stdout ∧ DumpPreferred python (outputCandidates python stdout) := by
  constructor
  · rintro ⟨selected, hselected, hdump⟩
    unfold selectCandidate at hselected
    cases hcandidates : backupCandidates python stdout with
    | error e =>
      rw [hcandidates] at hselected
      cases hselected
    | ok candidates =>
      have hreadable := readable_of_candidates hcandidates
      rw [backupCandidates_of_readable hreadable] at hselected
      exact ⟨hreadable, argmax_dump_iff.1 ⟨selected, Except.ok.inj hselected, hdump⟩⟩
  · rintro ⟨hreadable, hpreferred⟩
    obtain ⟨best, hbest, hdump⟩ := argmax_dump_iff.2 hpreferred
    refine ⟨best, ?_, hdump⟩
    unfold selectCandidate
    rw [backupCandidates_of_readable hreadable]
    exact congrArg Except.ok hbest

end Selection

namespace Small

/-- Python's text functions on ASCII, with sizes rounded down. -/
def python : PythonText where
  isDigit := Char.isDigit
  isSpace := Char.isWhitespace
  isWord c := c.isAlphanum || c == '_'
  lower text := text.map Char.toLower
  int text := .ok (Nat.ofDigitChars 10 text 0)
  scaled text multiplier := .ok (Nat.ofDigitChars 10 (text.takeWhile Char.isDigit) 0 * multiplier)

/-- What the bench writes of a backup, for a site with the word `database` in its name. -/
def databaseSite : String :=
  "Config: database.erp.blenkotechnologies.co.tz/c.json\nDatabase: database.erp.blenkotechnologies.co.tz/d.sql.gz"

end Small

set_option maxRecDepth 100000 in
/-- There the site's configuration is taken for the backup. -/
theorem configuration_selected : ¬∀ (python : PythonText) (stdout : String),
    (∃ line ∈ splitlines stdout, ∃ path ∈ backupPathRegex.findAll line, isDatabaseDump path = true) →
      ∃ selected, selectCandidate python stdout = .ok (some selected) ∧ isDatabaseDump selected.path = true := by
  intro h
  have hfound : (∃ line ∈ splitlines Small.databaseSite, ∃ path ∈ backupPathRegex.findAll line,
      isDatabaseDump path = true) ∧ (selectCandidate Small.python Small.databaseSite).toOption.join.any
        (fun selected => isDatabaseDump selected.path) = false := by decide +kernel
  obtain ⟨selected, hok, hdump⟩ := h Small.python Small.databaseSite hfound.1
  have hselected := hfound.2
  rw [hok] at hselected
  change isDatabaseDump selected.path = false at hselected
  rw [hdump] at hselected
  cases hselected

end ControlPlane
