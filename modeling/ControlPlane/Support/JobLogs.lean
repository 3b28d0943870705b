import ControlPlane.Basic
import Mathlib.Data.List.DropRight

/-!
# The logs of a job

`append_log` stores a line in the job's row and publishes it.  What it puts in front of a line is not a line break but a
backslash and an `n`, so the logs of a job with at least one line are one line that starts with a backslash.
-/

namespace ControlPlane

open UnicodeText (isSpace)

/-- `isoformat` of a time, which is on one line. -/
structure IsoFormat where
  text : Time → String
  oneLine : ∀ t, '\n' ∉ (text t).toList

/-- The stored logs of a job and what was published for it, the oldest first. -/
structure JobLog where
  logs : String
  published : List String
  deriving DecidableEq, Repr

def JobLog.empty : JobLog := ⟨"", []⟩

/-- The line of a message. -/
def logLine (iso : IsoFormat) (now : Time) (message : String) : String := "[" ++ iso.text now ++ "] " ++ message

/-- `append_log`; the f-string has `\\n` between the logs and the line, which is not a line break. -/
def appendLog (iso : IsoFormat) (job : JobLog) (now : Time) (message : String) : JobLog :=
  let line := logLine iso now message
  ⟨strip (job.logs ++ "\\n" ++ line), job.published ++ [line]⟩

/-- A sequence of appends to an empty job. -/
def appended (iso : IsoFormat) (appends : List (Time × String)) : JobLog :=
  appends.foldl (fun job append => appendLog iso job append.1 append.2) .empty

/-! ### What is stored -/

/-- One line that starts with a backslash. -/
def BackslashLine (text : String) : Prop := ∃ rest, text.toList = '\\' :: rest ∧ '\n' ∉ rest

/-- A trimmed end does not reach a character in front that is kept. -/
theorem rdropWhile_cons {α : Type} {p : α → Bool} {c : α} (hc : p c = false) (rest : List α) :
    ∃ rest', (c :: rest).rdropWhile p = c :: rest' ∧ rest' <+: rest := by
  obtain ⟨tail, htail⟩ := List.rdropWhile_prefix p (c :: rest)
  cases hkept : (c :: rest).rdropWhile p with
  | nil =>
    have hdropped := List.rdropWhile_eq_nil_iff.1 hkept c (List.mem_cons_self ..)
    rw [hc] at hdropped
    cases hdropped
  | cons d rest' =>
    rw [hkept, List.cons_append] at htail
    obtain ⟨rfl, hrest⟩ := List.cons.inj htail
    exact ⟨rest', rfl, tail, hrest⟩

theorem BackslashLine.stripped {text : String} (h : BackslashLine text) : BackslashLine (strip text) := by
  obtain ⟨rest, htext, hline⟩ := h
  have hkept : ('\\' :: rest).dropWhile isSpace = '\\' :: rest := List.dropWhile_cons_of_neg (by decide)
  obtain ⟨rest', hstripped, hrest⟩ := rdropWhile_cons (p := isSpace) (c := '\\') (by decide) rest
  refine ⟨rest', ?_, fun hmem => hline (hrest.subset hmem)⟩
  unfold strip UnicodeText.strip
  rw [htext, hkept, hstripped, String.toList_ofList]

theorem appendLog_logs {iso : IsoFormat} {job : JobLog} {now : Time} {message : String} (hmessage : '\n' ∉ message.toList)
    (h : job.logs = "" ∨ BackslashLine job.logs) : BackslashLine (appendLog iso job now message).logs := by
  have hline : '\n' ∉ (logLine iso now message).toList := by
    have hiso := iso.oneLine now
    unfold logLine
    simp [hiso, hmessage]
  refine BackslashLine.stripped ?_
  rcases h with hempty | ⟨rest, hrest, hnone⟩
  · refine ⟨'n' :: (logLine iso now message).toList, ?_, ?_⟩
    · rw [hempty, String.toList_append, String.toList_append]
      rfl
    · simpa using hline
  · refine ⟨rest ++ ('\\' :: 'n' :: (logLine iso now message).toList), ?_, ?_⟩
    · rw [String.toList_append, String.toList_append, hrest, List.cons_append, List.cons_append, List.append_assoc]
      rfl
    · simp [hnone, hline]

section
variable {iso : IsoFormat} {appends : List (Time × String)}

theorem appended_concat (append : Time × String) :
    appended iso (appends ++ [append]) = appendLog iso (appended iso appends) append.1 append.2 := by
  unfold appended
  rw [List.foldl_append]
  rfl

theorem appended_published : (appended iso appends).published = appends.map fun append => logLine iso append.1 append.2 := by
  induction appends using List.reverseRecOn with
  | nil => rfl
  | append_singleton appends append ih =>
    rw [appended_concat, List.map_append, ← ih]
    rfl

/-- After an append the logs are one line that starts with a backslash. -/
theorem appended_logs (hne : appends ≠ []) (h : ∀ append ∈ appends, '\n' ∉ append.2.toList) :
    BackslashLine (appended iso appends).logs := by
  induction appends using List.reverseRecOn with
  | nil => exact absurd rfl hne
  | append_singleton appends append ih =>
    rw [appended_concat]
    refine appendLog_logs (h append (by simp)) ?_
    by_cases hbefore : appends = []
    · subst hbefore
      exact Or.inl rfl
    · exact Or.inr (ih hbefore fun a ha => h a (List.mem_append_left _ ha))

end

end ControlPlane
