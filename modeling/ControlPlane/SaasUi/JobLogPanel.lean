import ControlPlane.Support.JobLogs

/-!
# The log panel

The panel shows the stored logs of a job, split into lines, and adds the published lines as they come.  The logs of a job
with a line in them are one line that starts with a backslash, while every published line starts with a bracket; so the
two show the same only for a job without lines.
-/

namespace ControlPlane.SaasUi

/-- The characters that `trimEnd` takes for white space. -/
def isJsSpace (c : Char) : Bool :=
  let n := c.toNat
  (9 ≤ n && n ≤ 13) || n == 32 || n == 160 || n == 0x1680 || (0x2000 ≤ n && n ≤ 0x200a) || n == 0x2028 || n == 0x2029 ||
    n == 0x202f || n == 0x205f || n == 0x3000 || n == 0xfeff

def trimEnd (line : String) : String := String.ofList (line.toList.rdropWhile isJsSpace)

/-- A piece in front of a line break, which takes one carriage return with it. -/
def withoutReturn (piece : List Char) : List Char := if piece.getLast? = some '\r' then piece.dropLast else piece

/-- The pieces of `.split(/\r?\n/g)`. -/
def splitLines (text : String) : List String :=
  let pieces := text.toList.splitOn '\n'
  (pieces.dropLast.map withoutReturn ++ pieces.getLast?.toList).map String.ofList

/-- `.slice(-300)`. -/
def lastLines (lines : List String) : List String := lines.drop (lines.length - 300)

def splitLogs (logs : Option String) : List String :=
  match logs with
  | none => []
  | some logs => if logs = "" then [] else lastLines (((splitLines logs).map trimEnd).filter fun line => line ≠ "")

/-- What `appendLine` makes of the lines that are shown. -/
def appendLine (shown : List String) (line : String) : List String :=
  let trimmed := trimEnd line
  if trimmed = "" then shown else lastLines (shown ++ [trimmed])

/-- The panel shows of the stored logs the last 300 published lines, trimmed. -/
def ShowsPublished (job : JobLog) : Prop := splitLogs (some job.logs) = lastLines (job.published.map trimEnd)

/-! ### Lines that are shown live -/

theorem lastLines_of_le {lines : List String} (h : lines.length ≤ 300) : lastLines lines = lines := by
  unfold lastLines
  rw [Nat.sub_eq_zero_of_le h, List.drop_zero]

theorem lastLines_append (lines : List String) (line : String) :
    lastLines (lastLines lines ++ [line]) = lastLines (lines ++ [line]) := by
  unfold lastLines
  rw [← List.drop_append_of_le_length (Nat.sub_le ..), List.drop_drop, List.length_drop, List.length_append]
  refine congrArg (fun n => (lines ++ [line]).drop n) ?_
  rw [List.length_singleton]
  omega

/-- Published lines that are not blank are what the panel shows live. -/
theorem live_lines {lines : List String} (h : ∀ line ∈ lines, trimEnd line ≠ "") :
    lines.foldl appendLine [] = lastLines (lines.map trimEnd) := by
  induction lines using List.reverseRecOn with
  | nil => rfl
  | append_singleton lines line ih =>
    rw [List.foldl_append, ih fun l hl => h l (List.mem_append_left _ hl), List.map_append]
    show appendLine _ line = _
    unfold appendLine
    dsimp only
    rw [if_neg (h line (by simp))]
    exact lastLines_append _ _

theorem trimEnd_cons {line : String} {c : Char} {rest : List Char} (h : line.toList = c :: rest)
    (hc : isJsSpace c = false) : ∃ rest', (trimEnd line).toList = c :: rest' := by
  obtain ⟨rest', htrimmed, -⟩ := rdropWhile_cons hc rest
  refine ⟨rest', ?_⟩
  unfold trimEnd
  rw [h, htrimmed, String.toList_ofList]

theorem trimEnd_logLine (iso : IsoFormat) (now : Time) (message : String) :
    ∃ rest, (trimEnd (logLine iso now message)).toList = '[' :: rest := by
  have hline : (logLine iso now message).toList = '[' :: ((iso.text now).toList ++ "] ".toList ++ message.toList) := by
    unfold logLine
    simp
  exact trimEnd_cons hline (by decide)

/-- What the panel shows live of any appends. -/
theorem live_published (iso : IsoFormat) (appends : List (Time × String)) :
    (appended iso appends).published.foldl appendLine [] =
      lastLines ((appended iso appends).published.map trimEnd) := by
  refine live_lines fun line hline => ?_
  rw [appended_published] at hline
  obtain ⟨append, -, rfl⟩ := List.mem_map.1 hline
  obtain ⟨rest, hrest⟩ := trimEnd_logLine iso append.1 append.2
  intro hempty
  rw [hempty] at hrest
  cases hrest

/-! ### Lines that were stored -/

/-- Logs that are one line with a backslash in front are shown as one line with a backslash in front. -/
theorem splitLogs_backslash {logs : String} (h : BackslashLine logs) :
    ∃ line rest, splitLogs (some logs) = [line] ∧ line.toList = '\\' :: rest := by
  obtain ⟨rest, hlogs, hline⟩ := h
  obtain ⟨rest', htrimmed⟩ := trimEnd_cons hlogs (by decide)
  have hone : splitLines logs = [logs] := by
    unfold splitLines
    rw [List.splitOn_eq_singleton (by rw [hlogs]; simpa using hline)]
    simp
  have hne : logs ≠ "" := by
    rintro rfl
    cases hlogs
  have hkept : trimEnd logs ≠ "" := by
    intro hempty
    rw [hempty] at htrimmed
    cases htrimmed
  refine ⟨trimEnd logs, rest', ?_, htrimmed⟩
  unfold splitLogs
  dsimp only
  rw [if_neg hne, hone, List.map_singleton, List.filter_cons_of_pos (by simpa using hkept), List.filter_nil]
  exact lastLines_of_le (by simp)

/-- For messages without a line break, the panel shows the published lines if and only if there are none. -/
theorem shows_published_iff (iso : IsoFormat) (appends : List (Time × String))
    (h : ∀ append ∈ appends, '\n' ∉ append.2.toList) : ShowsPublished (appended iso appends) ↔ appends = [] := by
  constructor
  · intro hshown
    by_contra hne
    have hlogs : BackslashLine (appended iso appends).logs := appended_logs hne h
    obtain ⟨line, rest, hstored, hbackslash⟩ := splitLogs_backslash hlogs
    have hmem : line ∈ (appended iso appends).published.map trimEnd := by
      refine List.mem_of_mem_drop (?_ : line ∈ lastLines _)
      rw [← hshown, hstored]
      exact List.mem_singleton_self line
    rw [appended_published, List.map_map] at hmem
    obtain ⟨append, -, hpublished⟩ := List.mem_map.1 hmem
    obtain ⟨rest', hbracket⟩ := trimEnd_logLine iso append.1 append.2
    rw [← hpublished] at hbackslash
    cases hbackslash.symm.trans hbracket
  · rintro rfl
    exact (lastLines_of_le (Nat.zero_le _)).symm

namespace Small

/-- Every time is written as the same one. -/
def iso : IsoFormat := ⟨fun _ => "2026-03-07T10:00:00+00:00", fun _ => by decide⟩

end Small

theorem two_messages_shown :
    ShowsPublished (appended Small.iso [(0, "queued "), (1, "")]) ↔ [(0, "queued "), (1, "")] = [] :=
  shows_published_iff Small.iso [(0, "queued "), (1, "")] (by decide)

/-- The stored log of a single message shows it behind a backslash and an `n`. -/
theorem single_message_differs :
    ¬∀ (iso : IsoFormat) (appends : List (Time × String)), (∀ append ∈ appends, '\n' ∉ append.2.toList) →
      ShowsPublished (appended iso appends) := by
  intro h
  have hshown := h Small.iso [(0, "queued ")] (by decide)
  revert hshown
  unfold ShowsPublished
  decide

end ControlPlane.SaasUi
